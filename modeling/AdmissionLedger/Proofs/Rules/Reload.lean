import AdmissionLedger.Rules.Reload
import Mathlib.Data.List.Induction
import Mathlib.Logic.Function.Iterate

/-!
# Runs of reloads

A reload reads one file after the other and then replaces both sides at once.  A file
that holds no rules leaves its side alone, and does not keep the other side from being
replaced.  So after any number of reloads each side has the rules that its own file held
last.

## Main definitions

* `HoldsRules` — a file can be read, is text, and the text is a document of rules.
* `InForce` — the rules in force on a side after its file was seen in some states.
* `ReloadCall`, `ReloadCall.step` — a reload under way, and its next step.
* `Reload.Faithful` — what one reload has to do with the two files.
* `FilePair`, `Policy.afterReloads` — the policy after a run of reloads.

## Main results

* `ReloadCall.policy_iterate_step` — only the last of its three steps touches the rules.
* `Policy.reload_faithful` — every reload does with the two files what it has to.
* `Policy.inForce_afterReloads` — each side follows its own file over any run of reloads.
* `Policy.afterReloads_faithful` — both, for every run and each reload in it.
-/

namespace AdmissionLedger

section

variable {α : Type} {read : Text → Check α} {file : Option Bytes} {rules : α}

/-! ### Files -/

/-- A file holds rules: it can be read, its bytes are UTF-8, and without the blanks around it the
text is a document of them. -/
def HoldsRules (read : Text → Check α) (file : Option Bytes) (rules : α) : Prop :=
  ∃ bytes text, file = some bytes ∧ Text.decodeUtf8 false bytes = .ok text ∧
    read text.strip = .ok rules

/-- What comes of a file by what it holds. -/
inductive Yields (read : Text → Check α) : Option Bytes → LoadResult → Prop
  | loaded {file : Option Bytes} {rules : α} (h : HoldsRules read file rules) :
      Yields read file .loaded
  | missing : Yields read none .missing
  | invalid {bytes : Bytes} (h : ∀ rules, ¬ HoldsRules read (some bytes) rules) :
      Yields read (some bytes) .invalid

namespace FileLoad

/-- The rules that are loaded from a file are those that it holds. -/
theorem rules?_ofBytes_eq_some_iff :
    (ofBytes read file).rules? = some rules ↔ HoldsRules read file rules := by
  cases file with
  | none => simp [ofBytes, rules?, HoldsRules]
  | some bytes =>
    cases hdecode : Text.decodeUtf8 false bytes with
    | error e => simp [ofBytes, Check.ofUtf8, rules?, HoldsRules, hdecode]
    | ok text =>
      cases hread : read text.strip with
      | ok rules' => simp [ofBytes, Check.ofUtf8, rules?, HoldsRules, hdecode, hread]
      | bad n => simp [ofBytes, Check.ofUtf8, rules?, HoldsRules, hdecode, hread]

theorem rules?_ofBytes_eq_none_iff :
    (ofBytes read file).rules? = none ↔ ∀ rules, ¬ HoldsRules read file rules := by
  simp only [← rules?_ofBytes_eq_some_iff, Option.eq_none_iff_forall_ne_some, Ne]

theorem isSome_rules?_ofBytes_iff :
    (ofBytes read file).rules?.isSome = true ↔ ∃ rules, HoldsRules read file rules := by
  rw [Option.isSome_iff_exists]
  simp only [rules?_ofBytes_eq_some_iff]

/-- The result that is counted for a file goes by what it holds. -/
theorem yields_result_ofBytes (read : Text → Check α) (file : Option Bytes) :
    Yields read file (ofBytes read file).result := by
  cases file with
  | none => exact .missing
  | some bytes =>
    cases hload : ofBytes read (some bytes) with
    | loaded rules =>
      have hheld : HoldsRules read (some bytes) rules := by
        rw [← rules?_ofBytes_eq_some_iff, hload]
        rfl
      exact .loaded hheld
    | missing =>
      -- what is there is never taken for missing
      simp only [ofBytes] at hload
      split at hload <;> cases hload
    | invalid =>
      refine .invalid (rules?_ofBytes_eq_none_iff.mp ?_)
      rw [hload]
      rfl

end FileLoad

/-! ### One side over a run -/

/-- The rules in force on a side after its file was seen in some states: those that it held last,
or those from before if it never held any. -/
inductive InForce (read : Text → Check α) (before : Option α) :
    List (Option Bytes) → Option α → Prop
  | kept {files : List (Option Bytes)}
      (h : ∀ file ∈ files, ∀ rules, ¬ HoldsRules read file rules) : InForce read before files before
  | loaded {earlier later : List (Option Bytes)} {file : Option Bytes} {rules : α}
      (h : HoldsRules read file rules)
      (hlater : ∀ file ∈ later, ∀ rules, ¬ HoldsRules read file rules) :
      InForce read before (earlier ++ file :: later) (some rules)

/-- One more state of the file: the rules that it holds, or else those in force. -/
theorem InForce.concat {before current : Option α} {files : List (Option Bytes)}
    (h : InForce read before files current) (file : Option Bytes) :
    InForce read before (files ++ [file]) ((FileLoad.ofBytes read file).rules?.or current) := by
  cases hrules : (FileLoad.ofBytes read file).rules? with
  | some rules =>
    exact .loaded (FileLoad.rules?_ofBytes_eq_some_iff.mp hrules) (List.forall_mem_nil _)
  | none =>
    have hnot := FileLoad.rules?_ofBytes_eq_none_iff.mp hrules
    cases h with
    | kept h =>
      exact .kept (List.forall_mem_append.mpr ⟨h, List.forall_mem_singleton.mpr hnot⟩)
    | loaded h hlater =>
      rw [List.append_assoc, List.cons_append]
      exact .loaded h (List.forall_mem_append.mpr ⟨hlater, List.forall_mem_singleton.mpr hnot⟩)

end

/-! ### A reload step by step -/

/-- How far a reload has come. -/
inductive ReloadStage
  | begun
  | ignoreRead (ignore : FileLoad IgnoreRules)
  | bothRead (ignore : FileLoad IgnoreRules) (block : FileLoad BlockRules)
  /-- It has told whether rules were loaded. -/
  | returned (changed : Bool)

/-- A reload under way: the rules in force, and what it has counted. -/
structure ReloadCall where
  stage : ReloadStage
  policy : Policy
  counts : List Counter

namespace ReloadCall

/-- The next step of a reload that finds the two files in some states. -/
def step (ignoreFile blockFile : Option Bytes) (c : ReloadCall) : ReloadCall :=
  match c.stage with
  | .begun =>
    let ignore := FileLoad.ofBytes Patterns.ofText ignoreFile
    ⟨.ignoreRead ignore, c.policy, c.counts ++ [.reloads .ignore ignore.result]⟩
  | .ignoreRead ignore =>
    let block := FileLoad.ofBytes BlockRules.ofText blockFile
    ⟨.bothRead ignore block, c.policy, c.counts ++ [.reloads .block block.result]⟩
  | .bothRead ignore block =>
    if ignore.rules?.isNone && block.rules?.isNone then { c with stage := .returned false }
    else { c with
      stage := .returned true
      policy := c.policy.replace ignore.rules? block.rules? }
  | .returned _ => c

/-- A reload that begins. -/
def start (p : Policy) : ReloadCall := ⟨.begun, p, []⟩

end ReloadCall

/-- The two files as one reload finds them. -/
structure FilePair where
  ignore : Option Bytes
  block : Option Bytes

namespace ReloadCall

variable (ignoreFile blockFile : Option Bytes) (p : Policy)

/-- A reload that has returned takes no further step. -/
theorem step_returned (changed : Bool) (counts : List Counter) :
    step ignoreFile blockFile ⟨.returned changed, p, counts⟩ = ⟨.returned changed, p, counts⟩ :=
  rfl

/-- The three steps of a reload together. -/
theorem iterate_step_three {logged : Logged Reload}
    (h : p.reload (.files ignoreFile blockFile) = .ok logged) :
    (step ignoreFile blockFile)^[3] (.start p) =
      ⟨.returned logged.value.changed, logged.value.policy, logged.value.counts⟩ := by
  cases h
  simp only [Function.iterate_succ_apply, Function.iterate_zero_apply, start, step]
  -- with nothing loaded the replacement is left out, and would change nothing
  cases (FileLoad.ofBytes Patterns.ofText ignoreFile).rules? <;>
    cases (FileLoad.ofBytes BlockRules.ofText blockFile).rules? <;> rfl

/-- The rules from before are in force until the last step, and those from after it since. -/
theorem policy_iterate_step {logged : Logged Reload}
    (h : p.reload (.files ignoreFile blockFile) = .ok logged) (n : ℕ) :
    ((step ignoreFile blockFile)^[n] (.start p)).policy =
      if n < 3 then p else logged.value.policy := by
  match n with
  | 0 | 1 | 2 => rfl
  | n + 3 =>
    have hlast : (step ignoreFile blockFile)^[n + 3] (.start p) =
        ⟨.returned logged.value.changed, logged.value.policy, logged.value.counts⟩ := by
      rw [Function.iterate_add_apply, iterate_step_three ignoreFile blockFile p h]
      exact Function.iterate_fixed (step_returned ..) n
    rw [hlast, if_neg (by omega)]

end ReloadCall

/-- What one reload has to do with the states of the two files, given the rules in force before. -/
structure Reload.Faithful (p : Policy) (files : FilePair) (r : Reload) : Prop where
  /-- It tells that rules were loaded exactly if one of the files holds some. -/
  changed : r.changed = true ↔ (∃ rules, HoldsRules Patterns.ofText files.ignore rules) ∨
    ∃ rules, HoldsRules BlockRules.ofText files.block rules
  untouched : r.changed = false → r.policy = p
  /-- One result is counted for each file. -/
  counts : ∃ ignore block, Yields Patterns.ofText files.ignore ignore ∧
    Yields BlockRules.ofText files.block block ∧
    r.counts = [.reloads .ignore ignore, .reloads .block block]
  /-- No other pair than those from before and after is ever in force. -/
  atOnce : ∀ n, ((ReloadCall.step files.ignore files.block)^[n] (.start p)).policy =
    if n < 3 then p else r.policy
  /-- The three steps are all of it. -/
  returned : (ReloadCall.step files.ignore files.block)^[3] (.start p) =
    ⟨.returned r.changed, r.policy, r.counts⟩

namespace Policy

/-- A reload is never refused where the files can be looked for, and does what it has to. -/
theorem reload_faithful (p : Policy) (files : FilePair) :
    ∃ logged, p.reload (.files files.ignore files.block) = .ok logged ∧
      logged.value.Faithful p files := by
  refine ⟨_, rfl, ?_, ?_, ?_, ReloadCall.policy_iterate_step _ _ p rfl,
    ReloadCall.iterate_step_three _ _ p rfl⟩
  · simp only [Bool.or_eq_true, FileLoad.isSome_rules?_ofBytes_iff]
  · intro hchanged
    simp only [Bool.or_eq_false_iff, Option.isSome_eq_false_iff, Option.isNone_iff_eq_none]
      at hchanged
    simp only [Policy.replace, hchanged.1, hchanged.2, Option.none_or]
  · exact ⟨_, _, FileLoad.yields_result_ofBytes _ _, FileLoad.yields_result_ofBytes _ _, rfl⟩

/-! ### Runs -/

/-- The policy after a reload; one that is refused leaves it as it is. -/
def afterReload (p : Policy) (files : FilePair) : Policy :=
  match p.reload (.files files.ignore files.block) with
  | .ok logged => logged.value.policy
  | .error _ => p

/-- The policy after a run of reloads, each of which finds its own states of the files. -/
def afterReloads (p : Policy) (calls : List FilePair) : Policy :=
  calls.foldl afterReload p

/-- What one reload does to the two sides. -/
theorem afterReload_eq (p : Policy) (files : FilePair) :
    p.afterReload files =
      ⟨(FileLoad.ofBytes Patterns.ofText files.ignore).rules?.or p.ignore,
        (FileLoad.ofBytes BlockRules.ofText files.block).rules?.or p.block⟩ :=
  rfl

theorem afterReloads_concat (p : Policy) (calls : List FilePair) (files : FilePair) :
    p.afterReloads (calls ++ [files]) = (p.afterReloads calls).afterReload files :=
  List.foldl_append

/-- Over any run of reloads each side follows its own file, whatever the other one holds. -/
theorem inForce_afterReloads (p : Policy) (calls : List FilePair) :
    InForce Patterns.ofText p.ignore (calls.map FilePair.ignore) (p.afterReloads calls).ignore ∧
      InForce BlockRules.ofText p.block (calls.map FilePair.block)
        (p.afterReloads calls).block := by
  -- the induction adds the last call, since its files are the ones seen last
  induction calls using List.reverseRecOn with
  | nil => exact ⟨.kept (List.forall_mem_nil _), .kept (List.forall_mem_nil _)⟩
  | append_singleton calls files ih =>
    rw [afterReloads_concat, afterReload_eq, List.map_append, List.map_append]
    exact ⟨ih.1.concat files.ignore, ih.2.concat files.block⟩

/-- After any run of reloads each side has the rules that its own file held last, and each reload
of the run did with the files that it found what it has to. -/
theorem afterReloads_faithful (p : Policy) (calls : List FilePair) :
    (InForce Patterns.ofText p.ignore (calls.map FilePair.ignore) (p.afterReloads calls).ignore ∧
      InForce BlockRules.ofText p.block (calls.map FilePair.block)
        (p.afterReloads calls).block) ∧
    ∀ earlier files later, calls = earlier ++ files :: later →
      ∃ logged, (p.afterReloads earlier).reload (.files files.ignore files.block) = .ok logged ∧
        logged.value.Faithful (p.afterReloads earlier) files :=
  ⟨p.inForce_afterReloads calls, fun earlier files _ _ =>
    (p.afterReloads earlier).reload_faithful files⟩

end Policy

/-- Two files with some texts. -/
def FilePair.ofTexts (ignore block : Text) : FilePair :=
  ⟨some (ignore.flatMap CodePoint.utf8Bytes), some (block.flatMap CodePoint.utf8Bytes)⟩

/-- Ignore rules beside a file that is cut off. -/
def FilePair.exampleIgnore : FilePair :=
  .ofTexts "\x7b\"name_patterns\":[\"web\"]\x7d" "\x7b"

/-- Block rules beside a file that is cut off. -/
def FilePair.exampleBlock : FilePair :=
  .ofTexts "[" "\x7b\"resource_kind_patterns\":[\"Pod\"]\x7d"

/-- A file that holds no rules neither loses those of its own side nor holds up the other one. -/
theorem Policy.afterReloads_faithful_examples :
    let before : Policy := { block := some { namespaces := ["prod"] } }
    let calls : List FilePair := [.exampleIgnore, .exampleBlock]
    before.afterReload .exampleIgnore = ⟨some ⟨[], ["web"], []⟩, before.block⟩ ∧
      InForce Patterns.ofText none (calls.map FilePair.ignore) (some ⟨[], ["web"], []⟩) ∧
      InForce BlockRules.ofText before.block (calls.map FilePair.block)
        (some { kinds := ["Pod"] }) ∧
      ∃ logged, before.reload (.files FilePair.exampleIgnore.ignore FilePair.exampleIgnore.block) =
          .ok logged ∧ logged.value.Faithful before .exampleIgnore ∧
        logged.value.counts = [.reloads .ignore .loaded, .reloads .block .invalid] := by
  intro before calls
  have hfirst : before.afterReload .exampleIgnore = ⟨some ⟨[], ["web"], []⟩, before.block⟩ := by
    decide +kernel
  have hsecond : (⟨some ⟨[], ["web"], []⟩, before.block⟩ : Policy).afterReload .exampleBlock =
      ⟨some ⟨[], ["web"], []⟩, some { kinds := ["Pod"] }⟩ := by decide +kernel
  have hafter : before.afterReloads calls =
      ⟨some ⟨[], ["web"], []⟩, some { kinds := ["Pod"] }⟩ := by
    simp only [calls, Policy.afterReloads, List.foldl_cons, List.foldl_nil, hfirst, hsecond]
  obtain ⟨⟨hignore, hblock⟩, hcalls⟩ := before.afterReloads_faithful calls
  rw [hafter] at hignore hblock
  obtain ⟨logged, hlogged, hfaithful⟩ := hcalls [] .exampleIgnore [.exampleBlock] rfl
  have hcounts : (before.reload (.files FilePair.exampleIgnore.ignore
      FilePair.exampleIgnore.block)).toOption.map (·.value.counts) =
        some [.reloads .ignore .loaded, .reloads .block .invalid] := by decide +kernel
  rw [show before.reload _ = _ from hlogged] at hcounts
  exact ⟨hfirst, hignore, hblock, logged, hlogged, hfaithful, Option.some.inj hcounts⟩

end AdmissionLedger
