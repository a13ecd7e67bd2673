import AdmissionLedger.Proofs.Text.Split
import AdmissionLedger.Tree.Pointer

/-!
# Reading pointers

A pointer is read by taking it apart at its slashes and undoing the escapes in every
reference token: first every `~1` becomes a slash, then every `~0` a tilde.  The order
matters, for a tilde in a key must not become part of an escape.

## Main definitions

* `Pointer.replacePoint` — a text with another in the place of one code point.
* `Pointer.replacePair`, `Pointer.unescape` — a reference token as a key.
* `Pointer.decode` — the keys along a pointer, if it is one.
* `Pointer.LeadsTo` — one pointer is another, or the other goes on behind it.

## Main results

* `Pointer.escape_eq_replacePoint` — a reference token is made by two replacements in a row.
* `Pointer.unescape_escape` — a key is the key of its reference token.
* `Pointer.decode_ofKeys` — a pointer along some keys is read as these keys.
* `Pointer.slash_prefix_ofKeys_iff` — which pointers go on behind another.
* `Pointer.ofKeys_read_back` — pointers stand for their keys, prefixes for prefixes.
-/

namespace AdmissionLedger

namespace Pointer

/-- The slash that separates reference tokens. -/
def slash : CodePoint := ↑ '/'

/-- The tilde that opens an escape. -/
def tilde : CodePoint := ↑ '~'

/-! ### Escapes -/

/-- A text with another in the place of every occurrence of a code point. -/
def replacePoint (c : CodePoint) (replacement : Text) (t : Text) : Text :=
  t.flatMap fun d => if d = c then replacement else [d]

/-- A reference token is its key with every tilde, and then every slash, replaced: the tildes that
come in with the slashes are not replaced again. -/
theorem escape_eq_replacePoint (key : Text) :
    escape key = replacePoint slash [tilde, ↑ '1'] (replacePoint tilde [tilde, ↑ '0'] key) := by
  rw [replacePoint, replacePoint, List.flatMap_assoc]
  refine congrArg (key.flatMap ·) (funext fun c => ?_)
  by_cases htilde : c = tilde
  · subst htilde
    decide
  · rw [if_neg htilde, List.flatMap_singleton, escapePoint]
    exact if_neg htilde

/-- A text with one code point for every occurrence of a pair, from left to right. -/
def replacePair (first second replacement : CodePoint) : Text → Text
  | [] => []
  | [c] => [c]
  | c :: d :: rest =>
    if c = first ∧ d = second then replacement :: replacePair first second replacement rest
    else c :: replacePair first second replacement (d :: rest)

/-- A reference token as a key: first every `~1` becomes a slash, then every `~0` a tilde. -/
def unescape (token : Text) : Text :=
  replacePair tilde (↑ '0') tilde (replacePair tilde (↑ '1') slash token)

section

variable {first second replacement c : CodePoint} {rest : Text}

theorem replacePair_of_ne (h : c ≠ first) : replacePair first second replacement (c :: rest)
    = c :: replacePair first second replacement rest := by
  cases rest with
  | nil => rfl
  | cons d rest => rw [replacePair, if_neg fun hpair => h hpair.1]

theorem replacePair_pair : replacePair first second replacement (first :: second :: rest)
    = replacement :: replacePair first second replacement rest := by
  rw [replacePair, if_pos ⟨rfl, rfl⟩]

/-- The first of a pair with another second stays, and so does that second. -/
theorem replacePair_half {d : CodePoint} (hsecond : d ≠ second) (hfirst : d ≠ first) :
    replacePair first second replacement (first :: d :: rest)
      = first :: d :: replacePair first second replacement rest := by
  rw [replacePair, if_neg fun hpair => hsecond hpair.2, replacePair_of_ne hfirst]

end

/-- A code point of a key in a token whose slashes were restored. -/
def escapeTilde (c : CodePoint) : Text :=
  if c = tilde then [tilde, ↑ '0'] else [c]

theorem escapePoint_tilde : escapePoint tilde = [tilde, ↑ '0'] := by decide

theorem escapePoint_slash : escapePoint slash = [tilde, ↑ '1'] := by decide

theorem escapePoint_of_ne {c : CodePoint} (htilde : c ≠ tilde) (hslash : c ≠ slash) :
    escapePoint c = [c] :=
  (if_neg htilde).trans (if_neg hslash)

theorem replacePair_escape (key : Text) :
    replacePair tilde (↑ '1') slash (escape key) = key.flatMap escapeTilde := by
  unfold escape
  induction key with
  | nil => rfl
  | cons c key ih =>
    rw [List.flatMap_cons, List.flatMap_cons]
    by_cases htilde : c = tilde
    · -- `~0` is passed over: its tilde opens no `~1`, and its zero opens nothing
      rw [escapeTilde, if_pos htilde, ← ih, htilde, escapePoint_tilde]
      exact replacePair_half (by decide) (by decide)
    · rw [escapeTilde, if_neg htilde, ← ih]
      by_cases hslash : c = slash
      · rw [hslash, escapePoint_slash]
        exact replacePair_pair
      · rw [escapePoint_of_ne htilde hslash]
        exact replacePair_of_ne htilde

theorem replacePair_escapeTilde (key : Text) :
    replacePair tilde (↑ '0') tilde (key.flatMap escapeTilde) = key := by
  induction key with
  | nil => rfl
  | cons c key ih =>
    rw [List.flatMap_cons, escapeTilde]
    by_cases htilde : c = tilde
    · rw [if_pos htilde, htilde]
      exact replacePair_pair.trans (congrArg (tilde :: ·) ih)
    · rw [if_neg htilde]
      exact (replacePair_of_ne htilde).trans (congrArg (c :: ·) ih)

/-- A key is the key of its reference token. -/
theorem unescape_escape (key : Text) : unescape (escape key) = key := by
  rw [unescape, replacePair_escape, replacePair_escapeTilde]

theorem escape_injective : Function.Injective escape :=
  Function.LeftInverse.injective unescape_escape

/-! ### Pointers -/

/-- The keys along a pointer.  The empty pointer leads nowhere; any other begins with a slash. -/
def decode (path : Text) : Option (List Text) :=
  match path with
  | [] => some []
  | c :: rest => if c = slash then some ((Text.splitOn slash rest).map unescape) else none

theorem slash_not_mem_escape (key : Text) : slash ∉ escape key := by
  intro h
  obtain ⟨c, -, hc⟩ := List.mem_flatMap.mp h
  by_cases htilde : c = tilde
  · rw [htilde, escapePoint_tilde] at hc
    revert hc
    decide
  · by_cases hslash : c = slash
    · rw [hslash, escapePoint_slash] at hc
      revert hc
      decide
    · rw [escapePoint_of_ne htilde hslash, List.mem_singleton] at hc
      exact hslash hc.symm

/-- A pointer is its reference tokens, each behind a slash. -/
theorem ofKeys_eq_flatMap (keys : List Text) :
    ofKeys keys = keys.flatMap fun key => slash :: escape key := by
  have hfold : ∀ path : Text, keys.foldl child path
      = path ++ keys.flatMap fun key => slash :: escape key := by
    induction keys with
    | nil => intro path; rw [List.foldl_nil, List.flatMap_nil, List.append_nil]
    | cons key keys ih =>
      intro path
      rw [List.foldl_cons, ih, List.flatMap_cons, child, List.append_assoc]
      rfl
  exact hfold []

theorem ofKeys_cons (key : Text) (keys : List Text) :
    ofKeys (key :: keys) = slash :: (escape key ++ ofKeys keys) := by
  rw [ofKeys_eq_flatMap, ofKeys_eq_flatMap, List.flatMap_cons]
  rfl

theorem ofKeys_append (keys more : List Text) :
    ofKeys (keys ++ more) = ofKeys keys ++ ofKeys more := by
  rw [ofKeys_eq_flatMap, ofKeys_eq_flatMap, ofKeys_eq_flatMap, List.flatMap_append]

theorem ofKeys_concat (keys : List Text) (key : Text) :
    ofKeys (keys ++ [key]) = child (ofKeys keys) key := by
  rw [ofKeys, List.foldl_append]
  rfl

theorem splitOn_ofKeys (key : Text) (keys : List Text) :
    Text.splitOn slash (escape key ++ ofKeys keys) = (key :: keys).map escape := by
  have hkey (key : Text) : Text.splitOn slash (escape key) = [escape key] :=
    Text.splitOn_of_not_mem (slash_not_mem_escape key)
  induction keys generalizing key with
  | nil => exact (congrArg _ (List.append_nil _)).trans (hkey key)
  | cons next keys ih =>
    -- the slash in front of the next token ends this one, which holds none itself
    rw [ofKeys_cons, Text.splitOn_append_separator, hkey, ih]
    rfl

/-- A pointer along some keys is read as these keys. -/
theorem decode_ofKeys (keys : List Text) : decode (ofKeys keys) = some keys := by
  cases keys with
  | nil => rfl
  | cons key keys =>
    rw [ofKeys_cons, decode, if_pos rfl, splitOn_ofKeys, List.map_map]
    have hid : unescape ∘ escape = id := funext unescape_escape
    rw [hid, List.map_id]

/-- A key that looks like an escape is none. -/
example : decode "/~01/~1//a~0" = some (["~1", "/", "", "a~"] : List Text) := by decide

/-- Pointers along different keys differ, whatever is escaped in them. -/
theorem ofKeys_injective : Function.Injective ofKeys := by
  intro keys keys' h
  have hdecode := congrArg decode h
  rw [decode_ofKeys, decode_ofKeys] at hdecode
  exact Option.some.inj hdecode

/-- A pointer goes on with a slash behind another exactly if it leads further along the same
keys. -/
theorem slash_prefix_ofKeys_iff {keys keys' : List Text} :
    ofKeys keys ++ [slash] <+: ofKeys keys' ↔ ∃ key more, keys' = keys ++ key :: more := by
  constructor
  · rintro ⟨rest, h⟩
    -- the slash parts the tokens of the first pointer from the others
    have htokens := congrArg (Text.splitOn slash) h
    have hall (keys : List Text) : Text.splitOn slash (ofKeys keys) = [] :: keys.map escape :=
      splitOn_ofKeys [] keys
    rw [List.append_assoc, List.singleton_append, Text.splitOn_append_separator, hall, hall,
      List.cons_append, List.cons.injEq] at htokens
    obtain ⟨left, right, rfl, hleft, hright⟩ := List.append_eq_map_iff.mp htokens.2
    obtain rfl := (List.map_inj_right fun _ _ h => escape_injective h).mp hleft
    obtain ⟨key, more, rfl⟩ : ∃ key more, right = key :: more := by
      refine List.exists_cons_of_ne_nil fun hnil => Text.splitOn_ne_nil slash rest ?_
      rw [← hright, hnil, List.map_nil]
    exact ⟨key, more, rfl⟩
  · rintro ⟨key, more, rfl⟩
    rw [ofKeys_append, ofKeys_cons]
    exact ⟨_, by rw [List.append_assoc]; rfl⟩

/-- A pointer leads to another if it is the same, or if the other goes on behind it with a slash. -/
def LeadsTo (path path' : Text) : Prop :=
  path = path' ∨ path ++ [slash] <+: path'

/-- A pointer leads to another exactly if its keys are the first of those along the other. -/
theorem leadsTo_ofKeys_iff {keys keys' : List Text} :
    LeadsTo (ofKeys keys) (ofKeys keys') ↔ keys <+: keys' := by
  rw [LeadsTo, ofKeys_injective.eq_iff, slash_prefix_ofKeys_iff]
  constructor
  · rintro (rfl | ⟨key, more, rfl⟩)
    · exact List.prefix_rfl
    · exact List.prefix_append keys (key :: more)
  · rintro ⟨rest, rfl⟩
    cases rest with
    | nil => exact .inl (List.append_nil keys).symm
    | cons key more => exact .inr ⟨key, more, rfl⟩

/-- A pointer is a slash and a reference token for every key along it, and these keys can be read
back from it.  So pointers are equal only if their keys are, and one leads to another exactly if its
keys are the first of those of the other. -/
theorem ofKeys_read_back (keys keys' : List Text) :
    ofKeys keys = (keys.flatMap fun key =>
      slash :: replacePoint slash [tilde, ↑ '1'] (replacePoint tilde [tilde, ↑ '0'] key)) ∧
    decode (ofKeys keys) = some keys ∧
    (ofKeys keys = ofKeys keys' ↔ keys = keys') ∧
    (LeadsTo (ofKeys keys) (ofKeys keys') ↔ keys <+: keys') := by
  refine ⟨?_, decode_ofKeys keys, ofKeys_injective.eq_iff, leadsTo_ofKeys_iff⟩
  simp only [ofKeys_eq_flatMap, escape_eq_replacePoint]

end Pointer

end AdmissionLedger
