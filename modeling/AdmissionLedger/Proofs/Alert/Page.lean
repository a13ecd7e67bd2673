import AdmissionLedger.Alert.Mail
import AdmissionLedger.Proofs.Alert.Markup
import AdmissionLedger.Proofs.Except

/-!
# Pages about events

The page about an event is a fixed frame: it follows from the operation, from whether it
was let through, and from how many rows and edits there are.  The texts of the event stand
in its holes, all of them outside of tags.

## Main definitions

* `Event.pageFrame` — the frame of a page.
* `Event.displayed` — the texts in its holes, in order.

## Main results

* `Event.page_frame`, `Event.page_shown` — a page taken apart into frame and texts.
* `Event.pageFrame_closed` — no hole stands in a tag.
* `Event.write_page`, `Event.tags_page` — the written page and its tags.
* `Event.page_holds_no_foreign_markup` — what a page with any texts is.
-/

namespace AdmissionLedger

/-! ### Known texts

The code points of a long literal are found by rewriting, before anything is computed from it. -/

theorem Text.ofString_append (s t : String) :
    Text.ofString (s ++ t) = Text.ofString s ++ Text.ofString t := by
  simp only [Text.ofString, String.toList_append, List.map_append]

theorem Text.ofString_ofList (cs : List Char) :
    Text.ofString (String.ofList cs) = Text.ofChars cs := by
  rw [Text.ofString, String.toList_ofList, Text.ofChars]

namespace Page

/-! ### Lines -/

/-- The frame of some lines of one kind. -/
def Frame.lines (line : Frame) : (count : Nat) → Frame
  | 0 => []
  | 1 => line
  | count + 2 => line ++ some [.lineFeed] :: Frame.lines line (count + 1)

/-- Lines of one frame have it as often as there are lines. -/
theorem map_frame_lines (line : Frame) (parts : List (List Piece))
    (h : ∀ part ∈ parts, part.map Piece.frame = line) :
    (lines parts).map Piece.frame = Frame.lines line parts.length := by
  induction parts with
  | nil => rfl
  | cons part parts ih =>
    rw [List.forall_mem_cons] at h
    cases parts with
    | nil => exact h.1
    | cons next rest =>
      rw [lines, List.map_append, List.map_cons, h.1, ih h.2]
      · rfl
      · exact List.cons_ne_nil _ _

/-- Lines display what their parts display. -/
theorem filterMap_shown_lines (parts : List (List Piece)) :
    (lines parts).filterMap Piece.shown? = parts.flatMap (List.filterMap Piece.shown?) := by
  induction parts with
  | nil => rfl
  | cons part parts ih =>
    cases parts with
    | nil => rw [lines, List.flatMap_cons, List.flatMap_nil, List.append_nil]
    | cons next rest =>
      rw [lines, List.filterMap_append, List.flatMap_cons, ← ih]
      · rfl
      · exact List.cons_ne_nil _ _

theorem Frame.Closed.lines {line : Frame} (h : line.Closed) (count : Nat) :
    (Frame.lines line count).Closed := by
  induction count with
  | zero => rfl
  | succ count ih =>
    cases count with
    | zero => exact h
    | succ count =>
      have hfeed : Frame.Closed [some [.lineFeed]] := by decide
      exact h.append (hfeed.append ih)

end Page

open Page

namespace Event

/-! ### The frame of a page -/

/-- The color of the head of a page about an operation. -/
def headColor (operation : Operation) (allowed : Bool) : Text :=
  if allowed then operationColor operation else "#b71c1c"

/-- The page up to the rows. -/
def headFrame (operation : Operation) (allowed : Bool) : Frame :=
  [pageStart, .markup (headColor operation allowed), pageHead, .shown [], pageTable].map Piece.frame

/-- A row of the table. -/
def rowFrame : Frame :=
  (rowPieces [] []).map Piece.frame

/-- An item of the list of changes. -/
def editFrame : Frame :=
  (editPieces (.remove [])).map Piece.frame

/-- The list of changes, if there are any. -/
def changeFrame : (edits : Nat) → Frame
  | 0 => []
  | edits + 1 =>
    some (Text.ofString "<h2 style=\"font-size: 15px; color: #424242;\">Changes</h2><ul>") ::
      Frame.lines editFrame (edits + 1) ++ [some (Text.ofString "</ul>")]

/-- The frame of a page with some rows about some edits. -/
def pageFrame (operation : Operation) (allowed : Bool) (rows edits : Nat) : Frame :=
  headFrame operation allowed ++ Frame.lines rowFrame rows ++ [pageChanges.frame] ++
    changeFrame edits ++ [pageEnd.frame]

theorem map_frame_changePieces (patch : Patch) :
    (changePieces patch).map Piece.frame = changeFrame patch.length := by
  cases patch with
  | nil => rfl
  | cons edit patch =>
    have hlines := map_frame_lines editFrame ((edit :: patch).map editPieces) (by
      rw [List.forall_mem_map]
      exact fun _ _ => rfl)
    rw [List.length_map] at hlines
    rw [changePieces, if_neg (by simp), List.map_append, List.map_cons, hlines]
    rfl

/-- The frame of a page follows from the operation, from whether it was let through, and from how
many rows and edits there are. -/
theorem page_frame (e : Event) :
    e.page.map Piece.frame = pageFrame e.operation e.allowed e.rows.length e.patch.length := by
  simp only [page, List.map_append, map_frame_changePieces]
  rw [map_frame_lines rowFrame, List.length_map]
  · rfl
  · rw [List.forall_mem_map]
    exact fun _ _ => rfl

/-- There are as many rows as the verdict says. -/
theorem length_rows (e : Event) : e.rows.length = if e.allowed then 7 else 8 := by
  rw [rows]
  split <;> rfl

/-! ### The texts in its holes -/

/-- The texts that the page about an event displays: the summary, the label and the value of each
row, the kind and the location of each edit. -/
def displayed (e : Event) : List Text :=
  e.summary :: (e.rows.flatMap fun (label, value) => [label, value]) ++
    e.patch.flatMap fun edit => [edit.kind.name, edit.location]

theorem filterMap_shown_changePieces (patch : Patch) :
    (changePieces patch).filterMap Piece.shown? =
      patch.flatMap fun edit => [edit.kind.name, edit.location] := by
  cases patch with
  | nil => rfl
  | cons edit patch =>
    have hlines := filterMap_shown_lines ((edit :: patch).map editPieces)
    rw [List.flatMap_map] at hlines
    rw [changePieces, if_neg (by simp), List.filterMap_append]
    exact (List.append_nil _).trans hlines

theorem page_shown (e : Event) : e.page.filterMap Piece.shown? = e.displayed := by
  simp only [page, List.filterMap_append, filterMap_shown_lines, List.flatMap_map,
    filterMap_shown_changePieces]
  change e.summary :: _ ++ [] ++ _ ++ [] = _
  rw [List.append_nil, List.append_nil]
  rfl

/-! ### Its tags -/

theorem headFrame_closed (operation : Operation) (allowed : Bool) :
    (headFrame operation allowed).Closed := by
  cases allowed <;> cases operation <;>
    · simp only [headFrame, headColor, operationColor, pageStart, pageHead, pageTable, raw,
        List.map_cons, List.map_nil, Piece.frame, Text.ofString_append, if_true,
        Bool.false_eq_true, if_false]
      repeat rw [Text.ofString_ofList]
      decide +kernel

theorem rowFrame_closed : rowFrame.Closed := by
  simp only [rowFrame, rowPieces, raw, List.map_cons, List.map_nil, Piece.frame]
  repeat rw [Text.ofString_ofList]
  decide +kernel

theorem editFrame_closed : editFrame.Closed := by
  simp only [editFrame, editPieces, raw, List.map_cons, List.map_nil, Piece.frame]
  repeat rw [Text.ofString_ofList]
  decide +kernel

theorem changeFrame_closed (edits : Nat) : (changeFrame edits).Closed := by
  cases edits with
  | zero => rfl
  | succ edits =>
    rw [changeFrame, Text.ofString_ofList, Text.ofString_ofList]
    exact Frame.Closed.append (f := [some _] ++ Frame.lines editFrame (edits + 1))
      (Frame.Closed.append (f := [some _]) (by decide +kernel) (editFrame_closed.lines _))
      (by decide +kernel)

/-- No hole of a page stands in a tag. -/
theorem pageFrame_closed (operation : Operation) (allowed : Bool) (rows edits : Nat) :
    (pageFrame operation allowed rows edits).Closed := by
  have hchanges : Frame.Closed [pageChanges.frame] := by decide +kernel
  have hend : Frame.Closed [pageEnd.frame] := by decide +kernel
  exact ((((headFrame_closed operation allowed).append (rowFrame_closed.lines rows)).append
    hchanges).append (changeFrame_closed edits)).append hend

/-- A page is its frame, filled with the escaped texts that it displays. -/
theorem write_page (e : Event) :
    write e.page = fill (pageFrame e.operation e.allowed e.rows.length e.patch.length)
      (e.displayed.map escape) := by
  rw [write_eq_fill, page_frame, page_shown]

/-- The tags of a page are those of its frame. -/
theorem tags_page (e : Event) : tags (write e.page) =
    (pageFrame e.operation e.allowed e.rows.length e.patch.length).tagsFrom .text := by
  rw [write_page]
  refine tags_fill (pageFrame_closed _ _ _ _) ?_
  rw [List.forall_mem_map]
  exact fun t _ => inert_escape t

/-! ### The page of a mail -/

/-- What a mail about an event brings. -/
theorem mail_eq_ok {e : Event} {r : Template.Reflection} {template sender : Text}
    {recipients : List Text} {m : Mail} (h : e.mail r template sender recipients = .ok m) :
    ∃ subject, e.subject r template = .ok subject ∧
      m = ⟨subject, sender, Text.join ", " recipients, e.plainText, write e.page⟩ := by
  rw [mail, Except.bind_eq_ok_iff] at h
  obtain ⟨subject, hsubject, h⟩ := h
  obtain ⟨_, -, h⟩ := Except.bind_eq_ok_iff.mp h
  obtain ⟨_, -, h⟩ := Except.bind_eq_ok_iff.mp h
  cases h
  exact ⟨subject, Except.mapError_eq_ok_iff.mp hsubject, rfl⟩

/-- The page about an event is a fixed frame, filled with the escaped texts that it displays.  The
frame follows from the operation, from whether it was let through, and from how many rows and edits
there are, and no hole of it stands in a tag.  No escaped text is markup, and each is read back as
what is displayed.  So events that agree in the operation, in whether it was let through and in how
many edits there are have pages with the same tags; and it is this page that a mail brings. -/
theorem page_holds_no_foreign_markup (e : Event) :
    let frame := pageFrame e.operation e.allowed e.rows.length e.patch.length
    write e.page = fill frame (e.displayed.map escape) ∧
      frame.count none = e.displayed.length ∧ frame.Closed ∧
      (∀ t ∈ e.displayed, Inert (escape t) ∧ unescape (escape t) = t) ∧
      e.rows.length = (if e.allowed then 7 else 8) ∧
      (∀ e' : Event, e'.operation = e.operation → e'.allowed = e.allowed →
        e'.patch.length = e.patch.length → tags (write e'.page) = tags (write e.page)) ∧
      ∀ (r : Template.Reflection) (template sender : Text) (recipients : List Text) (m : Mail),
        e.mail r template sender recipients = .ok m → m.page = write e.page := by
  refine ⟨e.write_page, ?_, pageFrame_closed _ _ _ _,
    fun t _ => ⟨inert_escape t, unescape_escape t⟩, e.length_rows, ?_, ?_⟩
  · rw [← page_frame, count_holes, page_shown]
  · intro e' hoperation hallowed hedits
    rw [tags_page, tags_page, length_rows, length_rows, hoperation, hallowed, hedits]
  · intro r template sender recipients m h
    obtain ⟨subject, -, hm⟩ := mail_eq_ok h
    rw [hm]

/-- The denied creation of a pod with some name. -/
def exampleDenied (name : Text) : Event where
  operation := .create
  resourceKind := "Pod"
  scope := "shop"
  name := name
  allowed := false
  blockPattern := "Pod/*"

theorem page_holds_no_foreign_markup_exampleDenied :
    tags (write (exampleDenied "<script>alert(1)</script>").page) =
      tags (write (exampleDenied "web").page) := by
  obtain ⟨-, -, -, -, -, htags, -⟩ := page_holds_no_foreign_markup (exampleDenied "web")
  exact htags (exampleDenied "<script>alert(1)</script>") rfl rfl rfl

end Event

end AdmissionLedger
