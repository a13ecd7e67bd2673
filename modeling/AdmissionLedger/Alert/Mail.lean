import AdmissionLedger.Alert.Page
import AdmissionLedger.Template.Fill
import AdmissionLedger.Text.Utf8

/-!
# Mails

A mail about an event says the same twice, as plain text and as a page.  Its
subject is made from a template.

## Main definitions

* `Mail` — a mail before it is sent.
* `Event.subject` — the subject from a template.
* `Event.plainText` — the plain part.
* `Event.mail` — the whole mail, or why there is none.
* `Mail.received` — the mail as it is read at the other end.
-/

namespace AdmissionLedger

/-- A mail before it is sent. -/
structure Mail where
  subject : Text
  sender : Text
  /-- The recipients with commas between them. -/
  recipients : Text
  plain : Text
  page : Text

/-- Why a mail cannot be written or read. -/
inductive MailError
  | subject (fault : Template.Fault)
  | encoding (error : EncodeError)
  | decoding (error : DecodeError)
  deriving DecidableEq, Repr

/-- The wording of a failure. -/
def MailError.message : MailError → Text
  | subject fault => fault.message
  | encoding e => e.message
  | decoding e => e.message

/-- The template that is used if none is given. -/
def defaultSubject : Text := "[kubechronicle] \x7boperation\x7d \x7bkind\x7d/\x7bname\x7d"

namespace Event

/-- The values that the template of a subject can name. -/
def subjectValues (e : Event) : Template.Values :=
  [("operation", e.operation.name), ("kind", e.resourceKind), ("name", e.name),
    ("namespace", e.scope)]

/-- The subject from a template; one that cannot be used is the subject itself. -/
def subject (e : Event) (r : Template.Reflection) (template : Text) :
    Except Template.Fault Text :=
  match Template.fill r e.subjectValues template with
  | .error .unusable => .ok template
  | result => result

/-- A row of the plain part. -/
def plainRow (label value : Text) : Text :=
  (label ++ ":").padRight 12 ++ value

/-- The changes in the plain part, if there are any. -/
def plainChanges (patch : Patch) : List Text :=
  if patch.isEmpty then []
  else [] :: Text.ofString "Changes" :: List.replicate 60 (CodePoint.ofChar '-') ::
    patch.map fun edit => edit.kind.name.padRight 8 ++ edit.location

/-- The plain part of a mail. -/
def plainText (e : Event) : Text :=
  let lines := e.summary :: List.replicate 60 (CodePoint.ofChar '=') :: [] ::
    (e.rows.map fun (label, value) => plainRow label value) ++ plainChanges e.patch
  Text.join [.lineFeed] lines ++ [.lineFeed]

/-- A mail about an event.  Both parts must have bytes. -/
def mail (e : Event) (r : Template.Reflection) (template sender : Text) (recipients : List Text) :
    Except MailError Mail := do
  let subject ← (e.subject r template).mapError .subject
  let page := Page.write e.page
  let _ ← (Text.encodeUtf8Raw e.plainText).mapError .encoding
  let _ ← (Text.encodeUtf8Raw page).mapError .encoding
  return ⟨subject, sender, Text.join ", " recipients, e.plainText, page⟩

end Event

namespace Mail

/-- A header as it is shown.  Bytes of an unknown encoding are replaced; next to them, only ASCII
can be shown. -/
def shownHeader (t : Text) : Except EncodeError Text :=
  if t.hasSurrogate then
    match Text.firstRefused .ascii (fun c => 0x80 ≤ c.val) CodePoint.isRawByte t with
    | some e => .error e
    | none => .ok (t.map fun c => if c.isRawByte then CodePoint.ofChar '\uFFFD' else c)
  else .ok t

/-- A part as it is read from its bytes. -/
def receivedPart (t : Text) : Except MailError Text := do
  let bytes ← (Text.encodeUtf8Raw t).mapError .encoding
  (Text.decodeUtf8 false bytes).mapError .decoding

/-- The mail as it is read at the other end. -/
def received (m : Mail) : Except MailError Mail := do
  let subject ← (shownHeader m.subject).mapError .encoding
  let sender ← (shownHeader m.sender).mapError .encoding
  let recipients ← (shownHeader m.recipients).mapError .encoding
  let plain ← receivedPart m.plain
  let page ← receivedPart m.page
  return ⟨subject, sender, recipients, plain, page⟩

end Mail

end AdmissionLedger
