import AdmissionLedger.Event.Basic

/-!
# Pages

A page is fixed markup with displayed texts between.  Displayed texts are escaped
when the page is written, so whatever they hold, the markup stays the same.

## Main definitions

* `Page.escape` — a text as it is written between markup.
* `Page.Piece`, `Page.write` — markup and displayed texts, and their written form.
* `Event.page` — the page about an event.
-/

namespace AdmissionLedger

namespace Page

/-- A code point as it is written between markup. -/
def escapePoint (c : CodePoint) : Text :=
  match c.toChar with
  | '&' => "&amp;"
  | '<' => "&lt;"
  | '>' => "&gt;"
  | _ => if c = .doubleQuote then "&quot;" else if c = .apostrophe then "&#x27;" else [c]

/-- A text as it is written between markup. -/
def escape (t : Text) : Text :=
  t.flatMap escapePoint

/-- A part of a page. -/
inductive Piece
  | markup (text : Text)
  /-- A text that a reader of the page sees as it is. -/
  | shown (text : Text)

/-- The written form of a part. -/
def Piece.write : Piece → Text
  | markup t => t
  | shown t => escape t

/-- The written form of a page. -/
def write (page : List Piece) : Text :=
  page.flatMap Piece.write

/-- Markup known in advance. -/
def raw (s : String) : Piece := .markup s

/-- Lists of parts with a line feed between. -/
def lines : List (List Piece) → List Piece
  | [] => []
  | [line] => line
  | line :: rest => line ++ .markup [.lineFeed] :: lines rest

end Page

namespace Event

open Page

/-- The color that stands for an operation. -/
def operationColor : Operation → Text
  | .create => "#2e7d32"
  | .update => "#1565c0"
  | .delete => "#e65100"
  | .exec => "#6a1b9a"

/-- The color of the head of a page: that of the operation, or another one if it was denied. -/
def color (e : Event) : Text :=
  if e.allowed then operationColor e.operation else "#b71c1c"

/-- A dash in place of an empty text. -/
def orDash (t : Text) : Text :=
  if t.isEmpty then "-" else t

/-- What is said about an event, label by label. -/
def rows (e : Event) : List (Text × Text) :=
  let time : Text := match e.timestamp with
    | some t => t.toSecond
    | none => "-"
  let always : List (Text × Text) := [("Operation", e.operation.name), ("Resource", e.resource),
    ("Namespace", orDash e.scope), ("User", orDash e.actor.username), ("Source", e.source.name),
    ("Time", time), ("Event ID", e.id)]
  if e.allowed then always else always ++ [(Text.ofString "Blocked by", e.blockPattern)]

/-- A row of the table. -/
def rowPieces (label value : Text) : List Piece :=
  [raw "<tr><td style=\"color: #757575; width: 120px;\"><strong>", .shown label,
    raw "</strong></td><td style=\"font-family: monospace;\">", .shown value, raw "</td></tr>"]

/-- An item of the list of changes. -/
def editPieces (edit : Edit Text) : List Piece :=
  [raw "<li><code>", .shown edit.kind.name, raw " ", .shown edit.location, raw "</code></li>"]

/-- The list of changes, if there are any. -/
def changePieces (patch : Patch) : List Piece :=
  if patch.isEmpty then []
  else
    raw "<h2 style=\"font-size: 15px; color: #424242;\">Changes</h2><ul>" ::
      lines (patch.map editPieces) ++ [raw "</ul>"]

/-- The page up to the color of its head. -/
def pageStart : Piece :=
  raw <| "<!DOCTYPE html>\n<html lang=\"en\">\n" ++
    "<head><meta charset=\"utf-8\" /><title>kubechronicle</title></head>\n" ++
    "<body style=\"font-family: -apple-system, BlinkMacSystemFont, " ++
    "'Segoe UI', Roboto, sans-serif;\n" ++
    "             background: #f5f5f5; margin: 0; padding: 24px;\">\n" ++
    "  <table width=\"600\" cellpadding=\"0\" cellspacing=\"0\"\n" ++
    "         style=\"background: #ffffff; border-radius: 8px; margin: 0 auto;\">\n" ++
    "    <tr>\n      <td style=\"background: "

/-- The page between the color of its head and the summary. -/
def pageHead : Piece :=
  raw <| "; padding: 20px 28px; border-radius: 8px 8px 0 0;\">\n" ++
    "        <h1 style=\"color: #ffffff; margin: 0; font-size: 18px;\">"

/-- The page between the summary and the rows. -/
def pageTable : Piece :=
  raw <| "</h1>\n      </td>\n    </tr>\n    <tr>\n      <td style=\"padding: 24px 28px;\">\n" ++
    "        <table width=\"100%\" cellpadding=\"6\" cellspacing=\"0\" " ++
    "style=\"border-collapse: collapse;\">\n"

/-- The page between the rows and the changes. -/
def pageChanges : Piece :=
  raw "\n        </table>\n        "

/-- The page after the changes. -/
def pageEnd : Piece :=
  raw "\n      </td>\n    </tr>\n  </table>\n</body>\n</html>"

/-- The page about an event. -/
def page (e : Event) : List Piece :=
  [pageStart, .markup e.color, pageHead, .shown e.summary, pageTable] ++
    lines (e.rows.map fun (label, value) => rowPieces label value) ++ [pageChanges] ++
    changePieces e.patch ++ [pageEnd]

end Event

end AdmissionLedger
