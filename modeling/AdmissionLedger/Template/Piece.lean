import AdmissionLedger.Template.Value

/-!
# Pieces

A template is a text with replacement fields in braces; a brace itself is written
twice.  A field names a value, may look into it, may quote it, and may say how it is
to be shown.

## Main definitions

* `Piece`, `pieces` — the parts of a template.
* `Field`, `Field.steps` — a field, and the looks that it takes into its value.
-/

namespace AdmissionLedger.Template

/-- A replacement field as it is written. -/
structure Field where
  /-- The name of the value, with what looks into it. -/
  name : Text
  /-- The letter that says how the value is quoted. -/
  conversion : Option CodePoint
  /-- How the value is shown. -/
  spec : Text
  deriving DecidableEq, Repr

/-- A part of a template. -/
inductive Piece
  | literal (text : Text)
  | field (field : Field)
  /-- The template is wrong from here on. -/
  | malformed
  deriving DecidableEq, Repr

/-- The name of a field: what ends it, and the rest.  Inside square brackets nothing ends it. -/
def scanName : (inBrackets : Bool) → (done : Text) → Text → Option (Text × CodePoint × Text)
  | _, _, [] => none
  | true, done, c :: rest => scanName (c ≠ ↑ ']') (c :: done) rest
  | false, done, c :: rest =>
    if c = .openBrace then none
    else if c = .closeBrace || c = ↑ ':' || c = ↑ '!' then some (done.reverse, c, rest)
    else scanName (c = ↑ '[') (c :: done) rest

/-- The specification of a field, in which `nested` braces are open, and the rest after the brace
that ends it. -/
def scanSpec : (nested : Nat) → (done : Text) → Text → Option (Text × Text)
  | _, _, [] => none
  | nested, done, c :: rest =>
    if c = .openBrace then scanSpec (nested + 1) (c :: done) rest
    else if c = .closeBrace then
      match nested with
      | 0 => some (done.reverse, rest)
      | nested + 1 => scanSpec nested (c :: done) rest
    else scanSpec nested (c :: done) rest

/-- A field after its opening brace, and the rest after the closing one. -/
def scanField (t : Text) : Option (Field × Text) :=
  match scanName false [] t with
  | none => none
  | some (name, last, rest) =>
    if last = .closeBrace then some (⟨name, none, []⟩, rest)
    else if last = ↑ ':' then
      (scanSpec 0 [] rest).map fun (spec, rest) => (⟨name, none, spec⟩, rest)
    else
      match rest with
      | conversion :: c :: rest =>
        if c = .closeBrace then some (⟨name, some conversion, []⟩, rest)
        else if c = ↑ ':' then
          (scanSpec 0 [] rest).map fun (spec, rest) => (⟨name, some conversion, spec⟩, rest)
        else none
      | _ => none

/-- The parts of a text; each takes at least one code point, so its length is fuel enough. -/
def piecesFrom : (fuel : Nat) → Text → List Piece
  | _, [] => []
  | 0, _ => []
  | fuel + 1, c :: rest =>
    if c = .openBrace || c = .closeBrace then
      match rest with
      | [] => [.malformed]
      | d :: after =>
        if d = c then .literal [c] :: piecesFrom fuel after
        else if c = .closeBrace then [.malformed]
        else match scanField rest with
          | none => [.malformed]
          | some (field, after) => .field field :: piecesFrom fuel after
    else .literal [c] :: piecesFrom fuel rest

/-- The parts of a template. -/
def pieces (t : Text) : List Piece :=
  piecesFrom t.length t

/-! ### The name of a field -/

/-- Numbers beyond 63 bits are refused. -/
def numberLimit : Nat := Nat.pow 2 63

/-- The number that digits of any script begin to spell, at the first code point that is none. -/
def keyFrom (whole : Text) : (n : Nat) → Text → Option Key
  | n, [] => some (.number n)
  | n, c :: rest =>
    match c.digitValue? with
    | none => some (.name whole)
    | some d => if numberLimit ≤ n * 10 + d then none else keyFrom whole (n * 10 + d) rest

/-- What an item is looked up by, unless it begins with a number that is refused. -/
def key? (t : Text) : Option Key :=
  if t.isEmpty then none else keyFrom t 0 t

/-- One look into a value. -/
inductive Step
  | member (name : Text)
  | item (key : Key)
  /-- What follows is no look into a value. -/
  | malformed
  deriving DecidableEq, Repr

/-- The looks that are written after the name of a value. -/
def stepsFrom : (fuel : Nat) → Text → List Step
  | _, [] => []
  | 0, _ => []
  | fuel + 1, c :: rest =>
    if c = ↑ '.' then
      let isLetter (d : CodePoint) : Bool := d ≠ ↑ '.' && d ≠ ↑ '['
      let name := rest.takeWhile isLetter
      if name.isEmpty then [.malformed]
      else .member name :: stepsFrom fuel (rest.drop name.length)
    else if c = ↑ '[' then
      let key := rest.takeWhile (· ≠ ↑ ']')
      if key.length = rest.length then [.malformed]
      else
        match key? key with
        | none => [.malformed]
        | some k => .item k :: stepsFrom fuel (rest.drop (key.length + 1))
    else [.malformed]

/-- The name of the value of a field. -/
def Field.first (f : Field) : Text :=
  f.name.takeWhile fun c => c ≠ ↑ '.' && c ≠ ↑ '['

/-- The looks that a field takes into its value. -/
def Field.steps (f : Field) : List Step :=
  let path := f.name.drop f.first.length
  stepsFrom path.length path

end AdmissionLedger.Template
