import AdmissionLedger.Alert.Host
import AdmissionLedger.Number.Numeral

/-!
# Addresses

The address of a request is taken apart, checked part by part and written in a
normal form: scheme and host in lower case, the port left out where it is the usual
one, dots in the path resolved, and all that has no place in a part percent-encoded.

## Main definitions

* `Address`, `Address.text` — the parts and their written form.
* `Address.ofText` — the parts of a text, or why it is no address.
* `Address.anchored` — the address that a request goes to.
* `Address.checkOrigin` — whether what comes back from there can be filed under its origin.
-/

namespace AdmissionLedger

/-- The parts of an address. -/
structure Address where
  scheme : Text
  /-- Name and password, encoded. -/
  userinfo : Text
  host : Text
  port : Option Int
  path : Text
  query : Option Text
  fragment : Option Text
  deriving DecidableEq, Repr

/-- Why a text is no address. -/
inductive AddressError
  | tooLong
  | control (c : CodePoint) (index : Nat)
  | malformedV4 (host : Text)
  | malformedV6 (host : Text)
  | malformedName (host : Text)
  | malformedPort (port : Text)
  | pathWithoutSlash
  | pathWithSlashes
  | pathWithColon
  | partTooLong (part : Text)
  /-- A part holds a surrogate, which has no bytes to be percent-encoded. -/
  | unencodable (error : EncodeError)
  deriving DecidableEq, Repr

/-- The wording of a failure. -/
def AddressError.message : AddressError → Text
  | tooLong => "URL too long"
  | control c index =>
    Text.ofString "Invalid non-printable ASCII character in URL, " ++ Text.quoted [c] ++
      " at position " ++ Text.decimal index ++ "."
  | malformedV4 host => Text.ofString "Invalid IPv4 address: " ++ host.quoted
  | malformedV6 host => Text.ofString "Invalid IPv6 address: " ++ host.quoted
  | malformedName host => Text.ofString "Invalid IDNA hostname: " ++ host.quoted
  | malformedPort port => Text.ofString "Invalid port: " ++ port.quoted
  | pathWithoutSlash => "For absolute URLs, path must be empty or begin with '/'"
  | pathWithSlashes => "Relative URLs cannot have a path starting with '//'"
  | pathWithColon => "Relative URLs cannot have a path starting with ':'"
  | partTooLong part => Text.ofString "URL component " ++ part.quoted ++ " too long"
  | unencodable e => e.message

namespace Address

/-- The greatest number of code points of an address. -/
def maxLength : Nat := 65536

/-! ### Percent-encoding -/

/-- A byte in percent-encoding. -/
def percentByte (b : UInt8) : Text :=
  ↑ '%' :: (Text.paddedHex 2 b.toNat).map fun c =>
    if 0x61 ≤ c.val then CodePoint.ofNat (c.val - 32) else c

/-- A text with all code points in percent-encoding but printable ASCII outside of `excluded`. -/
def percentEncode (excluded : List Char) : Text → Except AddressError Text
  | [] => .ok []
  | c :: rest => do
    let plain := 0x20 < c.val && c.val < 0x7F && !excluded.contains c.toChar
    let here ← if plain then .ok [c]
      else ((Text.encodeUtf8 [c]).mapError .unencodable).map fun bytes => bytes.flatMap percentByte
    let rest ← percentEncode excluded rest
    return here ++ rest

/-- What a fragment encodes. -/
def fragmentExcluded : List Char := ['\x22', '<', '>', '\x60']

/-- What a query encodes. -/
def queryExcluded : List Char := ['\x22', '#', '<', '>']

/-- What a path encodes. -/
def pathExcluded : List Char := queryExcluded ++ ['?', '\x60', '\x7b', '\x7d']

/-- What a name or a password encodes. -/
def userinfoExcluded : List Char :=
  pathExcluded ++ ['/', ';', '=', '@', '[', '\x5c', ']', '^', '|']

/-- What the name of a host encodes. -/
def hostExcluded : List Char := ['#', '/', ':', '<', '>', '?', '@', '[', ']', '^']

/-! ### Hosts -/

/-- The normal form of a host. -/
def normalHost (host : Text) : Except AddressError Text :=
  if host.isEmpty then .ok []
  else if Host.looksLikeV4 host then
    if Host.isV4 host then .ok host else .error (.malformedV4 host)
  else if host.head? = some ↑ '[' && host.getLast? = some ↑ ']' then
    let inner := (host.drop 1).dropLast
    if Host.isV6 inner then .ok inner else .error (.malformedV6 host)
  else if host.all fun c => c.val < 0x80 then percentEncode hostExcluded host.lowerAscii
  else (Host.nameToWire host).mapError fun _ => .malformedName host

/-- The ports that need not be named. -/
def usualPorts : List (Text × Int) :=
  [("ftp", 21), ("http", 80), ("https", 443), ("ws", 80), ("wss", 443)]

/-- The normal form of a port: none where it is the usual one. -/
def normalPort (scheme port : Text) : Except AddressError (Option Int) :=
  if port.isEmpty then .ok none
  else match port.readInt with
    | .error _ => .error (.malformedPort port)
    | .ok n => .ok (if usualPorts.lookup scheme = some n then none else some n)

/-! ### Paths -/

/-- The segments of a path with the dots resolved, those before the current one last first. -/
def resolveSegments : (done : List Text) → List Text → List Text
  | done, [] => done.reverse
  | done, segment :: rest =>
    if segment = "." then resolveSegments done rest
    else if segment = ".." then
      resolveSegments (if done = [[]] then done else done.drop 1) rest
    else resolveSegments (segment :: done) rest

/-- A path with the dots resolved, if there are segments of dots. -/
def resolveDots (path : Text) : Text :=
  let segments := Text.splitOn ↑ '/' path
  if segments.contains "." || segments.contains ".." then
    Text.join "/" (resolveSegments [] segments)
  else path

/-! ### Taking apart -/

/-- The text before the first of some marks, and the rest from it on. -/
def splitAt (marks : List Char) (t : Text) : Text × Text :=
  let before := t.takeWhile fun c => !marks.contains c.toChar
  (before, t.drop before.length)

/-- A scheme before its colon, and the rest; a scheme begins with a letter. -/
def splitScheme (t : Text) : Text × Text :=
  let isLetter (c : CodePoint) : Bool :=
    (0x41 ≤ c.val && c.val ≤ 0x5A) || (0x61 ≤ c.val && c.val ≤ 0x7A)
  let isLater (c : CodePoint) : Bool :=
    isLetter c || c.isDigit || c = ↑ '+' || c = ↑ '.' || c = ↑ '-'
  match t with
  | c :: _ =>
    let name := t.takeWhile isLater
    match t.drop name.length with
    | colon :: rest =>
      if colon = ↑ ':' && isLetter c then (name, rest)
      else if colon = ↑ ':' && name.isEmpty then ([], rest)
      else ([], t)
    | [] => ([], t)
  | [] => ([], [])

/-- The text before and after the last occurrence of a mark, if there is one. -/
def splitLast? (mark : CodePoint) (t : Text) : Option (Text × Text) :=
  if t.contains mark then
    let after := (t.reverse.takeWhile (· ≠ mark)).reverse
    some (t.take (t.length - after.length - 1), after)
  else none

/-- Host and port; a host in square brackets may hold colons. -/
def splitPort (t : Text) : Text × Text :=
  let (host, rest) :=
    match splitLast? ↑ ']' t with
    | some (before, after) =>
      if t.head? = some ↑ '[' then (before ++ ([↑ ']'] : Text), after) else splitAt [':'] t
    | none => splitAt [':'] t
  (host, if rest.startsWith ":" then rest.drop 1 else rest)

/-- Checks how a path begins. -/
def checkPath (path : Text) (hasScheme hasAuthority : Bool) : Except AddressError Unit :=
  if hasAuthority && !path.isEmpty && !path.startsWith "/" then .error .pathWithoutSlash
  else if !hasScheme && !hasAuthority && path.startsWith "//" then .error .pathWithSlashes
  else if !hasScheme && !hasAuthority && path.startsWith ":" then .error .pathWithColon
  else .ok ()

/-- A part after a mark, if the mark is there. -/
def after? (mark : String) (t : Text) : Option Text :=
  if t.startsWith mark then some (t.drop 1) else none

/-- A part in percent-encoding, if it is there. -/
def encodeOptional (excluded : List Char) : Option Text → Except AddressError (Option Text)
  | none => .ok none
  | some t => (percentEncode excluded t).map some

/-- The address that a text spells. -/
def ofText (t : Text) : Except AddressError Address := do
  if maxLength < t.length then .error .tooLong
  let isControl (c : CodePoint) : Bool := c.val < 0x20 || c.val = 0x7F
  match t.find? isControl with
  | some c => .error (.control c (t.takeWhile (· ≠ c)).length)
  | none =>
    let (scheme, rest) := splitScheme t
    let (authority, rest) := if rest.startsWith "//" then splitAt ['/', '?', '#'] (rest.drop 2)
      else ([], rest)
    let (path, rest) := splitAt ['?', '#'] rest
    let (query, fragment) := splitAt ['#'] rest
    let (userinfo, server) := (splitLast? ↑ '@' authority).getD ([], authority)
    let (host, port) := splitPort server
    let userinfo ← percentEncode userinfoExcluded userinfo
    let host ← normalHost host
    let port ← normalPort scheme port
    let hasScheme := !scheme.isEmpty
    let hasAuthority := !userinfo.isEmpty || !host.isEmpty || port.isSome
    checkPath path hasScheme hasAuthority
    let path := if hasScheme || hasAuthority then resolveDots path else path
    let path ← percentEncode pathExcluded path
    let query ← encodeOptional queryExcluded (after? "?" query)
    let fragment ← encodeOptional fragmentExcluded (after? "#" fragment)
    return ⟨scheme.lowerAscii, userinfo, host, port, path, query, fragment⟩

/-- Host and port in their written form. -/
def server (a : Address) : Text :=
  let host := if a.host.contains ↑ ':' then Text.ofString "[" ++ a.host ++ "]" else a.host
  host ++ match a.port with
    | some n => ↑ ':' :: Text.ofInt n
    | none => []

/-- Name and password with the server that they are for. -/
def authority (a : Address) : Text :=
  (if a.userinfo.isEmpty then [] else a.userinfo ++ Text.ofString "@") ++ a.server

/-- The written form of an address. -/
def text (a : Address) : Text :=
  let part (mark : String) (t : Option Text) : Text := match t with
    | some t => Text.ofString mark ++ t
    | none => []
  (if a.scheme.isEmpty then [] else a.scheme ++ Text.ofString ":") ++
    (if a.authority.isEmpty then [] else Text.ofString "//" ++ a.authority) ++ a.path ++
    part "?" a.query ++ part "#" a.fragment

/-- The address that a request goes to.  One without scheme or host counts from a root that has
neither, and loses what is not path or query. -/
def anchored (a : Address) : Except AddressError Address :=
  if !a.scheme.isEmpty && !a.host.isEmpty then .ok a
  else
    let path : Text := ↑ '/' :: a.path.dropWhile (· = ↑ '/')
    if maxLength < path.length then .error (.partTooLong "path")
    else if maxLength < (a.query.getD []).length then .error (.partTooLong "query")
    else .ok ⟨[], [], [], none, path, a.query, none⟩

end Address

/-- Why what comes back cannot be filed under the server that it comes from. -/
inductive OriginError
  | noScheme (address : Text)
  /-- The zone of the server is cut off at a bracket, and nothing is left of it. -/
  | noZone (server : Text)
  /-- A code point of the authority is compatible with a mark between the parts of an address. -/
  | foldedMark (authority : Text)
  deriving DecidableEq, Repr

/-- The wording of a failure. -/
def OriginError.message : OriginError → Text
  | noScheme address => Text.ofString "unknown url type: " ++ address.quoted
  | noZone server => server.quoted ++ " does not appear to be an IPv4 or IPv6 address"
  | foldedMark authority =>
    Text.ofString "netloc '" ++ authority ++
      "' contains invalid characters under NFKC normalization"

namespace Address

/-- Code points that are compatible with one of the marks `/`, `?`, `#`, `@` and `:`, or with a
sequence that holds one. -/
def foldedMarks : List (Nat × Nat) :=
  [(0x2047, 0x2049), (0x2100, 0x2101), (0x2105, 0x2106), (0x2A74, 0x2A74), (0xFE13, 0xFE13),
    (0xFE16, 0xFE16), (0xFE55, 0xFE56), (0xFE5F, 0xFE5F), (0xFE6B, 0xFE6B), (0xFF03, 0xFF03),
    (0xFF0F, 0xFF0F), (0xFF1A, 0xFF1A), (0xFF1F, 0xFF20)]

/-- Checks that what comes back from an address has an origin. -/
def checkOrigin (a : Address) : Except OriginError Unit :=
  let server := a.host.takeWhile (· ≠ ↑ ']')
  if a.scheme.isEmpty then .error (.noScheme a.text)
  else if a.host.contains ↑ ':' && server.getLast? = some ↑ '%' then .error (.noZone server)
  else if a.authority.any (CodePoint.isIn foldedMarks) then .error (.foldedMark a.authority)
  else .ok ()

end Address

end AdmissionLedger
