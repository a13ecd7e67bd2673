import AdmissionLedger.Domain.Name
import AdmissionLedger.Json.Reader

/-!
# Hosts

A host is four numbers, an address of the sixth version in square brackets, or a name.

## Main definitions

* `Host.isV4`, `Host.isV6` — whether a text is an address of the fourth or of the sixth version.
-/

namespace AdmissionLedger.Host

/-- A number from 0 to 255, without zeros in front. -/
def isOctet (t : Text) : Bool :=
  !t.isEmpty && t.length ≤ 3 && t.all CodePoint.isDigit && Json.digitsValue t ≤ 255 &&
    (t.length == 1 || t.head? ≠ some ↑ '0')

/-- Whether a host looks like four numbers. -/
def looksLikeV4 (host : Text) : Bool :=
  let parts := Text.splitOn ↑ '.' host
  parts.length == 4 && parts.all fun part => !part.isEmpty && part.all CodePoint.isDigit

/-- Four numbers from 0 to 255. -/
def isV4 (host : Text) : Bool :=
  let parts := Text.splitOn ↑ '.' host
  parts.length == 4 && parts.all isOctet

/-- A group: one to four hexadecimal digits. -/
def isGroup (t : Text) : Bool :=
  !t.isEmpty && t.length ≤ 4 && t.all fun c => (Json.hexValue? c).isSome

/-- An address without the zone behind a percent sign.  A zone is not empty and has no such sign of
its own. -/
def withoutZone? (t : Text) : Option Text :=
  let address := t.takeWhile (· ≠ ↑ '%')
  match t.drop address.length with
  | [] => some address
  | _ :: zone => if zone.isEmpty || zone.contains ↑ '%' then none else some address

/-- The parts of an address between its colons.  An address of the fourth version at the end stands
for two groups. -/
def parts? (address : Text) : Option (List Text) :=
  let parts := Text.splitOn ↑ ':' address
  match parts.getLast? with
  | some last =>
    if last.contains ↑ '.' then
      if isV4 last then some (parts.dropLast ++ [Text.ofString "0", Text.ofString "0"])
      else none
    else some parts
  | none => some parts

/-- The number of groups on one side of a gap, where an end of the address may be empty. -/
def sideCount? (parts : List Text) : Option Nat :=
  if parts = [[]] then some 0
  else if parts.all isGroup then some parts.length
  else none

/-- Eight groups, or fewer with one gap of two colons. -/
def isV6 (t : Text) : Bool :=
  match (withoutZone? t).bind parts? with
  | none => false
  | some parts =>
    let before := parts.take 1 ++ (parts.drop 1).takeWhile fun part => !part.isEmpty
    match parts.drop before.length with
    | [] => before.length == 8 && before.all isGroup
    | [_] => false
    | _ :: after =>
      match sideCount? before, sideCount? after with
      | some m, some n => m + n ≤ 7
      | _, _ => false

/-- The name of a host in ASCII and in lower case. -/
def nameToWire (host : Text) : Except LabelFault Text :=
  DomainName.toWire host.lower

/-- Whether a name is the form on the wire of one beyond ASCII. -/
def isWireName (host : Text) : Bool :=
  host.startsWith "xn--"

end AdmissionLedger.Host
