import Triage.Text.Basic
import Triage.Text.Hex

/-!
# Numeric hosts

Hosts that are given by numbers: four octets between points, or up to eight
groups of hexadecimal digits between colons, of which one run of zeros may be
left out.
-/

namespace Triage.Host.Numeric

/-- Whether a text is one of the numbers from 0 to 255 without leading zeros. -/
def isOctet (digits : List Char) : Bool :=
  !digits.isEmpty && digits.all Text.isAsciiDigit && digits.length ≤ 3 &&
    (digits.length == 1 || digits.head? != some '0') &&
    digits.foldl (fun value digit => value * 10 + Text.asciiDigitValue digit) 0 ≤ 255

/-- Whether a text is four octets between points. -/
def isFourOctets (characters : List Char) : Bool :=
  let octets := Text.splitAt '.' characters
  octets.length == 4 && octets.all isOctet

/-- Whether a text is four runs of digits between points. -/
def looksLikeNumbers (characters : List Char) : Bool :=
  let runs := Text.splitAt '.' characters
  runs.length == 4 && runs.all fun run => !run.isEmpty && run.all Text.isAsciiDigit

/-- Whether a text is a group of one to four hexadecimal digits. -/
def isGroup (digits : List Char) : Bool :=
  !digits.isEmpty && digits.length ≤ 4 && digits.all fun digit => (Text.hexValue? digit).isSome

/-- The pieces of an address between colons, where four octets at the end count
as two groups. -/
def groups? (characters : List Char) : Option (List (List Char)) :=
  let pieces := Text.splitAt ':' characters
  let last := pieces.getLastD []
  if pieces.length < 3 then none
  else if last.contains '.' then
    if isFourOctets last then some (pieces.dropLast ++ [['0'], ['0']]) else none
  else some pieces

/-- Whether a side of the groups that are left out is in order: groups, or
nothing at all, which is an empty piece. -/
def isSide (pieces : List (List Char)) : Bool :=
  pieces == [[]] || pieces.all isGroup

/-- The number of groups on a side. -/
def sideLength (pieces : List (List Char)) : Nat :=
  if pieces == [[]] then 0 else pieces.length

/-- Whether pieces are eight groups, or fewer with an empty piece for those that
are left out. -/
def areGroups (pieces : List (List Char)) : Bool :=
  let inner := (pieces.drop 1).dropLast
  match inner.findIdx? List.isEmpty with
  | none => pieces.length == 8 && pieces.all isGroup
  | some index =>
      let before := pieces.take (index + 1)
      let after := pieces.drop (index + 2)
      isSide before && isSide after && sideLength before + sideLength after < 8

/-- Whether a text is an address of groups.  A percent sign may be followed by
the zone in which the address holds. -/
def isGrouped (characters : List Char) : Bool :=
  let address := characters.takeWhile (· != '%')
  let zone := characters.drop address.length
  let zoneFits :=
    match zone with
    | [] => true
    | _ :: name => !name.isEmpty && !name.contains '%'
  !characters.contains '/' && zoneFits && (groups? address).any areGroups

end Triage.Host.Numeric
