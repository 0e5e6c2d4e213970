import Slideshow.Text.Hex
import Slideshow.Text.Quoted
import Slideshow.Text.Split

/-!
# Hosts in brackets

The host of an address may be a number in brackets: one of version 6, or of a version to come. The
brackets have to stand around it, with nothing in front but the name of a user, and nothing behind
but what a colon begins.

## Main definitions

* `Host.isVersion4`, `Host.isVersion6`, `Host.isFuture`: the numbers.
* `Host.bracketFault?`: what is wrong with the brackets of a host, or with the number in them.
-/

namespace Slideshow.Host

/-- What can be wrong with a host. -/
inductive Fault where
  | brackets
  | futureVersion
  | version4
  | noNumber (host : String)
  deriving DecidableEq, Repr

def Fault.message : Fault → String
  | .brackets => "Invalid IPv6 URL"
  | .futureVersion => "IPvFuture address is invalid"
  | .version4 => "An IPv4 address cannot be in brackets"
  | .noNumber host => Quoted.text host ++ " does not appear to be an IPv4 or IPv6 address"

/-- A number up to 255 without zeros in front. -/
def isOctet (text : List Char) : Bool :=
  !text.isEmpty && text.length ≤ 3 && text.all Char.isDigit &&
    (text.length == 1 || text.head? != some '0') &&
    text.foldl (fun n c => n * 10 + (c.toNat - '0'.toNat)) 0 ≤ 255

/-- Four numbers between points. -/
def isVersion4 (text : List Char) : Bool :=
  let octets := Split.parts '.' text
  octets.length == 4 && octets.all isOctet

/-- One to four hexadecimal digits. -/
def isGroup (text : List Char) : Bool :=
  !text.isEmpty && text.length ≤ 4 && text.all fun c => (Hex.value? c).isSome

/-- The groups between colons. A number of version 4 at the end counts as two. -/
def groups? (text : List Char) : Option (List (List Char)) :=
  let parts := Split.parts ':' text
  let last := parts.getLast?.getD []
  if last.contains '.' then
    if isVersion4 last then some (parts.dropLast ++ [['0'], ['0']]) else none
  else some parts

/-- The groups on one side of a gap. A colon of the gap may be the end of the text. -/
def side (groups : List (List Char)) : List (List Char) :=
  if groups = [[]] then [] else groups

/-- Eight groups, or fewer with one gap between two colons. -/
def isComplete (groups : List (List Char)) : Bool :=
  let inner := groups.tail.dropLast
  match inner.countP List.isEmpty with
  | 0 => groups.length == 8 && groups.all isGroup
  | 1 =>
    let gap := inner.findIdx List.isEmpty + 1
    let high := side (groups.take gap)
    let low := side (groups.drop (gap + 1))
    high.all isGroup && low.all isGroup && high.length + low.length < 8
  | _ => false

/-- A number of version 6. A zone may follow behind a percent sign. -/
def isVersion6 (text : List Char) : Bool :=
  let (number, zone) := Split.cut '%' text
  zone.all (fun zone => !zone.isEmpty && !zone.contains '%') && (groups? number).any isComplete

/-- A version in hexadecimal digits between a letter and a point, and something behind that. -/
def isFuture : List Char → Bool
  | 'v' :: rest =>
    match Split.cut '.' rest with
    | (version, some number) =>
      !version.isEmpty && version.all (fun c => (Hex.value? c).isSome) && !number.isEmpty
    | (_, none) => false
  | _ => false

/-- What is wrong with a host that stands in brackets. -/
def numberFault? (host : List Char) : Option Fault :=
  if host.head? = some 'v' then if isFuture host then none else some .futureVersion
  else if isVersion4 host then some .version4
  else if isVersion6 host then none
  else some (.noNumber (String.ofList host))

/-- What is wrong with the brackets of a host, or with what they stand around. A host without
brackets is fine. -/
def bracketFault? (host : List Char) : Option Fault :=
  if host.contains '[' != host.contains ']' then some .brackets
  else if !host.contains '[' then none
  else
    let place := Split.cutLast '@' host
    match Split.cut '[' place with
    | (name, none) => numberFault? (Split.cut ':' name).1
    | (_ :: _, some _) => some .brackets
    | ([], some bracketed) =>
      let (number, behind) := Split.cut ']' bracketed
      match behind.getD [] with
      | [] | ':' :: _ => numberFault? number
      | _ => some .brackets

end Slideshow.Host
