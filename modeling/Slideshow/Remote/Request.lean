import Slideshow.Text.Blank
import Slideshow.Text.Quoted
import Slideshow.Text.Split

/-!
# Requests

A request is a line of two or three words: a method, a target, and the version of the protocol that
the answer should follow. Header lines come behind it, down to the first empty one.

## Main definitions

* `Request`: a request as it was sent.
* `Request.line`: its line.
* `Request.Refusal`: why a request is none that can be answered.
* `Request.demand`: the method and the target that the words of a line ask for.
* `Request.headerFault?`: what is wrong with the header lines.
* `Request.accept`: the target of a request that can be answered, or why it cannot.

## Design notes

What is sent are bytes, and each of them is read as a character of its own, whatever text the sender
had in mind. A line is measured in bytes, too. Words are what stands between blanks, so blanks
around a method or a target do not matter, and a line feed within one of them ends the line. There
is one method only, and a line without a version may have no other. Header lines are counted and
measured, and what they say is of no use.
-/

namespace Slideshow

/-- A text is sent in UTF-8. -/
scoped instance coeBytes : Coe String (List UInt8) where
  coe text := text.toUTF8.toList

/-- A request by the bytes of its method and of its target. -/
structure Request where
  method : List UInt8
  target : List UInt8
  deriving DecidableEq, Repr

namespace Request

/-- The bytes of a request, which has no header lines of its own. -/
def sent (r : Request) : List UInt8 :=
  r.method ++ [0x20] ++ r.target ++ " HTTP/1.0\r\n\r\n".toUTF8.toList

/-- What was sent up to the first line feed. -/
def firstLine (r : Request) : List UInt8 :=
  r.sent.takeWhile (· != 0x0A)

/-- The lines behind the first line feed. -/
def headerLines (r : Request) : List (List UInt8) :=
  (Split.parts 0x0A r.sent).tail

/-- The most bytes that a line can have, with its end. -/
def lineLimit : Nat := 65536

/-- Whether the first line cannot be read as a whole. -/
def isTooLong (r : Request) : Bool :=
  lineLimit ≤ r.firstLine.length

/-- Bytes as characters, of which they are the code points. -/
def characters (bytes : List UInt8) : List Char :=
  bytes.map fun byte => Char.ofNat byte.toNat

/-- The line of a request, without the carriage returns that end it. Nothing is known of one that is
too long. -/
def line (r : Request) : String :=
  if r.isTooLong then ""
  else String.ofList ((characters r.firstLine).reverse.dropWhile (· == '\r')).reverse

/-- Why a request is none that can be answered. -/
inductive Refusal where
  /-- A line without any word, to which nothing is answered. -/
  | blank
  | tooLong
  | version (word : String)
  | laterVersion (number : String)
  | malformed (line : String)
  | bareMethod (method : String)
  | headerTooLong
  | manyHeaders
  | unknownMethod (method : String)
  deriving DecidableEq, Repr

/-- The code of the answer, or zero where there is none. -/
def Refusal.code : Refusal → Nat
  | .blank => 0
  | .tooLong => 414
  | .version _ | .malformed _ | .bareMethod _ => 400
  | .laterVersion _ => 505
  | .headerTooLong | .manyHeaders => 431
  | .unknownMethod _ => 501

def Refusal.reason : Refusal → String
  | .blank => ""
  | .tooLong => "Request-URI Too Long"
  | .version word => "Bad request version (" ++ Quoted.text word ++ ")"
  | .laterVersion number => "Invalid HTTP version (" ++ number ++ ")"
  | .malformed line => "Bad request syntax (" ++ Quoted.text line ++ ")"
  | .bareMethod method => "Bad HTTP/0.9 request type (" ++ Quoted.text method ++ ")"
  | .headerTooLong => "Line too long"
  | .manyHeaders => "Too many headers"
  | .unknownMethod method => "Unsupported method (" ++ Quoted.text method ++ ")"

/-- The most digits that a component of a version can have. -/
def digitLimit : Nat := 10

/-- The number that a component of a version denotes: digits and nothing else. -/
def component? (digits : List Char) : Option Nat :=
  if digits.isEmpty || digitLimit < digits.length || digits.any (!·.isDigit) then none
  else some (digits.foldl (fun n d => n * 10 + (d.toNat - '0'.toNat)) 0)

/-- The two numbers of a version. -/
def versionOf? (number : List Char) : Option (Nat × Nat) :=
  match Split.parts '.' number with
  | [major, minor] => do return (← component? major, ← component? minor)
  | _ => none

/-- What is wrong with a word as a version. From the second one on, versions are not known. -/
def versionFault? (word : String) : Option Refusal :=
  let number := word.toList.drop 5
  match if word.startsWith "HTTP/" then versionOf? number else none with
  | none => some (.version word)
  | some (major, _) => if 2 ≤ major then some (.laterVersion (String.ofList number)) else none

/-- The method and the target that a line of some words asks for, or why it is refused. -/
def demand (line : String) : List String → Except Refusal (String × String)
  | [] => .error .blank
  | [method, target] =>
    if method = "GET" then .ok (method, target) else .error (.bareMethod method)
  | method :: target :: more =>
    match versionFault? (more.getLast?.getD ""), more with
    | some fault, _ => .error fault
    | none, [_] => .ok (method, target)
    | none, _ => .error (.malformed line)
  | _ => .error (.malformed line)

/-- The most header lines that a request can have, the empty one included. -/
def headerLimit : Nat := 100

/-- What is wrong with header lines of which `room` can be read, down to the first empty one. -/
def faultOfHeader? : Nat → List (List UInt8) → Option Refusal
  | _, [] => none
  | room, line :: lines =>
    if lineLimit ≤ line.length then some .headerTooLong
    else match room with
      | 0 => some .manyHeaders
      | room + 1 => if line = [] ∨ line = [0x0D] then none else faultOfHeader? room lines

/-- What is wrong with the header lines of a request. -/
def headerFault? (r : Request) : Option Refusal :=
  faultOfHeader? headerLimit r.headerLines

/-- The target of a request, or why it is refused. -/
def accept (r : Request) : Except Refusal String :=
  if r.isTooLong then .error .tooLong
  else
    match demand r.line (Blank.words r.line) with
    | .error fault => .error fault
    | .ok (method, target) =>
      match r.headerFault? with
      | some fault => .error fault
      | none => if method = "GET" then .ok target else .error (.unknownMethod method)

end Request

end Slideshow
