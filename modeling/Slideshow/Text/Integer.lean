import Slideshow.Text.Blank

/-!
# Integers as texts

An integer as an argument: digits of any script, with a sign and blanks around it. A single
underscore may stand between two digits.

## Main definitions

* `Integer.digit?`: the value of a decimal digit.
* `Integer.ofText?`: the integer that a text denotes.
-/

namespace Slideshow.Integer

/-- The code points of the zeros of all scripts. The other nine digits follow each of them. -/
def zeros : List Nat :=
  [0x30, 0x660, 0x6F0, 0x7C0, 0x966, 0x9E6, 0xA66, 0xAE6, 0xB66, 0xBE6, 0xC66, 0xCE6, 0xD66, 0xDE6,
    0xE50, 0xED0, 0xF20, 0x1040, 0x1090, 0x17E0, 0x1810, 0x1946, 0x19D0, 0x1A80, 0x1A90, 0x1B50,
    0x1BB0, 0x1C40, 0x1C50, 0xA620, 0xA8D0, 0xA900, 0xA9D0, 0xA9F0, 0xAA50, 0xABF0, 0xFF10, 0x104A0,
    0x10D30, 0x11066, 0x110F0, 0x11136, 0x111D0, 0x112F0, 0x11450, 0x114D0, 0x11650, 0x116C0,
    0x11730, 0x118E0, 0x11950, 0x11C50, 0x11D50, 0x11DA0, 0x16A60, 0x16AC0, 0x16B50, 0x1D7CE,
    0x1D7D8, 0x1D7E2, 0x1D7EC, 0x1D7F6, 0x1E140, 0x1E2F0, 0x1E950, 0x1FBF0]

/-- The value of a decimal digit of any script. -/
def digit? (c : Char) : Option Nat :=
  (zeros.find? fun first => first ≤ c.toNat && c.toNat < first + 10).map (c.toNat - ·)

/-- Reads digits behind a digit: `value` is the number so far. -/
def digitsFrom (value : Nat) : List Char → Option Nat
  | [] => some value
  | '_' :: c :: rest => (digit? c).bind fun d => digitsFrom (value * 10 + d) rest
  | c :: rest => (digit? c).bind fun d => digitsFrom (value * 10 + d) rest

/-- The number that digits denote. -/
def natural? : List Char → Option Nat
  | [] => none
  | c :: rest => (digit? c).bind fun d => digitsFrom d rest

/-- A character that may stand around the digits: a blank, but none of the four separators of
ASCII. -/
def isPadding (c : Char) : Bool :=
  Blank.isBlank c && !(0x1C ≤ c.toNat && c.toNat ≤ 0x1F)

/-- A text without the padding at its ends. -/
def trim (text : List Char) : List Char :=
  ((text.dropWhile isPadding).reverse.dropWhile isPadding).reverse

/-- The most digits that a text may have. -/
def digitLimit : Nat := 4300

/-- The integer that a text denotes. -/
def ofText? (text : String) : Option Int :=
  let cs := trim text.toList
  if digitLimit < cs.countP fun c => (digit? c).isSome then none
  else
    match cs with
    | '-' :: rest => (natural? rest).map fun n => -(n : Int)
    | '+' :: rest => (natural? rest).map fun n => (n : Int)
    | cs => (natural? cs).map fun n => (n : Int)

end Slideshow.Integer
