import Slideshow.Text.Hex

/-!
# Decoding of UTF-8

A description is a file of bytes. Bytes that are no UTF-8 are refused with the place and the length
of the first faulty run, or, where a text must be had at any price, replaced run by run.

## Main definitions

* `Utf8.Fault`: a faulty run of bytes and what is wrong with it.
* `Utf8.next`: the character or the fault at the front of some bytes.
* `Utf8.decode`: the text, or the first fault.
* `Utf8.decodeLossy`: the text with a replacement character for each fault.

## Design notes

A faulty run is as long as it could still have become a character. Over-long forms, surrogates and
numbers beyond the last code point are thereby cut off at their second byte, because the first byte
limits the range of the second.
-/

namespace Slideshow.Utf8

/-- What is wrong with a run of bytes. -/
inductive Reason where
  | invalidStart
  | invalidContinuation
  | unexpectedEnd
  deriving DecidableEq, Repr

def Reason.message : Reason → String
  | .invalidStart => "invalid start byte"
  | .invalidContinuation => "invalid continuation byte"
  | .unexpectedEnd => "unexpected end of data"

/-- A faulty run: its offset, its first byte, the number of bytes after that, and the reason. -/
structure Fault where
  offset : Nat
  first : UInt8
  more : Nat
  reason : Reason
  deriving DecidableEq, Repr

/-- The complaint about a faulty run. A single byte is shown. -/
def Fault.message (f : Fault) : String :=
  "'utf-8' codec can't decode " ++
    (if f.more = 0 then
      "byte 0x" ++ Hex.padded 2 f.first.toNat ++ " in position " ++ toString f.offset
    else
      "bytes in position " ++ toString f.offset ++ "-" ++ toString (f.offset + f.more)) ++
    ": " ++ f.reason.message

/-- What a first byte announces: the number of bytes that follow, the bits of the code point in
the first byte, and the range of the second byte. -/
structure Lead where
  count : Nat
  bits : Nat
  low : Nat
  high : Nat

def lead? (b : Nat) : Option Lead :=
  if b < 0x80 then some ⟨0, b, 0x80, 0xBF⟩
  else if b < 0xC2 then none
  else if b < 0xE0 then some ⟨1, b - 0xC0, 0x80, 0xBF⟩
  else if b < 0xF0 then
    some ⟨2, b - 0xE0, if b = 0xE0 then 0xA0 else 0x80, if b = 0xED then 0x9F else 0xBF⟩
  else if b < 0xF5 then
    some ⟨3, b - 0xF0, if b = 0xF0 then 0x90 else 0x80, if b = 0xF4 then 0x8F else 0xBF⟩
  else none

/-- What stands at the front of some bytes, and how many bytes after the first belong to it. -/
structure Piece where
  result : Except Reason Char
  more : Nat

/-- Reads `count` continuation bytes after `used` others, the first of them between `low` and
`high`, onto the bits read so far. -/
def continuation (count bits low high used : Nat) (rest : List UInt8) : Piece :=
  match count, rest with
  | 0, _ => ⟨.ok (Char.ofNat bits), used⟩
  | _ + 1, [] => ⟨.error .unexpectedEnd, used⟩
  | count + 1, b :: rest =>
    if low ≤ b.toNat ∧ b.toNat ≤ high then
      continuation count (bits * 0x40 + (b.toNat - 0x80)) 0x80 0xBF (used + 1) rest
    else ⟨.error .invalidContinuation, used⟩

/-- The character or the fault that the byte `b` and the bytes after it begin with. -/
def next (b : UInt8) (rest : List UInt8) : Piece :=
  match lead? b.toNat with
  | none => ⟨.error .invalidStart, 0⟩
  | some l => continuation l.count l.bits l.low l.high 0 rest

/-- Reads bytes from `offset` on after the characters `done`, the last of them first. -/
def decodeFrom (offset : Nat) (done : List Char) : List UInt8 → Except Fault (List Char)
  | [] => .ok done.reverse
  | b :: rest =>
    let piece := next b rest
    match piece.result with
    | .ok c => decodeFrom (offset + 1 + piece.more) (c :: done) (rest.drop piece.more)
    | .error reason => .error ⟨offset, b, piece.more, reason⟩
termination_by bytes => bytes.length
decreasing_by simp only [List.length_drop, List.length_cons]; omega

/-- The text that bytes stand for, or the first faulty run in them. -/
def decode (bytes : List UInt8) : Except Fault String :=
  (decodeFrom 0 [] bytes).map String.ofList

/-- Reads bytes after the characters `done`, the last of them first, replacing faulty runs. -/
def decodeLossyFrom (done : List Char) : List UInt8 → List Char
  | [] => done.reverse
  | b :: rest =>
    let piece := next b rest
    let c := match piece.result with
      | .ok c => c
      | .error _ => '\uFFFD'
    decodeLossyFrom (c :: done) (rest.drop piece.more)
termination_by bytes => bytes.length
decreasing_by simp only [List.length_drop, List.length_cons]; omega

/-- The text that bytes stand for, with a replacement character for each faulty run. -/
def decodeLossy (bytes : List UInt8) : String :=
  String.ofList (decodeLossyFrom [] bytes)

end Slideshow.Utf8
