/-!
# Hexadecimal digits

Code points in escapes and bytes in messages are written in lower-case hexadecimal.

## Main definitions

* `Hex.padded`: a number with a fixed count of hexadecimal digits.
* `Hex.shortest`: a number with as many as it needs.
* `Hex.value?`: the number that a hexadecimal digit stands for.
-/

namespace Slideshow.Hex

def digit (n : Nat) : Char :=
  if n < 10 then Char.ofNat (0x30 + n) else Char.ofNat (0x61 + (n - 10))

/-- The last `width` hexadecimal digits of `n`, zeros in front. -/
def padded : Nat → Nat → String
  | 0, _ => ""
  | width + 1, n => (padded width (n / 16)).push (digit (n % 16))

/-- A number with as few hexadecimal digits as it needs. -/
def shortest (n : Nat) : String :=
  String.ofList (Nat.toDigits 16 n)

/-- The number that a hexadecimal digit of either case stands for. -/
def value? (c : Char) : Option Nat :=
  if '0' ≤ c ∧ c ≤ '9' then some (c.toNat - 0x30)
  else if 'a' ≤ c ∧ c ≤ 'f' then some (c.toNat - 0x61 + 10)
  else if 'A' ≤ c ∧ c ≤ 'F' then some (c.toNat - 0x41 + 10)
  else none

end Slideshow.Hex
