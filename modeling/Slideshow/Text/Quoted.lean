import Slideshow.Text.Hex
import Slideshow.Text.Printable

/-!
# Quoted texts

Messages quote what they cannot trust to be readable: a skipped character, a path, an argument.
Single quotes stand around the text, double quotes if only single ones occur in it, and whatever is
not printable is escaped.

## Main definitions

* `Quoted.mark`: the quotation mark that a text gets.
* `Quoted.escape`: one character inside the marks.
* `Quoted.text`: the whole.
* `Quoted.escapeBeyondAscii`: a text in ASCII.
-/

namespace Slideshow.Quoted

/-- A double quote for a text that holds a single but no double one, else a single quote. -/
def mark (text : List Char) : Char :=
  if text.contains '\'' && !text.contains '"' then '"' else '\''

/-- The code point of `c` as an escape, as short as it can be. -/
def codeEscape (c : Char) : String :=
  if c.toNat < 0x100 then "\\x" ++ Hex.padded 2 c.toNat
  else if c.toNat < 0x10000 then "\\u" ++ Hex.padded 4 c.toNat
  else "\\U" ++ Hex.padded 8 c.toNat

/-- How `c` is written between two quotation marks `mark`. -/
def escape (mark c : Char) : String :=
  if c = mark ∨ c = '\\' then String.ofList ['\\', c]
  else if c = '\n' then "\\n"
  else if c = '\r' then "\\r"
  else if c = '\t' then "\\t"
  else if Printable.isPrintable c then c.toString
  else codeEscape c

/-- `text` between quotation marks. -/
def text (text : String) : String :=
  let m := mark text.toList
  m.toString ++ String.join (text.toList.map (escape m)) ++ m.toString

/-- `text` with escapes for all that ASCII does not have. -/
def escapeBeyondAscii (text : String) : String :=
  String.join (text.toList.map fun c => if c.toNat < 0x80 then c.toString else codeEscape c)

end Slideshow.Quoted
