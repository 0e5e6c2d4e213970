/-!
# Blank characters

The characters that count as space between the words of a text.

## Main definitions

* `Blank.isBlank`: the test, for all of Unicode.
* `Blank.words`: a text split at its blanks.
-/

namespace Slideshow.Blank

/-- The code points of blank characters beyond ASCII. -/
def beyondAscii : List Nat :=
  [0x85, 0xA0, 0x1680, 0x2000, 0x2001, 0x2002, 0x2003, 0x2004, 0x2005, 0x2006, 0x2007, 0x2008,
    0x2009, 0x200A, 0x2028, 0x2029, 0x202F, 0x205F, 0x3000]

/-- A space, a tab, a line break or a separator. -/
def isBlank (c : Char) : Bool :=
  let n := c.toNat
  n == 0x20 || (0x09 ≤ n && n ≤ 0x0D) || (0x1C ≤ n && n ≤ 0x1F) || beyondAscii.contains n

/-- Splits into words, with the characters of the present word last first in `word`. -/
def wordsFrom (word : List Char) : List Char → List (List Char)
  | [] => if word.isEmpty then [] else [word.reverse]
  | c :: rest =>
    if isBlank c then
      if word.isEmpty then wordsFrom [] rest else word.reverse :: wordsFrom [] rest
    else wordsFrom (c :: word) rest

def words (text : String) : List String :=
  (wordsFrom [] text.toList).map String.ofList

end Slideshow.Blank
