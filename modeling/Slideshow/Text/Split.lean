/-!
# Splitting at separators

A text is cut at a separator, once or everywhere.

## Main definitions

* `Split.cut`: what stands before the first separator and behind it.
* `Split.cutLast`: what stands behind the last separator.
* `Split.parts`: all that stands between separators.
-/

namespace Slideshow.Split

/-- The text before the first `separator`, and the text behind it if there is one. -/
def cut (separator : Char) (text : List Char) : List Char × Option (List Char) :=
  let before := text.takeWhile (· != separator)
  match text.drop before.length with
  | [] => (before, none)
  | _ :: behind => (before, some behind)

/-- The text behind the last `separator`, all of it if there is none. -/
def cutLast (separator : Char) (text : List Char) : List Char :=
  (text.reverse.takeWhile (· != separator)).reverse

/-- The parts of a text, or of a list of bytes, between separators. -/
def parts {α : Type} [DecidableEq α] (separator : α) (text : List α) : List (List α) :=
  match text with
  | [] => [[]]
  | c :: rest =>
    if c = separator then [] :: parts separator rest
    else
      match parts separator rest with
      | part :: parts => (c :: part) :: parts
      | [] => [[c]]

end Slideshow.Split
