/-!
# Line endings

A file may end its lines with a line feed, a carriage return or both. The text of a file has line
feeds only.

## Main definitions

* `LineEnding.unify`: every line ending as one line feed.
-/

namespace Slideshow.LineEnding

/-- Continues the unified characters `done`, the last of them first. -/
def unifyFrom (done : List Char) : List Char → List Char
  | [] => done.reverse
  | '\r' :: '\n' :: rest => unifyFrom ('\n' :: done) rest
  | '\r' :: rest => unifyFrom ('\n' :: done) rest
  | c :: rest => unifyFrom (c :: done) rest

/-- `text` with a line feed for each line ending. -/
def unify (text : String) : String :=
  String.ofList (unifyFrom [] text.toList)

end Slideshow.LineEnding
