import Slideshow.Text.Split

/-!
# Paths

A path leads from a directory to a place, part by part. A place is known by the names that lead to
it from the root.

## Main definitions

* `Location`: a place by its names.
* `Path.parts`: the parts of a path.
* `Path.resolve`: the place of a path, by its text alone.
* `Path.normalize`: a path from the root to the same place.
-/

namespace Slideshow

/-- A place by the names that lead to it from the root. -/
abbrev Location := List String

namespace Path

/-- The parts of a path between its slashes. -/
def parts (path : String) : List String :=
  (Split.parts '/' path.toList).map String.ofList

/-- Whether a path begins at the root. -/
def isAbsolute (path : String) : Bool :=
  path.startsWith "/"

/-- Whether a part of a path stays where it is. -/
def stays (part : String) : Bool :=
  part == "" || part == "."

/-- Where a part of a path leads to from `here`. Above the root there is the root. -/
def step (here : Location) (part : String) : Location :=
  if stays part then here else if part == ".." then here.dropLast else here ++ [part]

/-- Where a path leads to from `home`, whether anything is there or not. -/
def resolve (home : Location) (path : String) : Location :=
  (parts path).foldl step (if isAbsolute path then [] else home)

/-- A place as a path from the root. -/
def ofLocation (place : Location) : String :=
  "/" ++ "/".intercalate place

/-- The paths that lead on from the parts `done`, each one part longer than the one before. -/
def waysFrom (done : List String) : List String → List String
  | [] => []
  | part :: rest => "/".intercalate (done ++ [part]) :: waysFrom (done ++ [part]) rest

/-- The beginnings of a path, up to the path itself. -/
def ways (path : String) : List String :=
  waysFrom [] (parts path)

/-- The slashes that a path from the root keeps at its beginning: two if there are just two. -/
def lead (path : String) : String :=
  if path.startsWith "//" && !path.startsWith "///" then "//" else "/"

/-- A path from the root to where `path` leads to from `home`. -/
def normalize (home : Location) (path : String) : String :=
  lead path ++ "/".intercalate (resolve home path)

end Path

end Slideshow
