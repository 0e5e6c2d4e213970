/-!
# JSON values

The data that a show exchanges with the outside: actions that are queued, and the answers of the
remote.

## Main definitions

* `Json`: a JSON value. Numbers without a fraction are told apart from binary64 numbers.
* `Json.insert`: an object with a field set.
* `Json.isTruthy`: whether a value counts as something.
-/

namespace Slideshow

/-- A JSON value. The fields of an object are in the order in which they were set. -/
inductive Json where
  | null
  | bool (b : Bool)
  | integer (n : Int)
  | number (x : Float)
  | string (s : String)
  | array (items : List Json)
  | object (fields : List (String × Json))

namespace Json

/-- Fields with one set. A field that was set before keeps its place. -/
def insert (fields : List (String × Json)) (key : String) (value : Json) : List (String × Json) :=
  if fields.any (·.1 == key) then
    fields.map fun field => if field.1 == key then (key, value) else field
  else fields ++ [(key, value)]

def find? (fields : List (String × Json)) (key : String) : Option Json :=
  (fields.find? (·.1 == key)).map (·.2)

/-- Null, false, zeros and what is empty count as nothing, all else as something. -/
def isTruthy : Json → Bool
  | .null => false
  | .bool b => b
  | .integer n => n != 0
  | .number x => x != 0
  | .string s => !s.isEmpty
  | .array items => !items.isEmpty
  | .object fields => !fields.isEmpty

end Json

end Slideshow
