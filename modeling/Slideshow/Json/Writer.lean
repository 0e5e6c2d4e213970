import Slideshow.Json.Basic
import Slideshow.Number.Shortest
import Slideshow.Text.Quoted

/-!
# Texts of JSON values

JSON in one line and in ASCII, which is what the remote sends, and the notation of messages, which
differs in its quotation marks and in the names of its constants.

## Main definitions

* `Json.compress`: a value as JSON.
* `Json.display`: a value in a message.
-/

namespace Slideshow.Json

/-- A UTF-16 unit as an escape. -/
def unitEscape (n : Nat) : String :=
  "\\u" ++ Hex.padded 4 n

/-- A character within a JSON string. Beyond the Basic Multilingual Plane it takes two units. -/
def escape (c : Char) : String :=
  if c = '"' then "\\\""
  else if c = '\\' then "\\\\"
  else if c = '\n' then "\\n"
  else if c = '\r' then "\\r"
  else if c = '\t' then "\\t"
  else if c = '\x08' then "\\b"
  else if c = '\x0c' then "\\f"
  else if ' ' ≤ c ∧ c ≤ '~' then c.toString
  else if c.toNat < 0x10000 then unitEscape c.toNat
  else
    unitEscape (0xD800 + (c.toNat - 0x10000) / 0x400) ++
      unitEscape (0xDC00 + (c.toNat - 0x10000) % 0x400)

def quote (s : String) : String :=
  "\"" ++ String.join (s.toList.map escape) ++ "\""

/-- A binary64 number. What is not finite has a name of its own. -/
def numberText (x : Float) : String :=
  match Binary64.exact x with
  | .ok _ => Shortest.text x
  | .error .positiveInfinity => "Infinity"
  | .error .negativeInfinity => "-Infinity"
  | .error .notANumber => "NaN"

/-- A value as JSON, with a space behind each comma and colon. -/
def compress : Json → String
  | .null => "null"
  | .bool b => if b then "true" else "false"
  | .integer n => toString n
  | .number x => numberText x
  | .string s => quote s
  | .array items => "[" ++ ", ".intercalate (compressAll items) ++ "]"
  | .object fields => "\x7b" ++ ", ".intercalate (compressFields fields) ++ "\x7d"
where
  compressAll : List Json → List String
    | [] => []
    | item :: items => compress item :: compressAll items
  compressFields : List (String × Json) → List String
    | [] => []
    | (key, value) :: fields =>
      (quote key ++ ": " ++ compress value) :: compressFields fields

/-- A value as messages show it. -/
def display : Json → String
  | .null => "None"
  | .bool b => if b then "True" else "False"
  | .integer n => toString n
  | .number x => Shortest.text x
  | .string s => Quoted.text s
  | .array items => "[" ++ ", ".intercalate (displayAll items) ++ "]"
  | .object fields => "\x7b" ++ ", ".intercalate (displayFields fields) ++ "\x7d"
where
  displayAll : List Json → List String
    | [] => []
    | item :: items => display item :: displayAll items
  displayFields : List (String × Json) → List String
    | [] => []
    | (key, value) :: fields =>
      (Quoted.text key ++ ": " ++ display value) :: displayFields fields

end Slideshow.Json
