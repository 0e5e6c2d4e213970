import Slideshow.Text.Placeholder
import Slideshow.Text.Quoted

/-!
# Templates

A template is a text with placeholders, which are replaced by the fields of a table. A percent sign
of its own is written twice.

## Main definitions

* `Template.Value`: what a placeholder can show.
* `Template.Layout`: how it is laid out.
* `Template.Fault`: what can be wrong with a template.
* `Template.expand`: a template with its placeholders replaced.

## Design notes

A placeholder without a name shows the table as a whole, and that only once, and not behind one with
a name. Placeholders are replaced from left to right, so the first faulty one is complained about;
within it, the name comes before the width, the width before the precision, and these before the
conversion.
-/

namespace Slideshow.Template

/-! ### Values -/

/-- What a placeholder can show. Of a handle nothing is known but its type. -/
inductive Value where
  | text (text : String)
  | nothing
  | flag (b : Bool)
  | list (items : List Value)
  | handle (type : String)
  | table (fields : List (String × Value))

/-- A value for each name. -/
abbrev Fields := List (String × Value)

namespace Value

/-- How complaints call the type of a value. -/
def typeName : Value → String
  | .text _ => "str"
  | .nothing => "NoneType"
  | .flag _ => "bool"
  | .list _ => "list"
  | .handle type => type
  | .table _ => "dict"

/-- A value with quotation marks around texts. -/
def display : Value → String
  | .text s => Quoted.text s
  | .nothing => "None"
  | .flag b => if b then "True" else "False"
  | .list items => "[" ++ ", ".intercalate (displayAll items) ++ "]"
  | .handle type => "<" ++ type ++ " object>"
  | .table fields => "\x7b" ++ ", ".intercalate (displayFields fields) ++ "\x7d"
where
  displayAll : List Value → List String
    | [] => []
    | item :: items => display item :: displayAll items
  displayFields : List (String × Value) → List String
    | [] => []
    | (name, value) :: fields =>
      (Quoted.text name ++ ": " ++ display value) :: displayFields fields

def shown : Value → String
  | .text s => s
  | value => value.display

/-- A flag counts as a one or a zero. -/
def number? : Value → Option Nat
  | .flag b => some (if b then 1 else 0)
  | _ => none

/-- The character of a value that is one. -/
def character? : Value → Option Char
  | .text s =>
    match s.toList with
    | [c] => some c
    | _ => none
  | value => value.number?.map Char.ofNat

end Value

/-! ### Faults -/

/-- What can be wrong with a template. -/
inductive Fault where
  /-- The table has no such field. -/
  | unknownField (name : String)
  /-- A name has no closing parenthesis. -/
  | unclosedName
  /-- The template ends within a placeholder. -/
  | unfinished
  /-- No conversion has this letter, which stands at an index of the template. -/
  | unknownConversion (letter : Char) (index : Nat)
  /-- A width is too large. -/
  | largeWidth
  /-- A precision is too large. -/
  | largePrecision
  /-- A placeholder without a name comes after another placeholder. -/
  | tooFew
  /-- A star stands for something that is no number. -/
  | noAmount
  /-- A value is no number at all. -/
  | noNumber (letter : Char) (type : String)
  /-- A value is no whole number. -/
  | noInteger (letter : Char) (type : String)
  /-- A value is no number with places. -/
  | noReal (type : String)
  /-- A value is no single character. -/
  | noCharacter
  deriving DecidableEq, Repr

def Fault.message : Fault → String
  | .unknownField name => Quoted.text name
  | .unclosedName => "incomplete format key"
  | .unfinished => "incomplete format"
  | .unknownConversion letter index =>
    let known := '\x1f' ≤ letter && letter ≤ '~'
    "unsupported format character '" ++ String.singleton (if known then letter else '?') ++
      "' (0x" ++ Hex.shortest letter.toNat ++ ") at index " ++ toString index
  | .largeWidth => "width too big"
  | .largePrecision => "precision too big"
  | .tooFew => "not enough arguments for format string"
  | .noAmount => "* wants int"
  | .noNumber letter type =>
    "%" ++ letter.toString ++ " format: a real number is required, not " ++ type
  | .noInteger letter type =>
    "%" ++ letter.toString ++ " format: an integer is required, not " ++ type
  | .noReal type => "must be real number, not " ++ type
  | .noCharacter => "%c requires int or char"

/-! ### Layout -/

/-- How a value is laid out: its flags, its least width, and its precision if that is said. -/
structure Layout where
  left : Bool
  plus : Bool
  space : Bool
  alternate : Bool
  zeros : Bool
  width : Nat
  precision : Option Nat
  deriving DecidableEq, Repr

namespace Layout

/-- Some text in its width. Zeros go between the mark of a number and its digits. -/
def place (l : Layout) (mark digits : String) : String :=
  let text := mark ++ digits
  let missing := l.width - text.length
  if l.left then text.pushn ' ' missing
  else if l.zeros then mark.pushn '0' missing ++ digits
  else "".pushn ' ' missing ++ text

/-- A text, of which the precision says how much is shown. -/
def text (l : Layout) (s : String) : String :=
  let s := match l.precision with
    | some count => String.ofList (s.toList.take count)
    | none => s
  { l with zeros := false }.place "" s

/-- What stands for the sign of a number that is not negative. -/
def sign (l : Layout) : String :=
  if l.plus then "+" else if l.space then " " else ""

/-- A whole number in a base, with as many digits as the precision says at least. The base has a
letter of its own, which the alternate layout shows. -/
def integer (l : Layout) (base : Nat) (letter : Option Char) (n : Nat) : String :=
  let digits := String.ofList (Nat.toDigits base n)
  let digits := "".pushn '0' (l.precision.getD 0 - digits.length) ++ digits
  let mark := match letter with
    | some c => if l.alternate then String.ofList ['0', c] else ""
    | none => ""
  l.place (l.sign ++ mark) digits

/-- A digit with zeros as its places. The alternate layout has a point even if there are none. -/
def places (l : Layout) (count : Nat) (digit : Nat) : String :=
  toString digit ++ (if count = 0 && !l.alternate then "" else ".").pushn '0' count

/-- A zero or a one with places, with an exponent, or as short as it can be. -/
def real (l : Layout) (letter : Char) (digit : Nat) : String :=
  let count := l.precision.getD 6
  l.place l.sign <|
    if letter = 'e' then l.places count digit ++ "e+00"
    else if letter = 'E' then l.places count digit ++ "E+00"
    else if letter = 'f' ∨ letter = 'F' then l.places count digit
    else if l.alternate then l.places (count - 1) digit
    else toString digit

end Layout

/-! ### Conversions -/

/-- A conversion by what it shows. -/
inductive Conversion where
  | shown
  | display
  | ascii
  | decimal
  | based (base : Nat)
  | real
  | character
  deriving DecidableEq, Repr

def Conversion.ofLetter? (letter : Char) : Option Conversion :=
  if letter = 's' then some .shown
  else if letter = 'r' then some .display
  else if letter = 'a' then some .ascii
  else if "diu".contains letter then some .decimal
  else if letter = 'o' then some (.based 8)
  else if letter = 'x' ∨ letter = 'X' then some (.based 16)
  else if "eEfFgG".contains letter then some .real
  else if letter = 'c' then some .character
  else none

def Conversion.apply (conversion : Conversion) (letter : Char) (l : Layout) (value : Value) :
    Except Fault String :=
  match conversion with
  | .shown => .ok (l.text value.shown)
  | .display => .ok (l.text value.display)
  | .ascii => .ok (l.text (Quoted.escapeBeyondAscii value.display))
  | .decimal =>
    match value.number? with
    | some n => .ok (l.integer 10 none n)
    | none => .error (.noNumber letter value.typeName)
  | .based base =>
    match value.number? with
    | some n => .ok (l.integer base (some letter) n)
    | none => .error (.noInteger letter value.typeName)
  | .real =>
    match value.number? with
    | some n => .ok (l.real letter n)
    | none => .error (.noReal value.typeName)
  | .character =>
    match value.character? with
    | some c => .ok ({ l with zeros := false }.place "" c.toString)
    | none => .error .noCharacter

/-! ### Expansion -/

def widthLimit : Nat := 0x7FFFFFFFFFFFFFFF

def precisionLimit : Nat := 0x7FFFFFFF

/-- An amount, and what is left of the argument that a star takes. -/
def amount (limit : Nat) (excess : Fault) (argument : Option Value) :
    Amount → Except Fault (Option Nat × Option Value)
  | .unsaid => .ok (none, argument)
  | .number n => if limit < n then .error excess else .ok (some n, argument)
  | .argument =>
    match argument with
    | none => .error .tooFew
    | some value =>
      match value.number? with
      | some n => .ok (some n, none)
      | none => .error .noAmount

/-- The argument of a placeholder: the field that it names, or the one that is left. -/
def argumentOf (fields : Fields) (left : Option Value) :
    FieldName → Except Fault (Option Value)
  | .absent => .ok left
  | .unclosed => .error .unclosedName
  | .named name =>
    match fields.lookup name with
    | some value => .ok (some value)
    | none => .error (.unknownField name)

/-- What a placeholder shows, and the argument that is left behind it. `index` is where its letter
stands. -/
def reveal (fields : Fields) (left : Option Value) (p : Placeholder) (index : Nat) :
    Except Fault (String × Option Value) := do
  let argument ← argumentOf fields left p.field
  let (width, argument) ← amount widthLimit .largeWidth argument p.width
  let (precision, argument) ← amount precisionLimit .largePrecision argument p.precision
  match p.conversion, argument with
  | none, _ => throw .unfinished
  | some _, none => throw .tooFew
  | some letter, some value =>
    match Conversion.ofLetter? letter with
    | none => throw (.unknownConversion letter index)
    | some conversion =>
      let layout : Layout := {
        left := p.flags.contains '-'
        plus := p.flags.contains '+'
        space := p.flags.contains ' '
        alternate := p.flags.contains '#'
        zeros := p.flags.contains '0'
        width := width.getD 0
        precision := precision }
      return (← conversion.apply letter layout value, none)

/-- Expands what is left of a template of `length` characters. `left` is the argument for a
placeholder without a name. -/
def expandFrom (fields : Fields) (length : Nat) (left : Option Value) :
    List Char → Except Fault String
  | [] => .ok ""
  | '%' :: '%' :: rest => do return "%" ++ (← expandFrom fields length left rest)
  | '%' :: rest => do
    let behind := (Placeholder.read rest).2
    let (text, left) ←
      reveal fields left (Placeholder.read rest).1 (length - behind.length - 1)
    return text ++ (← expandFrom fields length left behind)
  | c :: rest => do return c.toString ++ (← expandFrom fields length left rest)
termination_by text => text.length
decreasing_by
  · simp only [List.length_cons]; omega
  · have := Placeholder.length_read_le rest
    simp only [List.length_cons]; omega
  · simp

/-- A template with its placeholders replaced. -/
def expand (fields : Fields) (template : String) : Except Fault String :=
  expandFrom fields template.length (some (.table fields)) template.toList

end Slideshow.Template
