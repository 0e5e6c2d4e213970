import Slideshow.Remote.Host
import Slideshow.Text.Utf8

/-!
# Targets of requests

A request names a target, which is split into a path and the fields of a query. The path says which
page is asked for.

## Main definitions

* `Target`: the path and the query of a target.
* `Target.ofText`: a target split, or what is wrong with it.
* `Target.fields`: the fields of the query, decoded.
* `Target.field`: the first value of a field.

## Design notes

A target may be a whole address, with a scheme and a host before the path, parameters behind a
semicolon in the last part of it, and a fragment at the end. All of that is left out of the path.
Only a host in brackets is looked at more closely.
-/

namespace Slideshow

/-- What a target asks for. -/
structure Target where
  path : String
  query : String
  deriving DecidableEq, Repr

namespace Target

def isLetter (c : Char) : Bool :=
  ('a' ≤ c && c ≤ 'z') || ('A' ≤ c && c ≤ 'Z')

def isSchemeChar (c : Char) : Bool :=
  isLetter c || ('0' ≤ c && c ≤ '9') || c == '+' || c == '-' || c == '.'

/-- The scheme in lower case, if there is one, and the text behind its colon. -/
def splitScheme (text : List Char) : String × List Char :=
  match Split.cut ':' text with
  | (scheme, some behind) =>
    if scheme.head?.any isLetter && scheme.all isSchemeChar then
      (String.ofList (scheme.map Char.toLower), behind)
    else ("", text)
  | (_, none) => ("", text)

/-- The host, if two slashes announce one, and the text behind it. -/
def splitHost : List Char → List Char × List Char
  | '/' :: '/' :: rest =>
    let host := rest.takeWhile fun c => c != '/' && c != '?' && c != '#'
    (host, rest.drop host.length)
  | text => ([], text)

/-- The schemes whose last path segment may have parameters. -/
def schemesWithParameters : List String :=
  ["", "ftp", "hdl", "prospero", "http", "imap", "https", "shttp", "rtsp", "rtsps", "rtspu", "sip",
    "sips", "mms", "sftp", "tel"]

/-- A path without the parameters of its last segment. -/
def dropParameters (path : List Char) : List Char :=
  let last := Split.cutLast '/' path
  path.take (path.length - last.length) ++ last.takeWhile (· != ';')

/-- Slashes at the beginning count as one. -/
def mergeSlashes : List Char → List Char
  | '/' :: '/' :: rest => '/' :: rest.dropWhile (· == '/')
  | text => text

/-- A text without the control characters and spaces at its beginning. -/
def dropControls (text : List Char) : List Char :=
  text.dropWhile (· ≤ ' ')

/-- A target split into its parts, or what is wrong with its host. -/
def ofText (text : String) : Except Host.Fault Target :=
  let (scheme, rest) := splitScheme (dropControls (mergeSlashes text.toList))
  let (host, rest) := splitHost rest
  match Host.bracketFault? host with
  | some fault => .error fault
  | none =>
    let (path, query) := Split.cut '?' (Split.cut '#' rest).1
    let path := if schemesWithParameters.contains scheme then dropParameters path else path
    .ok ⟨String.ofList path, String.ofList (query.getD [])⟩

/-- The bytes of a text whose percent signs with two hexadecimal digits stand for bytes. -/
def percentDecode : List Char → List UInt8
  | [] => []
  | '%' :: a :: b :: rest =>
    match Hex.value? a, Hex.value? b with
    | some x, some y => UInt8.ofNat (x * 16 + y) :: percentDecode rest
    | _, _ => (String.singleton '%').toUTF8.toList ++ percentDecode (a :: b :: rest)
  | c :: rest => (String.singleton c).toUTF8.toList ++ percentDecode rest

/-- A name or a value of a query: plus signs are spaces, and bytes that are no text are replaced. -/
def decode (text : List Char) : String :=
  Utf8.decodeLossy (percentDecode (text.map fun c => if c = '+' then ' ' else c))

/-- The field that a part of a query gives. Without an equals sign or a value there is none. -/
def fieldOf (part : List Char) : Option (String × String) :=
  match Split.cut '=' part with
  | (name, some value) => if value.isEmpty then none else some (decode name, decode value)
  | (_, none) => none

/-- The fields of the query, in their order. -/
def fields (t : Target) : List (String × String) :=
  (Split.parts '&' t.query.toList).filterMap fieldOf

/-- The first value of a field, or nothing. -/
def field (t : Target) (name : String) : String :=
  ((t.fields.find? (·.1 == name)).map (·.2)).getD ""

end Target

end Slideshow
