import Slideshow.CommandLine.Options
import Slideshow.Text.Integer
import Slideshow.Text.Quoted

/-!
# Arguments

Reading a command line. Every argument is told to be an option or a word; then options take their
values, and the first word left over is the description.

## Main definitions

* `Argument`: a word, an option, or the dashes behind which all arguments are words.
* `Argument.classify`: the kind of an argument.
* `Arguments.Fault`: what can be wrong with a command line.
* `Arguments.parse`: the options of a command line.

## Design notes

Names of options may be shortened as long as they are told apart, and this is decided for all
arguments before any is acted upon. Faults in acting come in the order of the arguments; arguments
that nothing takes are complained about last.
-/

namespace Slideshow

/-- An option as it was found: its full name, what it does, and the value that was given along with
it. `written` is the argument itself. -/
structure Found where
  written : String
  name : String
  switch : Switch
  value : Option String
  deriving DecidableEq, Repr

/-- The kind of an argument. -/
inductive Argument where
  | word (text : String)
  | found (option : Found)
  | unknown (written : String)
  | dashes
  deriving DecidableEq, Repr

namespace Arguments

/-- What can be wrong with a command line. -/
inductive Fault where
  | ambiguous (written : String) (names : List String)
  | noValue (switch : Switch)
  | extraValue (switch : Switch) (value : String)
  | noInteger (switch : Switch) (value : String)
  | unrecognized (arguments : List String)
  deriving DecidableEq, Repr

def Fault.message : Fault → String
  | .ambiguous written names =>
    "ambiguous option: " ++ written ++ " could match " ++ ", ".intercalate names
  | .noValue switch => "argument " ++ switch.title ++ ": expected one argument"
  | .extraValue switch value =>
    "argument " ++ switch.title ++ ": ignored explicit argument " ++ Quoted.text value
  | .noInteger switch value =>
    "argument " ++ switch.title ++ ": invalid int value: " ++ Quoted.text value
  | .unrecognized arguments => "unrecognized arguments: " ++ " ".intercalate arguments

/-- A name and the value behind its first equals sign. -/
def splitValue (text : List Char) : List Char × Option String :=
  let name := text.takeWhile (· != '=')
  match text.drop name.length with
  | [] => (name, none)
  | _ :: value => (name, some (String.ofList value))

/-- The options that a shortened or compounded name can stand for. Behind two dashes it may be the
beginning of a name. Behind one dash its first letter may be a name of its own, and the letters
after it a value. -/
def candidates (written : String) : List Found :=
  let cs := written.toList
  match cs with
  | '-' :: '-' :: _ =>
    let (name, value) := splitValue cs
    (Switch.table.filter fun entry => name.isPrefixOf entry.1.toList).map
      fun entry => ⟨written, entry.1, entry.2, value⟩
  | _ =>
    Switch.table.filterMap fun entry =>
      if entry.1.toList == cs.take 2 then
        some ⟨written, entry.1, entry.2, some (String.ofList (cs.drop 2))⟩
      else if cs.isPrefixOf entry.1.toList then some ⟨written, entry.1, entry.2, none⟩
      else none

/-- A text without the line feed at its end, if there is one. -/
def dropLineFeed (text : List Char) : List Char :=
  if text.getLast? = some '\n' then text.dropLast else text

/-- A minus sign with digits, and perhaps a point before the last of them. A line may end there. -/
def isNegativeNumber (text : List Char) : Bool :=
  match dropLineFeed text with
  | '-' :: rest =>
    let digits := rest.takeWhile fun c => (Integer.digit? c).isSome
    match rest.drop digits.length with
    | [] => !digits.isEmpty
    | '.' :: places => !places.isEmpty && places.all fun c => (Integer.digit? c).isSome
    | _ => false
  | _ => false

def lookup (name : String) : Option Switch :=
  Switch.table.lookup name

/-- The kind of an argument that begins with a dash and is longer than that. -/
def classifyDashed (written : String) : Except Fault Argument :=
  match lookup written with
  | some switch => .ok (.found ⟨written, written, switch, none⟩)
  | none =>
    let (name, value) := splitValue written.toList
    let name := String.ofList name
    match value, lookup name with
    | some value, some switch => .ok (.found ⟨written, name, switch, some value⟩)
    | _, _ =>
      match candidates written with
      | [found] => .ok (.found found)
      | [] =>
        if isNegativeNumber written.toList || written.toList.contains ' ' then .ok (.word written)
        else .ok (.unknown written)
      | several => .error (.ambiguous written (several.map Found.name))

def classify (written : String) : Except Fault Argument :=
  match written.toList with
  | '-' :: _ :: _ => classifyDashed written
  | _ => .ok (.word written)

/-- The kinds of all arguments. Behind two dashes all arguments are words. -/
def classifyAll : List String → Except Fault (List Argument)
  | [] => .ok []
  | "--" :: rest => .ok (.dashes :: rest.map .word)
  | written :: rest => do
    let first ← classify written
    return first :: (← classifyAll rest)

/-- The options so far, the description if one was named, and the arguments that nothing takes. -/
structure State where
  options : Options
  named : Bool
  extras : List String
  deriving DecidableEq, Repr

/-- How acting on options ends: with a state, or with a request for help. -/
inductive Progress where
  | going (state : State)
  | help
  deriving DecidableEq, Repr

/-- Acts on an option without a value. -/
def act (options : Options) : Switch → Options
  | .check => { options with check := true }
  | .strictNewlines on => { options with strictNewlines := on }
  | .windowed => { options with windowed := true }
  | .noRemote => { options with noRemote := true }
  | .verbose => { options with verbose := true }
  | .help | .remotePort | .song | .logFile => options

/-- The value of an option as it is written, unless that is two dashes. -/
def valueOf {α : Type} (value : String) (read : String → Except Fault α) :
    Except Fault (OptionValue α) :=
  if value = "--" then .ok .emptied else (read value).map .given

def integerOf (switch : Switch) (value : String) : Except Fault Int :=
  match Integer.ofText? value with
  | some n => .ok n
  | none => .error (.noInteger switch value)

/-- Acts on an option with its value. -/
def assign (options : Options) (switch : Switch) (value : String) : Except Fault Options :=
  match switch with
  | .remotePort => do
    return { options with remotePort := ← valueOf value (integerOf switch) }
  | .song => do return { options with song := ← valueOf value .ok }
  | .logFile => do return { options with logFile := ← valueOf value .ok }
  | _ => .ok options

/-- The options of one letter that follow one another behind a single dash: the option found first
and the letters after it. Two dashes have none, and a letter has to be an option. -/
def letters (first : Switch) (single : Bool) : List Char → Except Fault (List Switch)
  | [] => .ok [first]
  | c :: rest =>
    if single then
      match lookup (String.ofList ['-', c]) with
      | some next => do return first :: (← letters next single rest)
      | none => .error (.extraValue first (String.ofList (c :: rest)))
    else .error (.extraValue first (String.ofList (c :: rest)))

/-- Acts on options without values, up to a request for help. -/
def actAll (state : State) (switches : List Switch) : Progress :=
  if switches.contains .help then .help
  else .going { state with options := switches.foldl act state.options }

/-- Acts on an option that was found. The answer is also how many of the arguments behind it were
taken as its value. -/
def take (state : State) (found : Found) (behind : List Argument) :
    Except Fault (Progress × Nat) :=
  if found.switch.takesValue then
    match found.value, behind with
    | some value, _ => do
      return (.going { state with options := ← assign state.options found.switch value }, 0)
    | none, .word value :: _ => do
      return (.going { state with options := ← assign state.options found.switch value }, 1)
    | none, _ => .error (.noValue found.switch)
  else
    match found.value with
    | none => .ok (actAll state [found.switch], 0)
    | some "" => .error (.extraValue found.switch "")
    | some value => do
      let single := !"--".toList.isPrefixOf found.name.toList
      return (actAll state (← letters found.switch single value.toList), 0)

/-- Takes a word: the first one names the description. -/
def takeWord (state : State) (text : String) : State :=
  if state.named then { state with extras := state.extras ++ [text] }
  else { state with named := true, options := { state.options with file := text } }

/-- Takes two dashes. They go along with the word beside them that names the description. -/
def takeDashes (state : State) (afterWord : Bool) : State :=
  if state.named && !afterWord then { state with extras := state.extras ++ ["--"] } else state

/-- Acts on arguments one after the other. `afterWord` says whether the argument before named the
description. -/
def run (state : State) (afterWord : Bool) : List Argument → Except Fault Progress
  | [] => .ok (.going state)
  | .word text :: rest => run (takeWord state text) (!state.named) rest
  | .unknown written :: rest => run { state with extras := state.extras ++ [written] } false rest
  | .dashes :: rest => run (takeDashes state afterWord) false rest
  | .found option :: rest => do
    let (progress, taken) ← take state option rest
    match progress with
    | .help => return .help
    | .going state => run state false (rest.drop taken)
termination_by arguments => arguments.length
decreasing_by
  all_goals simp only [List.length_cons, List.length_drop]
  all_goals omega

/-- The options of a command line, nothing where help is asked for, or what is wrong with it. -/
def parse (settings : Settings) (arguments : List String) : Except Fault (Option Options) := do
  let kinds ← classifyAll arguments
  match ← run ⟨.ofSettings settings, false, []⟩ false kinds with
  | .help => return none
  | .going state =>
    if state.extras.isEmpty then return some state.options
    else throw (.unrecognized state.extras)

end Arguments

end Slideshow
