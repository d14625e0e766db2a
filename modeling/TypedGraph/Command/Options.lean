/-
Options of a command line.

An option is known by a long name and perhaps by a letter, and either takes a
value or is a flag.  Arguments are read from left to right, and the first that
cannot be understood ends the reading.
-/

namespace TypedGraph
namespace Command

inductive UsageError
  | unexpectedArgument (argument : String)
  | valueRequired (option : String)
  | unexpectedValue (value option : String)
  | repeated (option : String)
  | missingArguments
  | unknownSubcommand (name : String)
  | subcommandRequired
deriving DecidableEq, Repr

namespace UsageError

def message : UsageError → String
  | .unexpectedArgument argument => "unexpected argument '" ++ argument ++ "' found"
  | .valueRequired option => "a value is required for '" ++ option ++ "' but none was supplied"
  | .unexpectedValue value option =>
    "unexpected value '" ++ value ++ "' for '" ++ option ++ "' found; no more were expected"
  | .repeated option => "the argument '" ++ option ++ "' cannot be used multiple times"
  | .missingArguments => "the following required arguments were not provided:"
  | .unknownSubcommand name => "unrecognized subcommand '" ++ name ++ "'"
  | .subcommandRequired => "'nodegen' requires a subcommand but one was not provided"

end UsageError

/-- What an option does to a record of options. -/
inductive Effect (α : Type)
  /-- Stores a value, whose name stands in messages. -/
  | value (name : String) (mayBeEmpty : Bool) (store : String → α → α)
  | flag (set : α → α)
  /-- A flag that makes all further arguments void. -/
  | last (set : α → α)

structure OptionSpec (α : Type) where
  long : String
  letter : Option Char := none
  effect : Effect α

namespace OptionSpec

/-- The option as messages name it. -/
def display (o : OptionSpec α) : String :=
  match o.effect with
  | .value name .. => "--" ++ o.long ++ " <" ++ name ++ ">"
  | .flag _ | .last _ => "--" ++ o.long

end OptionSpec

/-- A record of options under construction, and the options already given. -/
structure Given (α : Type) where
  record : α
  seen : List String := []

namespace Given

/-- An option may be given once. -/
def note (g : Given α) (o : OptionSpec α) (record : α → α) : Except UsageError (Given α) :=
  if g.seen.contains o.long then .error (.repeated o.display)
  else .ok { record := record g.record, seen := o.long :: g.seen }

def setValue (g : Given α) (o : OptionSpec α) (mayBeEmpty : Bool) (store : String → α → α)
    (value : String) : Except UsageError (Given α) := do
  let g ← g.note o (store value)
  if value.isEmpty && !mayBeEmpty then throw (.valueRequired o.display)
  return g

end Given

/-- What reading an argument comes to. -/
inductive Step (α : Type)
  | done (g : Given α)
  | ended (g : Given α)
  /-- The option takes the next argument as its value. -/
  | pending (o : OptionSpec α) (mayBeEmpty : Bool) (store : String → α → α)

/-- Splits a text at its first equals sign. -/
def splitValue (cs : List Char) : String × Option String :=
  let name := cs.takeWhile (· ≠ '=')
  match cs.drop name.length with
  | _ :: value => (String.ofList name, some (String.ofList value))
  | [] => (String.ofList name, none)

/-- An argument that starts with two hyphens. -/
def readLong (options : List (OptionSpec α)) (g : Given α) (cs : List Char) :
    Except UsageError (Step α) :=
  let (name, value) := splitValue cs
  match options.find? (·.long == name) with
  | none => .error (.unexpectedArgument ("--" ++ name))
  | some o =>
    match o.effect, value with
    | .value _ mayBeEmpty store, some v => .done <$> g.setValue o mayBeEmpty store v
    | .value _ mayBeEmpty store, none => .ok (.pending o mayBeEmpty store)
    | .flag _, some v | .last _, some v => .error (.unexpectedValue v o.display)
    | .flag set, none => .done <$> g.note o set
    | .last set, none => .ended <$> g.note o set

/-- The letters of an argument that starts with one hyphen.  A letter that takes
a value takes the rest of them. -/
def readLetters (options : List (OptionSpec α)) (g : Given α) :
    List Char → Except UsageError (Step α)
  | [] => .ok (.done g)
  | c :: rest =>
    match options.find? (·.letter == some c) with
    | none => .error (.unexpectedArgument ("-" ++ c.toString))
    | some o =>
      match o.effect, rest with
      | .value _ mayBeEmpty store, [] => .ok (.pending o mayBeEmpty store)
      | .value _ mayBeEmpty store, '=' :: v =>
        .done <$> g.setValue o mayBeEmpty store (String.ofList v)
      | .value _ mayBeEmpty store, v => .done <$> g.setValue o mayBeEmpty store (String.ofList v)
      | .flag set, rest => do readLetters options (← g.note o set) rest
      | .last set, _ => .ended <$> g.note o set

/-- Whether an argument is one or more options rather than a value. -/
def isOption (argument : String) : Bool :=
  match argument.toList with
  | '-' :: _ :: _ => true
  | _ => false

/-- One argument that is not a value. -/
def readOption (options : List (OptionSpec α)) (g : Given α) (argument : String) :
    Except UsageError (Step α) :=
  match argument.toList with
  | '-' :: '-' :: name => readLong options g name
  | '-' :: letters => readLetters options g letters
  | _ => .error (.unexpectedArgument argument)

/-- What ends the options: another argument, and those after it.  After two
hyphens alone every argument is one of those. -/
structure Rest where
  argument : String
  more : List String
  literal : Bool

/-- An option still waits for its value when another option comes.  That option
is looked at first, and only one that is known makes the missing value felt. -/
def missingValue (options : List (OptionSpec α)) (o : OptionSpec α) (g : Given α)
    (argument : String) : UsageError :=
  match readOption options { g with seen := [] } argument with
  | .error (.unexpectedArgument a) => .unexpectedArgument a
  | .error (.unexpectedValue v flag) => .unexpectedValue v flag
  | _ => .valueRequired o.display

/-- Reads options up to the first other argument. -/
def readOptions (options : List (OptionSpec α)) (g : Given α) (waiting : Option (Step α)) :
    List String → Except UsageError (Given α × Option Rest)
  | [] =>
    match waiting with
    | some (.pending o ..) => .error (.valueRequired o.display)
    | _ => .ok (g, none)
  | a :: rest =>
    match waiting with
    | some (.pending o mayBeEmpty store) =>
      if a == "--" then
        match rest with
        | [] => .error (.valueRequired o.display)
        | b :: more => .ok (g, some ⟨b, more, true⟩)
      else if isOption a then .error (missingValue options o g a)
      else
        match g.setValue o mayBeEmpty store a with
        | .ok g => readOptions options g none rest
        | .error e => .error e
    | _ =>
      if a == "--" then
        match rest with
        | [] => .ok (g, none)
        | b :: more => .ok (g, some ⟨b, more, true⟩)
      else if isOption a then
        match readOption options g a with
        | .ok (.done g) => readOptions options g none rest
        | .ok (.ended g) => .ok (g, none)
        | .ok step => readOptions options g (some step) rest
        | .error e => .error e
      else .ok (g, some ⟨a, rest, false⟩)

end Command
end TypedGraph
