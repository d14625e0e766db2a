/-
The command line: `generate` writes artifacts, and `check` only looks at a model.
-/
import TypedGraph.Command.Options
import TypedGraph.Command.Settings

namespace TypedGraph
namespace Command

open Files (FilePath)

/-- Options that both subcommands have. -/
structure InputOptions where
  input : Option FilePath := none
  deep : Bool := false
deriving DecidableEq, Repr

structure GenerateOptions where
  input : InputOptions := {}
  out : Option FilePath := none
  target : Option String := none
  host : Option String := none
  root : Option String := none
  reindexOnWrite : Bool := false
  dryRun : Bool := false
  json : Bool := false
deriving DecidableEq, Repr

inductive Task
  | generate (o : GenerateOptions)
  | check (o : InputOptions)
deriving DecidableEq, Repr

inductive Invocation
  | help
  /-- Nothing is asked for at all. -/
  | nothing
  | version
  | run (settings : Option FilePath) (task : Task)
deriving DecidableEq, Repr

/-- Options beside those of a subcommand. -/
structure Shared (α : Type) where
  own : α
  settings : Option FilePath := none
  help : Bool := false
  version : Bool := false

namespace Shared

/-- Options that may stand before and after the name of a subcommand. -/
def options : List (OptionSpec (Shared α)) := [
  { long := "config", letter := some 'c',
    effect := .value "CONFIG" false fun v s => { s with settings := some ⟨v⟩ } },
  { long := "help", letter := some 'h', effect := .last fun s => { s with help := true } }]

def versionOption : OptionSpec (Shared α) :=
  { long := "version", letter := some 'V', effect := .last fun s => { s with version := true } }

/-- An option of the subcommand alone. -/
def lift (o : OptionSpec α) : OptionSpec (Shared α) :=
  let through (f : α → α) (s : Shared α) : Shared α := { s with own := f s.own }
  { long := o.long, letter := o.letter,
    effect := match o.effect with
      | .value name mayBeEmpty store => .value name mayBeEmpty fun v => through (store v)
      | .flag set => .flag (through set)
      | .last set => .last (through set) }

end Shared

namespace InputOptions

def options : List (OptionSpec InputOptions) := [
  { long := "input", letter := some 'i',
    effect := .value "INPUT" false fun v o => { o with input := some ⟨v⟩ } },
  { long := "deep", effect := .flag fun o => { o with deep := true } }]

/-- The settings of the input; a directory that is given replaces them. -/
def apply (o : InputOptions) (s : Settings) : Settings :=
  { s with input := { dir := o.input.getD s.input.dir, deep := s.input.deep || o.deep } }

end InputOptions

namespace GenerateOptions

def inputOption (o : OptionSpec InputOptions) : OptionSpec GenerateOptions :=
  let through (f : InputOptions → InputOptions) (g : GenerateOptions) : GenerateOptions :=
    { g with input := f g.input }
  { long := o.long, letter := o.letter,
    effect := match o.effect with
      | .value name mayBeEmpty store => .value name mayBeEmpty fun v => through (store v)
      | .flag set => .flag (through set)
      | .last set => .last (through set) }

def options : List (OptionSpec GenerateOptions) :=
  InputOptions.options.map inputOption ++ [
    { long := "out", letter := some 'o',
      effect := .value "OUT" false fun v o => { o with out := some ⟨v⟩ } },
    { long := "target", effect := .value "TARGET" true fun v o => { o with target := some v } },
    { long := "host", effect := .value "HOST" true fun v o => { o with host := some v } },
    { long := "root", effect := .value "ROOT" true fun v o => { o with root := some v } },
    { long := "reindex-on-write", effect := .flag fun o => { o with reindexOnWrite := true } },
    { long := "dry-run", effect := .flag fun o => { o with dryRun := true } },
    { long := "json", effect := .flag fun o => { o with json := true } }]

/-- What is given on the command line replaces the settings. -/
def apply (o : GenerateOptions) (s : Settings) : Settings :=
  let s := o.input.apply s
  { s with
    output := { dir := o.out.getD s.output.dir }
    generator := {
      target := o.target.getD s.generator.target
      host := o.host.getD s.generator.host
      root := o.root.getD s.generator.root
      reindexOnWrite := s.generator.reindexOnWrite || o.reindexOnWrite } }

/-- Printing artifacts makes sense only when they are not written. -/
def complete (o : GenerateOptions) : Except UsageError Task :=
  if o.json && !o.dryRun then .error .missingArguments else .ok (.generate o)

end GenerateOptions

/-- The settings of a task. -/
def Task.apply (s : Settings) : Task → Settings
  | .generate o => o.apply s
  | .check o => o.apply s

namespace Invocation

/-- The arguments of a subcommand, after settings named in front of it. -/
def ofSubcommand (options : List (OptionSpec α)) (own : α) (before : Option FilePath)
    (complete : α → Except UsageError Task) (arguments : List String) :
    Except UsageError Invocation := do
  let start : Given (Shared α) := { record := { own } }
  let (given, rest) ← readOptions (options.map Shared.lift ++ Shared.options) start none arguments
  match rest with
  | some rest => throw (.unexpectedArgument rest.argument)
  | none =>
    if given.record.help then return .help
    let task ← complete given.record.own
    return .run (given.record.settings.or before) task

/-- What the arguments ask for. -/
def parse (arguments : List String) : Except UsageError Invocation := do
  let start : Given (Shared Unit) := { record := { own := () } }
  let (given, rest) ← readOptions (Shared.versionOption :: Shared.options) start none arguments
  if given.record.help then return .help
  if given.record.version then return .version
  let before := given.record.settings
  match rest with
  | none => if arguments.isEmpty then return .nothing else throw .subcommandRequired
  | some ⟨name, more, literal⟩ =>
    if name == "generate" && !literal then
      ofSubcommand GenerateOptions.options {} before GenerateOptions.complete more
    else if name == "check" && !literal then
      ofSubcommand InputOptions.options {} before (fun o => .ok (.check o)) more
    else if name == "help" && !literal then return .help
    else if name == "generate" || name == "check" || name == "help" then
      throw (.unexpectedArgument name)
    else throw (.unknownSubcommand name)

end Invocation

end Command
end TypedGraph
