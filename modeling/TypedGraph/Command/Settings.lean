/-
Settings files of the command.

A settings file has a table for the input, one for the output and one for the
generator, and whatever it leaves out keeps its default.
-/
import TypedGraph.Data.TomlReader
import TypedGraph.Files.Disk
import TypedGraph.Generate.Config

namespace TypedGraph
namespace Command

open Data (Tree Decoder DecodeError Field Shape)
open Files (Disk FilePath FileError)
open Generate (Config)

/-- Where models lie, and whether in directories below as well. -/
structure InputSettings where
  dir : FilePath := ⟨"model"⟩
  deep : Bool := false
deriving DecidableEq, Repr

structure OutputSettings where
  dir : FilePath := ⟨"generated"⟩
deriving DecidableEq, Repr

structure Settings where
  input : InputSettings := {}
  output : OutputSettings := {}
  generator : Config := {}
deriving DecidableEq, Repr

def path? : Decoder FilePath := fun t => FilePath.mk <$> Tree.textAs "path string" t

namespace InputSettings

def shape : Shape InputSettings where
  name := "struct InputConfig"
  closed := true
  fields := [
    .of "dir" path? fun dir s => { s with dir },
    .of "deep" Tree.boolean? fun deep s => { s with deep }]

end InputSettings

namespace OutputSettings

def shape : Shape OutputSettings where
  name := "struct OutputConfig"
  closed := true
  fields := [.of "dir" path? fun dir s => { s with dir }]

end OutputSettings

/-- What is wrong with a settings file. -/
inductive SettingsFault
  | syntaxFault (f : Data.Toml.Fault)
  | content (e : DecodeError)
deriving DecidableEq, Repr

namespace SettingsFault

def message : SettingsFault → String
  | .syntaxFault f => f.message
  | .content e => e.message Number.Double.pointText

end SettingsFault

inductive SettingsError
  | unreadable (path : FilePath) (cause : FileError)
  | invalid (path : FilePath) (fault : SettingsFault)
deriving DecidableEq, Repr

namespace SettingsError

/-- The fault of an invalid file stands on a line of its own. -/
def message : SettingsError → String
  | .unreadable path cause => "failed to read config '" ++ path.text ++ "': " ++ cause.message
  | .invalid path fault => "invalid config '" ++ path.text ++ "'\n" ++ fault.message

end SettingsError

namespace Settings

def shape : Shape Settings where
  name := "struct CliConfig"
  closed := true
  fields := [
    .of "input" (InputSettings.shape.read {}) fun input s => { s with input },
    .of "output" (OutputSettings.shape.read {}) fun output s => { s with output },
    .of "generator" ({ Config.shape with surplus := .ignored }.read {}) fun generator s =>
      { s with generator }]

/-- The settings that a text holds. -/
def parse (source : String) : Except SettingsFault Settings := do
  let tree ← (Data.Toml.read source).mapError .syntaxFault
  (shape.read {} tree).mapError .content

def load (disk : Disk) (path : FilePath) : Except SettingsError Settings := do
  let source ← (disk.readText path).mapError (.unreadable path)
  (parse source).mapError (.invalid path)

/-- The file that is looked for when none is named. -/
def defaultFile : FilePath := ⟨"nodegen.toml"⟩

/-- A named file has to exist; the default one need not. -/
def resolve (disk : Disk) : Option FilePath → Except SettingsError Settings
  | some path => load disk path
  | none => if disk.isFile defaultFile then load disk defaultFile else .ok {}

end Settings

end Command
end TypedGraph
