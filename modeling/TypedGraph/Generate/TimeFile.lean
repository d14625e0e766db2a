/-
The time helper: durations in milliseconds, and offsets from a time.
-/
import TypedGraph.Generate.AccessorFile

namespace TypedGraph
namespace Generate

open Code (Ty Expr Stmt Member Item)

/-- A unit of time as a number of smaller units; the smallest one counts
milliseconds. -/
structure TimeUnit where
  name : String
  constant : String
  count : Nat
  smaller : Option String
deriving DecidableEq, Repr

/-- Smallest first. -/
def timeUnits : List TimeUnit :=
  [⟨"second", "ONE_SECOND", 1000, none⟩, ⟨"minute", "ONE_MINUTE", 60, some "ONE_SECOND"⟩,
    ⟨"hour", "ONE_HOUR", 60, some "ONE_MINUTE"⟩, ⟨"day", "ONE_DAY", 24, some "ONE_HOUR"⟩]

namespace TimeUnit

def constantMember (u : TimeUnit) : Member :=
  let count := toString u.count
  .constant "pub " u.constant i64 (match u.smaller with
    | some smaller => .infixed (.word count) "*" (.ofSelf smaller)
    | none => .word count)

def functions (u : TimeUnit) : List Member :=
  let nb : Code.Param := .typed "nb" (.name "i32")
  let current : Code.Param := .typed "current" i64
  let span := u.name ++ "s"
  let function (name : String) (params : List Code.Param) (value : Expr) : Member :=
    .function [mustUse] "pub " { isConst := true, name, params, output := some i64 }
      (some [.value value])
  let offset (operator : String) : Expr :=
    .infixed (.name "current") operator (.call (.ofSelf span) [.name "nb"])
  [function span [nb] (.infixed (.word "nb as i64") "*" (.ofSelf u.constant)),
    function ("next_" ++ span) [current, nb] (offset "+"),
    function ("prev_" ++ span) [current, nb] (offset "-")]

end TimeUnit

namespace Scope

variable (s : Scope)

def timeHelperName : String := s.target.name ++ "TimeHelper"

def timeFile (typeName : String) : Code.File :=
  { doc := some (headerDoc s.target.name)
    items := [
      .struct [.doc " Time arithmetic in milliseconds.", derive ["Clone", "Copy", "Debug"]] "pub "
        typeName {} .none,
      .impl {} none (.name typeName)
        (timeUnits.map TimeUnit.constantMember ++ timeUnits.flatMap TimeUnit.functions)] }

def timeArtifact : Except GenerateError Artifact := do
  let typeName ← checkedIdent s.timeHelperName "the time helper"
  Artifact.render s.timeHelperName (s.targetPackage (some "time")) .timeHelper (s.timeFile typeName)

end Scope

end Generate
end TypedGraph
