/-
Settings of a generation run.
-/
import TypedGraph.Data.Decode

namespace TypedGraph
namespace Generate

open Data (Tree Decoder Field Shape)

structure Config where
  /-- Qualified name that the names of the global artifacts start with. -/
  target : String := "App"
  /-- Path of the graph runtime. -/
  host : String := "::greycat"
  /-- Path of the module that the generated packages lie in. -/
  root : String := "crate"
  /-- Whether writing an indexed attribute registers the node again. -/
  reindexOnWrite : Bool := false
deriving DecidableEq, Repr

namespace Config

/-- Settings that are left out keep their defaults. -/
def shape : Shape Config where
  name := "struct GeneratorConfig"
  closed := true
  surplus := .tooMany
  fields := [
    .of "target" Tree.text? fun target c => { c with target },
    .of "host" Tree.text? fun host c => { c with host },
    .of "root" Tree.text? fun root c => { c with root },
    .of "reindex_on_write" Tree.boolean? fun reindexOnWrite c => { c with reindexOnWrite }]

def read : Decoder Config := shape.read {}

/-- The settings in their written form. -/
def toTree (c : Config) : Tree :=
  .object [("target", .text c.target), ("host", .text c.host), ("root", .text c.root),
    ("reindex_on_write", .boolean c.reindexOnWrite)]

end Config

end Generate
end TypedGraph
