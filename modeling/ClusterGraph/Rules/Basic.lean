import ClusterGraph.Path.Parser
import ClusterGraph.Resource.Kind

namespace ClusterGraph

/-! The rules that tell which parts of an object refer to other objects. -/

/-- A rule: what a path reaches refers to objects of a target type. -/
structure Rule where
  path : String
  targetType : String
  relationship : String
  /-- The path reaches references that name kind and namespace themselves. -/
  byReference : Bool := false
deriving DecidableEq, Repr

/-- Rules for every object and rules for the objects of a type. -/
structure RuleTable where
  defaults : List Rule
  byKind : List (GroupVersionKind × List Rule)
  /-- Types whose objects live in no namespace. -/
  clusterScoped : List String
deriving Repr

namespace RuleTable

/-- Rules under their types; of several lists for one type the last counts, at the place of the
first. -/
def groupByKind (entries : List (GroupVersionKind × List Rule)) :
    List (GroupVersionKind × List Rule) :=
  entries.foldl (fun all entry =>
    if all.any (·.1 == entry.1) then all.map fun old => if old.1 == entry.1 then entry else old
    else all ++ [entry]) []

/-- The rules for objects of a type, those for every object first. -/
def rulesFor (table : RuleTable) (type : GroupVersionKind) : List Rule :=
  table.defaults ++ (table.byKind.lookup type).getD []

end RuleTable

structure CompiledRule where
  rule : Rule
  path : Path
deriving Repr

/-- A rule table whose paths are all read. -/
structure CompiledTable where
  defaults : List CompiledRule
  byKind : List (GroupVersionKind × List CompiledRule)
  clusterScoped : List String
deriving Repr

namespace CompiledTable

def compileRule (rule : Rule) : Except Path.Error CompiledRule :=
  (Path.ofText rule.path).map fun path => ⟨rule, path⟩

/-- Reads the paths of a table in order; the first that cannot be read fails the table. -/
def ofTable (table : RuleTable) : Except Path.Error CompiledTable := do
  let defaults ← table.defaults.mapM compileRule
  let byKind ← table.byKind.mapM fun (type, rules) => do
    let compiled ← rules.mapM compileRule
    pure (type, compiled)
  pure ⟨defaults, byKind, table.clusterScoped⟩

def rulesFor (table : CompiledTable) (type : GroupVersionKind) : List CompiledRule :=
  table.defaults ++ (table.byKind.lookup type).getD []

end CompiledTable

end ClusterGraph
