import ClusterGraph.Json.Literal
import ClusterGraph.Resource.Node
import ClusterGraph.Rules.Basic

namespace ClusterGraph.CompiledTable

/-! Deriving the relationships of an object from a rule table. -/

/-- The string under a key of an object, and no text where there is none. -/
def stringAt (tree : Json) (key : String) : String :=
  ((tree.get? key).getD .null).textOr ""

def sourceNamespace (tree : Json) : String :=
  stringAt ((tree.get? "metadata").getD .null) "namespace"

/-- A scalar that is not the empty string tells its target by uid where the path ends in `uid`, and
by name otherwise. A whole number has a text here: no reader delivers one with too many digits. -/
def ofScalar? (compiled : CompiledRule) (targetNamespace : String) (value : Json) :
    Option Descriptor :=
  let text := value.display
  if !value.isScalar || text.isEmpty then none
  else
    let rule := compiled.rule
    if compiled.path.lastKey == "uid" then
      some { relationship := rule.relationship, targetType := rule.targetType, targetUid := text,
             targetNamespace }
    else
      some { relationship := rule.relationship, targetType := rule.targetType, targetName := text,
             targetNamespace }

/-- A reference with kind and name tells its target; without a namespace of its own it points into
that of the object. -/
def ofReference? (compiled : CompiledRule) (source : String) (value : Json) : Option Descriptor :=
  let kind := stringAt value "kind"
  let name := stringAt value "name"
  let own := stringAt value "namespace"
  if kind.isEmpty || name.isEmpty then none
  else
    some { relationship := compiled.rule.relationship, targetType := kind, targetName := name,
           targetNamespace := if own.isEmpty then source else own }

/-- The descriptors of one rule, in document order of its matches. Targets that live in no
namespace are looked for in all of them. -/
def ofRule (table : CompiledTable) (compiled : CompiledRule) (tree : Json) : List Descriptor :=
  let source := sourceNamespace tree
  let matched := compiled.path.find tree
  if compiled.rule.byReference then matched.filterMap (ofReference? compiled source)
  else
    let targetNamespace :=
      if table.clusterScoped.contains compiled.rule.targetType then "" else source
    matched.filterMap (ofScalar? compiled targetNamespace)

/-- The descriptors of an object, rule by rule. -/
def derive (table : CompiledTable) (tree : Json) : List Descriptor :=
  (table.rulesFor (.ofObject tree)).flatMap (table.ofRule · tree)

end ClusterGraph.CompiledTable
