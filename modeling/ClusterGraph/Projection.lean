import ClusterGraph.Json.Literal
import ClusterGraph.Resource.Node

namespace ClusterGraph

/-! Projection of an object to its node. What is missing or malformed becomes empty. Only values that
have no text are refused, and then the object has no node that can be saved. -/

namespace Json

/-- The value at the end of a chain of keys. -/
def at? : Json → List String → Option Json
  | tree, [] => some tree
  | tree, key :: rest => (tree.get? key).bind (·.at? rest)

/-- The string at the end of a chain of keys, and no text where there is none. -/
def textAt (tree : Json) (keys : List String) : String :=
  ((tree.at? keys).getD .null).textOr ""

/-- The text of a label or a further field, if it has one: scalars as JSON writes them, but strings
without quotes; null is empty. -/
def fieldText? : Json → Option String
  | .str value => some value
  | .null => some ""
  | .bool value => some (if value then "true" else "false")
  | .int value => (Json.int value).display?
  | .float value => some (Json.float value).display
  | tree => tree.text? .compact

/-- The texts of all entries, if each has one. -/
def fieldTexts? : Entries Json → Option (Entries String)
  | [] => some []
  | (key, value) :: rest => do
      let text ← value.fieldText?
      let texts ← fieldTexts? rest
      return (key, text) :: texts

theorem fieldTexts?_eq (entries : Entries Json) :
    fieldTexts? entries =
      if entries.all (·.2.fieldText?.isSome) then
        some (entries.map fun entry => (entry.1, entry.2.fieldText?.getD ""))
      else none := by
  induction entries with
  | nil => rfl
  | cons entry rest ih =>
      obtain ⟨key, value⟩ := entry
      simp only [fieldTexts?, ih, List.all_cons, List.map_cons]
      cases value.fieldText? with
      | none => rfl
      | some text => cases rest.all (·.2.fieldText?.isSome) <;> rfl

theorem keys_of_fieldTexts? {entries : Entries Json} {texts : Entries String}
    (told : fieldTexts? entries = some texts) : texts.keys = entries.keys := by
  rw [fieldTexts?_eq] at told
  split at told
  · cases told
    simp [Entries.keys]
  · cases told

end Json

/-- Projects the objects of one cluster at one reading of the clock. -/
structure Projector where
  cluster : String := ""
  clock : Stamp

namespace Projector

def labels? (metadata : Json) : Option (List Label) :=
  match (metadata.get? "labels").bind Json.entries? with
  | some entries => (Json.fieldTexts? entries).map fun texts =>
      Label.normalize (texts.map fun text => ⟨text.1, text.2⟩)
  | none => some []

/-- Each field of the specification as a text. -/
def specFields? (tree : Json) : Option (List (String × Json)) :=
  match (tree.get? "spec").bind Json.entries? with
  | some entries => (Json.fieldTexts? entries).map fun texts =>
      texts.map fun text => ("spec_" ++ text.1, .str text.2)
  | none => some []

/-- Why a value under a key has no text, where one has none. Of two reasons the depth is told. -/
def faultUnder (key : String) (tree : Json) : Json.TextFault :=
  if (((tree.get? key).bind Json.entries?).getD []).any (·.2.isTooDeep) then .tooDeep
  else .longInteger

/-- The further fields of an object. Labels that have no texts are found before they are taken. -/
def attributes (tree metadata : Json) : Attributes :=
  match labels? metadata, specFields? tree with
  | some _, some fields => .tree (.obj fields)
  | none, _ => .textless (faultUnder "labels" metadata)
  | some _, none => .textless (faultUnder "spec" tree)

theorem attributes_eq_tree {tree metadata value : Json} :
    attributes tree metadata = .tree value ↔
      (labels? metadata).isSome ∧ ∃ fields, specFields? tree = some fields ∧ .obj fields = value := by
  unfold attributes
  cases labels? metadata <;> cases specFields? tree <;> simp

/-- Phase and machine are taken of pods only. -/
def project (projector : Projector) (tree : Json) : Node :=
  let type := GroupVersionKind.ofObject tree
  let metadata := (tree.get? "metadata").getD .null
  let isPod := type.kind == "Pod"
  { uid := metadata.textAt ["uid"]
    group := type.group
    version := type.version
    kind := type.kind
    name := metadata.textAt ["name"]
    namespaceName := metadata.textAt ["namespace"]
    cluster := projector.cluster
    labels := (labels? metadata).getD []
    phase := if isPod then tree.textAt ["status", "phase"] else ""
    machine := if isPod then tree.textAt ["spec", "nodeName"] else ""
    attributes := attributes tree metadata
    isCurrent := true
    stamp := projector.clock }

end Projector

end ClusterGraph
