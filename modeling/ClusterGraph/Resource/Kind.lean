import ClusterGraph.Json.Basic

namespace ClusterGraph

/-! Types of objects: the group, version and kind of an object, and the type that a reference asks
for. -/

namespace Text

def splitFirst? (separator : Char) : List Char → Option (List Char × List Char)
  | [] => none
  | c :: rest =>
      if c == separator then some ([], rest)
      else (splitFirst? separator rest).map fun (before, after) => (c :: before, after)

def splitLast? (separator : Char) (text : List Char) : Option (List Char × List Char) :=
  (splitFirst? separator text.reverse).map fun (after, before) => (before.reverse, after.reverse)

end Text

/-- The type of an object. The core group has the empty name. -/
structure GroupVersionKind where
  group : String := ""
  version : String := ""
  kind : String := ""
deriving DecidableEq, Repr

namespace GroupVersionKind

/-- The last slash of an API version divides group and version. -/
def ofApiVersion (apiVersion kind : String) : GroupVersionKind :=
  match Text.splitLast? '/' apiVersion.toList with
  | some (group, version) => ⟨String.ofList group, String.ofList version, kind⟩
  | none => ⟨"", apiVersion, kind⟩

/-- The type that an object states; what is missing or no string is empty. -/
def ofObject (tree : Json) : GroupVersionKind :=
  ofApiVersion (((tree.get? "apiVersion").getD .null).textOr "")
    (((tree.get? "kind").getD .null).textOr "")

end GroupVersionKind

/-- The type that a reference asks for. A kind that stands alone leaves the group open. -/
structure TargetType where
  group : Option String
  version : String
  kind : String
deriving DecidableEq, Repr

namespace TargetType

/-- `Kind`, `version/Kind` in the core group, or `group/version/Kind`; further slashes belong to the
kind. -/
def ofText (text : String) : TargetType :=
  match Text.splitFirst? '/' text.toList with
  | none => ⟨none, "", text⟩
  | some (first, rest) =>
      match Text.splitFirst? '/' rest with
      | none => ⟨some "", String.ofList first, String.ofList rest⟩
      | some (second, third) => ⟨some (String.ofList first), String.ofList second, String.ofList third⟩

end TargetType

end ClusterGraph
