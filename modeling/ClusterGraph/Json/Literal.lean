import ClusterGraph.Json.Document
import ClusterGraph.Json.Writer

namespace ClusterGraph.Json

/-! The text of a tree in messages and names: a string stands for itself, anything else is shown
as a literal, with strings between quotes inside lists and objects. Messages about a value of the
wrong kind name its kind. -/

def truthText (value : Bool) : String :=
  if value then "True" else "False"

namespace Document

mutual

def literal : Document → List Char
  | .null => "None".toList
  | .bool value => (truthText value).toList
  | .int value => (toString value).toList
  | .float value => (NumberLayout.plain.text value).toList
  | .str points => Text.quotedPoints points
  | .arr items => '[' :: joinWith ", " (literalItems items) ++ [']']
  | .obj entries => '{' :: joinWith ", " (literalEntries entries) ++ ['}']

def literalItems : List Document → List (List Char)
  | [] => []
  | item :: rest => literal item :: literalItems rest

def literalEntries : List (List Text.CodePoint × Document) → List (List Char)
  | [] => []
  | (key, value) :: rest =>
      (Text.quotedPoints key ++ ": ".toList ++ literal value) :: literalEntries rest

end

def display : Document → String
  | .str points => Text.CodePoint.text points
  | document => String.ofList document.literal

end Document

def display (tree : Json) : String :=
  tree.document.display

/-- The text of a tree, if it has one. -/
def display? (tree : Json) : Option String :=
  match tree.textFault? with
  | some _ => none
  | none => some tree.display

@[simp] theorem display_str (value : String) : display (.str value) = value := by
  simp [display, document, Document.display]

/-- The text of a tree, and no text for a vacant one. -/
def displayFilled (tree : Json) : String :=
  if tree.isVacant then "" else tree.display

@[simp] theorem displayFilled_str (value : String) : displayFilled (.str value) = value := by
  simp only [displayFilled, isVacant, display_str]
  split
  · rename_i empty
    rw [← String.isEmpty_iff.mp empty]
  · rfl

/-- What a value is called in messages about a value of the wrong kind. -/
def kindName : Json → String
  | .null => "NoneType"
  | .bool _ => "bool"
  | .int _ => "int"
  | .float _ => "float"
  | .str _ => "str"
  | .arr _ => "list"
  | .obj _ => "dict"

end ClusterGraph.Json
