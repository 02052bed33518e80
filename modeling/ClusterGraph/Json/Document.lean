import ClusterGraph.Json.Basic
import ClusterGraph.Text.CodePoint

namespace ClusterGraph.Json

/-! What JSON text denotes. It is a tree, except that its strings are code points and need not be
characters throughout. -/

inductive Document where
  | null
  | bool (value : Bool)
  | int (value : Int)
  | float (value : Binary64)
  | str (points : List Text.CodePoint)
  | arr (items : List Document)
  | obj (entries : List (List Text.CodePoint × Document))
deriving Repr, Inhabited

namespace Document

/-- Of several entries with one key the last value counts, at the place of the first. -/
def ofEntries (entries : List (List Text.CodePoint × Document)) : Document :=
  .obj (entries.foldl (fun all entry => Entries.insertBy (· == entry.1) all entry.1 entry.2) [])

mutual

def tree : Document → Json
  | .null => .null
  | .bool value => .bool value
  | .int value => .int value
  | .float value => .float value
  | .str points => .str (Text.CodePoint.text points)
  | .arr items => .arr (trees items)
  | .obj entries => .obj (entryTrees entries)

def trees : List Document → List Json
  | [] => []
  | item :: rest => tree item :: trees rest

def entryTrees : List (List Text.CodePoint × Document) → List (String × Json)
  | [] => []
  | (key, value) :: rest => (Text.CodePoint.text key, tree value) :: entryTrees rest

end

end Document

mutual

def document : Json → Document
  | .null => .null
  | .bool value => .bool value
  | .int value => .int value
  | .float value => .float value
  | .str value => .str (Text.CodePoint.ofString value)
  | .arr items => .arr (documents items)
  | .obj entries => .obj (entryDocuments entries)

def documents : List Json → List Document
  | [] => []
  | item :: rest => document item :: documents rest

def entryDocuments : List (String × Json) → List (List Text.CodePoint × Document)
  | [] => []
  | (key, value) :: rest =>
      (Text.CodePoint.ofString key, document value) :: entryDocuments rest

end

end ClusterGraph.Json
