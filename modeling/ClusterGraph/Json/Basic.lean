import ClusterGraph.Number.Binary64
import ClusterGraph.Text.Integer

namespace ClusterGraph

/-! JSON trees. An object keeps its entries in order, whole numbers have any size, and a number
written with a point or an exponent is a floating-point number, which differs from a whole one. -/

/-- Values under text keys, in the order in which the keys came first. -/
abbrev Entries (α : Type) := List (String × α)

namespace Entries

variable {α : Type}

def get? (entries : Entries α) (key : String) : Option α :=
  entries.lookup key

def keys (entries : Entries α) : List String :=
  entries.map Prod.fst

def values (entries : Entries α) : List α :=
  entries.map Prod.snd

def contains (entries : Entries α) (key : String) : Bool :=
  (entries.get? key).isSome

/-- A new key goes last; one that is there stays as it is and takes the value. -/
def insertBy {κ : Type} (isKey : κ → Bool) (entries : List (κ × α)) (key : κ) (value : α) :
    List (κ × α) :=
  if entries.any (isKey ·.1) then
    entries.map fun entry => if isKey entry.1 then (entry.1, value) else entry
  else entries ++ [(key, value)]

def insert (entries : Entries α) (key : String) (value : α) : Entries α :=
  insertBy (· == key) entries key value

def insertAll (entries : Entries α) (others : Entries α) : Entries α :=
  others.foldl (fun all entry => all.insert entry.1 entry.2) entries

/-- Of several entries with one key the last value counts, at the place of the first. -/
def ofList (entries : List (String × α)) : Entries α :=
  insertAll [] entries

theorem get?_cons (entry : String × α) (rest : Entries α) (key : String) :
    Entries.get? (entry :: rest : List (String × α)) key =
      if key == entry.1 then some entry.2 else rest.get? key := by
  obtain ⟨name, value⟩ := entry
  simp only [get?, List.lookup_cons]
  split <;> simp_all

end Entries

inductive Json where
  | null
  | bool (value : Bool)
  | int (value : Int)
  | float (value : Binary64)
  | str (value : String)
  | arr (items : List Json)
  | obj (entries : List (String × Json))
deriving Repr, Inhabited

namespace Json

def entries? : Json → Option (Entries Json)
  | .obj entries => some entries
  | _ => none

def items? : Json → Option (List Json)
  | .arr items => some items
  | _ => none

def str? : Json → Option String
  | .str value => some value
  | _ => none

/-- The elements of a collection. A string is a collection of characters and an object one of
keys. -/
def elements? : Json → Option (List Json)
  | .arr items => some items
  | .str text => some (text.toList.map fun c => .str (String.singleton c))
  | .obj entries => some (entries.map fun entry => .str entry.1)
  | _ => none

/-- The value under a key, if the tree is an object with that key. -/
def get? (tree : Json) (key : String) : Option Json :=
  tree.entries?.bind (·.get? key)

def textOr (default : String) : Json → String
  | .str value => value
  | _ => default

/-- Null, false, zeros and whatever is empty. -/
def isVacant : Json → Bool
  | .null => true
  | .bool value => !value
  | .int value => value == 0
  | .float value => value.isZero
  | .str value => value.isEmpty
  | .arr items => items.isEmpty
  | .obj entries => entries.isEmpty

/-- Strings, numbers and truth values. -/
def isScalar : Json → Bool
  | .bool _ | .int _ | .float _ | .str _ => true
  | .null | .arr _ | .obj _ => false

mutual

/-- How many collections lie within each other. -/
def depth : Json → Nat
  | .arr items => itemsDepth items + 1
  | .obj entries => entriesDepth entries + 1
  | _ => 0

def itemsDepth : List Json → Nat
  | [] => 0
  | item :: rest => max item.depth (itemsDepth rest)

def entriesDepth : List (String × Json) → Nat
  | [] => 0
  | (_, value) :: rest => max value.depth (entriesDepth rest)

end

/-- How many collections may lie within each other in a tree that is written or shown. Whoever does
so has called more functions by then than whoever reads a tree, and has less room left. -/
def greatestTextDepth : Nat := 970

def isTooDeep (tree : Json) : Bool :=
  greatestTextDepth < tree.depth

mutual

/-- Some whole number in the tree has more digits than are converted. -/
def hasLongInteger : Json → Bool
  | .int value => Text.maxIntegerDigits < (Nat.toDigits 10 value.natAbs).length
  | .arr items => itemsHaveLongInteger items
  | .obj entries => entriesHaveLongInteger entries
  | _ => false

def itemsHaveLongInteger : List Json → Bool
  | [] => false
  | item :: rest => item.hasLongInteger || itemsHaveLongInteger rest

def entriesHaveLongInteger : List (String × Json) → Bool
  | [] => false
  | (_, value) :: rest => value.hasLongInteger || entriesHaveLongInteger rest

end

/-- Why a tree cannot be put into words. -/
inductive TextFault where
  | tooDeep
  | longInteger
deriving DecidableEq, Repr

/-- Why a tree has no text, if it has none. Of two reasons the depth is told. -/
def textFault? (tree : Json) : Option TextFault :=
  if tree.isTooDeep then some .tooDeep
  else if tree.hasLongInteger then some .longInteger
  else none

end Json

end ClusterGraph
