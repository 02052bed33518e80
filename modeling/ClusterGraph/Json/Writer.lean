import ClusterGraph.Json.Basic
import ClusterGraph.Number.Layout
import ClusterGraph.Text.Quoted

namespace ClusterGraph

/-! JSON text in ASCII. Objects are written with their keys in ascending order, so that the text
does not depend on the order of entries. -/

/-- What stands between items, and between a key and its value. -/
structure JsonLayout where
  betweenItems : String
  afterKey : String
deriving Repr, DecidableEq

/-- No blanks. -/
def JsonLayout.compact : JsonLayout := ⟨",", ":"⟩

/-- A blank after each mark. -/
def JsonLayout.spaced : JsonLayout := ⟨", ", ": "⟩

namespace Json

/-- A code unit of sixteen bits as an escape. -/
def unitEscape (unit : Nat) : List Char :=
  '\\' :: 'u' :: Text.hexDigits 4 unit

def escapeChar (c : Char) : List Char :=
  if c == '"' || c == '\\' then ['\\', c]
  else if c == '\n' then ['\\', 'n']
  else if c == '\r' then ['\\', 'r']
  else if c == '\t' then ['\\', 't']
  else if c == '\x08' then ['\\', 'b']
  else if c == '\x0c' then ['\\', 'f']
  else if 0x20 ≤ c.toNat && c.toNat ≤ 0x7E then [c]
  else
    let code := c.toNat
    if code < 0x10000 then unitEscape code
    else
      unitEscape (0xD800 + (code - 0x10000) / 0x400) ++
        unitEscape (0xDC00 + (code - 0x10000) % 0x400)

def writeString (text : String) : List Char :=
  '"' :: text.toList.flatMap escapeChar ++ ['"']

/-- Entries with their keys in ascending order of code points. -/
def sortKeys {α : Type} (entries : Entries α) : Entries α :=
  entries.mergeSort fun left right => decide (left.1 ≤ right.1)

def joinWith (between : String) : List (List Char) → List Char
  | [] => []
  | [text] => text
  | text :: rest => text ++ between.toList ++ joinWith between rest

mutual

def write (layout : JsonLayout) : Json → List Char
  | .null => "null".toList
  | .bool value => (if value then "true" else "false").toList
  | .int value => (toString value).toList
  | .float value => (NumberLayout.json.text value).toList
  | .str value => writeString value
  | .arr items => '[' :: joinWith layout.betweenItems (writeItems layout items) ++ [']']
  | .obj entries =>
      let parts := (sortKeys (writeEntries layout entries)).map fun entry =>
        writeString entry.1 ++ layout.afterKey.toList ++ entry.2
      '{' :: joinWith layout.betweenItems parts ++ ['}']

def writeItems (layout : JsonLayout) : List Json → List (List Char)
  | [] => []
  | item :: rest => write layout item :: writeItems layout rest

def writeEntries (layout : JsonLayout) : List (String × Json) → Entries (List Char)
  | [] => []
  | (key, value) :: rest => (key, write layout value) :: writeEntries layout rest

end

def text (layout : JsonLayout) (tree : Json) : String :=
  String.ofList (tree.write layout)

/-- The text of a tree, if it has one. -/
def text? (layout : JsonLayout) (tree : Json) : Option String :=
  match tree.textFault? with
  | some _ => none
  | none => some (tree.text layout)

theorem writeItems_eq_map (layout : JsonLayout) (items : List Json) :
    writeItems layout items = items.map (write layout) := by
  induction items with
  | nil => rfl
  | cons item rest ih => simp [writeItems, ih]

theorem writeEntries_eq_map (layout : JsonLayout) (entries : List (String × Json)) :
    writeEntries layout entries = entries.map fun entry => (entry.1, write layout entry.2) := by
  induction entries with
  | nil => rfl
  | cons entry rest ih => simp [writeEntries, ih]

end Json

end ClusterGraph
