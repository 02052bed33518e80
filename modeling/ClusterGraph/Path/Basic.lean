import ClusterGraph.Json.Basic

namespace ClusterGraph

/-! Paths into a JSON tree. What a segment does not fit yields no match, so that evaluation never
fails. -/

inductive Segment where
  /-- The value under a key of an object. -/
  | key (name : String)
  /-- Every item of a list or every value of an object. -/
  | wildcard
  /-- An item of a list; negative positions count from the end. -/
  | index (position : Int)
deriving DecidableEq, Repr

namespace Segment

/-- The offset that a position denotes in a list of a given length. -/
def offset? (position : Int) (length : Nat) : Option Nat :=
  let offset := if position < 0 then position + length else position
  if 0 ≤ offset ∧ offset < length then some offset.toNat else none

/-- The matches of one segment, in document order. -/
def step (segment : Segment) (tree : Json) : List Json :=
  match segment, tree with
  | .key name, .obj entries => (Entries.get? entries name).toList
  | .wildcard, .arr items => items
  | .wildcard, .obj entries => Entries.values entries
  | .index position, .arr items => ((offset? position items.length).bind (items[·]?)).toList
  | _, _ => []

end Segment

/-- A path with the expression it was written as. -/
structure Path where
  expression : String
  segments : List Segment
deriving DecidableEq, Repr

namespace Path

/-- The name of the last segment, if that is a key. -/
def lastKey (path : Path) : String :=
  match path.segments.getLast? with
  | some (.key name) => name
  | _ => ""

/-- Takes the matches of one segment after the other, and stops when none is left. -/
def advance : List Segment → List Json → List Json
  | [], current => current
  | segment :: rest, current =>
      let matched := current.flatMap segment.step
      if matched.isEmpty then [] else advance rest matched

def isNull : Json → Bool
  | .null => true
  | _ => false

/-- The values that a path reaches, in document order. A null on the way matches nothing; a null at
the end is dropped. -/
def find (path : Path) (tree : Json) : List Json :=
  (advance path.segments [tree]).filter (!isNull ·)

end Path

end ClusterGraph
