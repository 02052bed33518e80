import ClusterGraph.Path.Basic
import ClusterGraph.Proofs.Store.GraphNodes

namespace ClusterGraph

/-! What a path finds in a tree, told by the positions in it. The search level by level finds what a
search in depth finds: the values at the positions that the segments match, in document order. -/

namespace Json

inductive Branch where
  | key (name : String)
  | item (offset : Nat)
deriving DecidableEq, Repr

abbrev Position := List Branch

def child? : Json → Branch → Option Json
  | .obj entries, .key name => Entries.get? entries name
  | .arr items, .item offset => items[offset]?
  | _, _ => none

def valueAt? (tree : Json) : Position → Option Json
  | [] => some tree
  | branch :: rest => (tree.child? branch).bind (valueAt? · rest)

/-- The branches of a tree, in document order. -/
def branches : Json → List Branch
  | .obj entries => entries.map (.key ·.1)
  | .arr items => (List.range items.length).map .item
  | _ => []

/-- No object of a tree has two entries under one key. -/
inductive HasDistinctKeys : Json → Prop
  | leaf {tree : Json} (flat : tree.branches = []) : HasDistinctKeys tree
  | arr {items : List Json} (each : ∀ item ∈ items, HasDistinctKeys item) :
      HasDistinctKeys (.arr items)
  | obj {entries : List (String × Json)} (distinct : (Entries.keys entries).Nodup)
      (each : ∀ entry ∈ entries, HasDistinctKeys entry.2) : HasDistinctKeys (.obj entries)

/-- Document order: what is in a value comes after the value itself, and what is in an earlier
value of a collection before what is in a later one. -/
inductive Precedes : Json → Position → Position → Prop
  | inside {tree : Json} {branch : Branch} {rest : Position} : Precedes tree [] (branch :: rest)
  | beside {tree : Json} {left right : Branch} {leftRest rightRest : Position}
      (earlier : [left, right].Sublist tree.branches) :
      Precedes tree (left :: leftRest) (right :: rightRest)
  | within {tree child : Json} {branch : Branch} {left right : Position}
      (isChild : tree.child? branch = some child) (precedes : Precedes child left right) :
      Precedes tree (branch :: left) (branch :: right)

variable {tree child : Json} {branch : Branch}

theorem mem_branches_of_child? (isChild : tree.child? branch = some child) :
    branch ∈ tree.branches := by
  cases tree <;> cases branch <;> simp only [child?, reduceCtorEq] at isChild
  case arr.item items offset =>
    obtain ⟨below, _⟩ := List.getElem?_eq_some_iff.mp isChild
    exact List.mem_map.mpr ⟨offset, List.mem_range.mpr below, rfl⟩
  case obj.key entries name =>
    exact List.mem_map.mpr ⟨_, Entries.mem_of_get? isChild, rfl⟩

theorem hasDistinctKeys_arr {items : List Json} :
    (Json.arr items).HasDistinctKeys ↔ ∀ item ∈ items, item.HasDistinctKeys := by
  constructor
  · intro distinct
    cases distinct with
    | leaf flat =>
        have none : items = [] := by simpa [branches] using flat
        simp [none]
    | arr each => exact each
  · exact .arr

theorem hasDistinctKeys_obj {entries : Entries Json} : (Json.obj entries).HasDistinctKeys ↔
    entries.keys.Nodup ∧ ∀ entry ∈ entries, entry.2.HasDistinctKeys := by
  constructor
  · intro distinct
    cases distinct with
    | leaf flat =>
        have none : entries = [] := by simpa [branches] using flat
        simp [none, Entries.keys]
    | obj distinct each => exact ⟨distinct, each⟩
  · rintro ⟨distinct, each⟩
    exact .obj distinct each

theorem HasDistinctKeys.branches_nodup (distinct : tree.HasDistinctKeys) :
    tree.branches.Nodup := by
  cases distinct with
  | leaf flat =>
      rw [flat]
      exact List.nodup_nil
  | arr each => exact List.nodup_range.map fun _ _ same => Branch.item.inj same
  | @obj entries distinct each =>
      have keys : (Json.obj entries).branches = (Entries.keys entries).map Branch.key := by
        rw [Entries.keys, List.map_map]
        rfl
      rw [keys]
      exact distinct.map fun _ _ same => Branch.key.inj same

theorem HasDistinctKeys.of_child (distinct : tree.HasDistinctKeys)
    (isChild : tree.child? branch = some child) : child.HasDistinctKeys := by
  cases distinct with
  | leaf flat =>
      have member := mem_branches_of_child? isChild
      rw [flat] at member
      cases member
  | arr each =>
      cases branch with
      | key name => cases isChild
      | item offset => exact each child (List.mem_of_getElem? isChild)
  | obj distinct each =>
      cases branch with
      | key name => exact each (name, child) (Entries.mem_of_get? isChild)
      | item offset => cases isChild

theorem not_sublist_swap {α : Type} {left right : α} {values : List α} (distinct : values.Nodup)
    (earlier : [left, right].Sublist values) : ¬ [right, left].Sublist values := by
  induction values with
  | nil => cases earlier
  | cons first rest ih =>
      obtain ⟨apart, distinct⟩ := List.nodup_cons.mp distinct
      intro later
      cases earlier with
      | cons _ earlier =>
          cases later with
          | cons _ later => exact ih distinct earlier later
          | cons_cons _ later => exact apart (earlier.subset (by simp))
      | cons_cons _ earlier =>
          cases later with
          | cons _ later => exact apart (later.subset (by simp))
          | cons_cons _ later => exact apart (earlier.subset (by simp))

theorem HasDistinctKeys.precedes_asymm (distinct : tree.HasDistinctKeys)
    {left right : Position} (precedes : tree.Precedes left right) :
    ¬ tree.Precedes right left := by
  induction precedes with
  | inside => exact fun back => nomatch back
  | beside earlier =>
      intro back
      cases back with
      | beside later => exact not_sublist_swap distinct.branches_nodup earlier later
      | within _ _ =>
          have apart := distinct.branches_nodup.sublist earlier
          simp at apart
  | within isChild _ ih =>
      intro back
      cases back with
      | beside later =>
          have apart := distinct.branches_nodup.sublist later
          simp at apart
      | within sameChild back =>
          cases isChild.symm.trans sameChild
          exact ih (distinct.of_child isChild) back

end Json

/-- A segment fits the ways that lead to what it selects. A position counts from the front of a
list, or from its end when it is negative. -/
def Segment.fits (segment : Segment) (tree : Json) (branch : Json.Branch) : Bool :=
  match segment, tree, branch with
  | .key name, _, .key own => own == name
  | .wildcard, _, _ => true
  | .index position, .arr items, .item offset =>
      position == offset || position + items.length == offset
  | _, _, _ => false

namespace Path

open Json

variable {tree : Json} {segment : Segment} {segments : List Segment}

/-- The segments match a position: each fits the way that the position goes in its place. -/
def Matches : List Segment → Json → Position → Prop
  | [], _, [] => True
  | segment :: rest, tree, branch :: position => segment.fits tree branch = true ∧
      ∃ child, tree.child? branch = some child ∧ Matches rest child position
  | _, _, _ => False

/-- The search in depth: for each match of the first segment all that the others find in it. -/
def search : List Segment → Json → List Json
  | [], tree => [tree]
  | segment :: rest, tree => (segment.step tree).flatMap (search rest)

/-- The positions that segments match, in document order. -/
def positions : List Segment → Json → List Position
  | [], _ => [[]]
  | segment :: rest, tree => (tree.branches.filter (segment.fits tree)).flatMap fun branch =>
      (tree.child? branch).toList.flatMap fun child => (positions rest child).map (branch :: ·)

theorem advance_eq_search (segments : List Segment) (current : List Json) :
    advance segments current = current.flatMap (search segments) := by
  induction segments generalizing current with
  | nil => simp [advance, search]
  | cons segment rest ih =>
      have inDepth : current.flatMap (search (segment :: rest)) =
          (current.flatMap segment.step).flatMap (search rest) := by
        rw [List.flatMap_assoc]
        rfl
      rw [advance, inDepth]
      by_cases none : (current.flatMap segment.step).isEmpty = true
      · rw [if_pos none, List.isEmpty_iff.mp none]
        rfl
      · rw [if_neg none, ih]

theorem mem_positions {position : Position} :
    position ∈ positions segments tree ↔ Matches segments tree position := by
  induction segments generalizing tree position with
  | nil => cases position <;> simp [positions, Matches]
  | cons segment rest ih =>
      simp only [positions, List.mem_flatMap, List.mem_filter, Option.mem_toList, List.mem_map, ih]
      constructor
      · rintro ⟨branch, ⟨_, fits⟩, child, isChild, others, isMatch, rfl⟩
        exact ⟨fits, child, isChild, isMatch⟩
      · intro isMatch
        cases position with
        | nil => cases isMatch
        | cons branch others =>
            obtain ⟨fits, child, isChild, isMatch⟩ := isMatch
            exact ⟨branch, ⟨mem_branches_of_child? isChild, fits⟩, child, isChild, others,
              isMatch, rfl⟩

theorem positions_ordered (distinct : tree.HasDistinctKeys) (segments : List Segment) :
    (positions segments tree).Pairwise tree.Precedes := by
  induction segments generalizing tree with
  | nil => exact List.pairwise_singleton _ _
  | cons segment rest ih =>
      rw [positions, List.pairwise_flatMap]
      constructor
      · intro branch _
        cases isChild : tree.child? branch with
        | none => exact List.Pairwise.nil
        | some child =>
            rw [Option.toList_some, List.flatMap_singleton, List.pairwise_map]
            exact (ih (distinct.of_child isChild)).imp fun precedes => .within isChild precedes
      · rw [List.pairwise_iff_forall_sublist]
        intro left right earlier leftPosition inLeft rightPosition inRight
        simp only [List.mem_flatMap, List.mem_map] at inLeft inRight
        obtain ⟨_, _, leftRest, _, rfl⟩ := inLeft
        obtain ⟨_, _, rightRest, _, rfl⟩ := inRight
        exact .beside (earlier.trans List.filter_sublist)

theorem filter_offsets (position : Int) (length : Nat) :
    ((List.range length).filter fun offset : Nat =>
        position == offset || position + length == offset) =
      (Segment.offset? position length).toList := by
  cases denoted : Segment.offset? position length with
  | none =>
      apply List.filter_eq_nil_iff.mpr
      intro offset below
      have below := List.mem_range.mp below
      simp only [Segment.offset?] at denoted
      grind
  | some offset =>
      have isOffset : offset < length ∧ (position = offset ∨ position + length = offset) := by
        simp only [Segment.offset?] at denoted
        grind
      have only : ∀ other ∈ List.range length,
          (position == other || position + length == other) = (other == offset) := by
        intro other below
        have below := List.mem_range.mp below
        grind
      rw [List.filter_congr only, List.filter_beq,
        List.count_eq_one_of_mem List.nodup_range (List.mem_range.mpr isOffset.1)]
      rfl

theorem children_of_items (segment : Segment) (items : List Json) :
    (((Json.arr items).branches).filter (segment.fits (.arr items))).map (Json.arr items).child? =
      (segment.step (.arr items)).map some := by
  rw [branches, List.filter_map, List.map_map]
  cases segment with
  | key name => simp [Segment.fits, Segment.step, Function.comp_def]
  | wildcard =>
      apply List.ext_getElem
      · simp [Segment.fits, Segment.step, Function.comp_def]
      · intro offset _ _
        simp [Segment.fits, Segment.step, Function.comp_def, child?]
  | index position =>
      have fits : (fun offset : Nat => (Segment.index position).fits (.arr items) (.item offset)) =
          fun offset : Nat => position == offset || position + items.length == offset := rfl
      rw [Function.comp_def (Segment.fits _ _), fits, filter_offsets]
      cases denoted : Segment.offset? position items.length with
      | none => simp [Segment.step, denoted]
      | some offset =>
          have below : offset < items.length := by
            simp only [Segment.offset?] at denoted
            grind
          simp [Segment.step, denoted, child?, below]

theorem filter_key {entries : Entries Json} (distinct : entries.keys.Nodup) (name : String) :
    (entries.filter (·.1 == name)).map Prod.snd = (entries.get? name).toList := by
  induction entries with
  | nil => rfl
  | cons entry rest ih =>
      obtain ⟨apart, distinct⟩ := List.nodup_cons.mp distinct
      rw [Entries.get?_cons]
      by_cases same : entry.1 = name
      · have others : ∀ other ∈ rest, ¬ (other.1 == name) = true := by
          intro other member isName
          apply apart
          rw [same, ← beq_iff_eq.mp isName]
          exact List.mem_map_of_mem member
        simp [same, List.filter_eq_nil_iff.mpr others]
      · rw [List.filter_cons_of_neg (by simpa using same), ih distinct,
          if_neg (by simpa using Ne.symm same)]

theorem children_of_entries {entries : Entries Json} (distinct : entries.keys.Nodup)
    (segment : Segment) :
    (((Json.obj entries).branches).filter (segment.fits (.obj entries))).map
        (Json.obj entries).child? = (segment.step (.obj entries)).map some := by
  have child : ∀ entry ∈ entries,
      (Json.obj entries).child? (.key entry.1) = some entry.2 :=
    fun entry member => Entries.get?_of_mem distinct member
  have children : (((Json.obj entries).branches).filter (segment.fits (.obj entries))).map
      (Json.obj entries).child? =
        ((entries.filter fun entry => segment.fits (.obj entries) (.key entry.1)).map
          Prod.snd).map some := by
    rw [branches, List.filter_map, List.map_map, List.map_map]
    apply List.map_congr_left
    intro entry member
    exact child entry (List.mem_filter.mp member).1
  rw [children]
  cases segment with
  | key name => exact congrArg _ (filter_key distinct name)
  | wildcard => simp [Segment.fits, Segment.step, Entries.values]
  | index position => simp [Segment.fits, Segment.step]

/-- The branches that a segment fits lead to what its step takes, in the same order. -/
theorem children_of_fits (distinct : tree.HasDistinctKeys) (segment : Segment) :
    (tree.branches.filter (segment.fits tree)).map tree.child? =
      (segment.step tree).map some := by
  cases tree with
  | arr items => exact children_of_items segment items
  | obj entries => exact children_of_entries (hasDistinctKeys_obj.mp distinct).1 segment
  | null | bool | int | float | str => cases segment <;> rfl

theorem valueAt?_positions (distinct : tree.HasDistinctKeys) (segments : List Segment) :
    (positions segments tree).map tree.valueAt? = (search segments tree).map some := by
  induction segments generalizing tree with
  | nil => rfl
  | cons segment rest ih =>
      let found (child? : Option Json) : List (Option Json) :=
        child?.toList.flatMap fun child => (search rest child).map some
      have below (branch : Branch) :
          ((tree.child? branch).toList.flatMap fun child =>
              (positions rest child).map (branch :: ·)).map tree.valueAt? =
            found (tree.child? branch) := by
        cases isChild : tree.child? branch with
        | none => rfl
        | some child =>
            simp only [found, Option.toList_some, List.flatMap_singleton, List.map_map,
              ← ih (distinct.of_child isChild)]
            apply List.map_congr_left
            intro position _
            simp only [Function.comp_apply, valueAt?, isChild, Option.bind_some]
      calc (positions (segment :: rest) tree).map tree.valueAt?
          = (tree.branches.filter (segment.fits tree)).flatMap (found <| tree.child? ·) := by
            rw [positions, List.map_flatMap]
            exact List.flatMap_congr fun branch _ => below branch
        _ = ((segment.step tree).map some).flatMap found := by
            rw [← children_of_fits distinct segment, List.flatMap_map]
        _ = (search (segment :: rest) tree).map some := by
            rw [List.flatMap_map, search, List.map_flatMap]
            simp only [found, Option.toList_some, List.flatMap_singleton]

theorem find_eq_search (path : Path) (tree : Json) :
    path.find tree = (search path.segments tree).filter (!isNull ·) := by
  rw [find, advance_eq_search, List.flatMap_singleton]

/-- A path finds the values other than null at the positions that its segments match, one position
after the other in document order, and so does the search in depth. -/
theorem find_positions (path : Path) (distinct : tree.HasDistinctKeys) :
    path.find tree = (search path.segments tree).filter (!isNull ·) ∧
      ∃ matched : List Position,
        matched.Nodup ∧ matched.Pairwise tree.Precedes ∧
          (∀ position, position ∈ matched ↔ Matches path.segments tree position ∧
            ∃ value, tree.valueAt? position = some value ∧ value ≠ .null) ∧
          matched.map tree.valueAt? = (path.find tree).map some := by
  let isValue (value? : Option Json) : Bool := value?.any (!isNull ·)
  have isValue_iff (value? : Option Json) :
      isValue value? = true ↔ ∃ value, value? = some value ∧ value ≠ .null := by
    cases value? with
    | none => simp [isValue]
    | some value => cases value <;> simp [isValue, isNull]
  let matched := (positions path.segments tree).filter (isValue <| tree.valueAt? ·)
  have ordered : matched.Pairwise tree.Precedes :=
    (positions_ordered distinct path.segments).filter _
  refine ⟨find_eq_search path tree, matched, ?once, ordered, ?exactly, ?values⟩
  case once =>
    apply ordered.imp
    rintro position _ precedes rfl
    exact distinct.precedes_asymm precedes precedes
  case exactly =>
    intro position
    rw [List.mem_filter, mem_positions, isValue_iff]
  case values =>
    calc matched.map tree.valueAt?
        = ((positions path.segments tree).map tree.valueAt?).filter isValue := by
          rw [List.filter_map]
          rfl
      _ = ((search path.segments tree).map some).filter isValue := by
          rw [valueAt?_positions distinct]
      _ = (path.find tree).map some := by
          rw [List.filter_map, find_eq_search]
          rfl

/-- In both lists the last reference is taken of each object that has any; a null reference, a null
item and a text yield none. -/
theorem find_positions_lastReferences :
    let references (last : Json) : Json := .obj [("refs", .arr [.str "first", last])]
    let tree : Json := .obj
      [("shop", .arr [references (.str "last"), .null, references .null]),
        ("bank", .arr [.str "refs", references (.int 7)])]
    let path : Path := ⟨"[*][*].refs[-1]", [.wildcard, .wildcard, .key "refs", .index (-1)]⟩
    tree.HasDistinctKeys ∧ path.find tree = [.str "last", .int 7] ∧
      ∃ matched : List Position,
        matched.Nodup ∧ matched.Pairwise tree.Precedes ∧
          (∀ position, position ∈ matched ↔ Matches path.segments tree position ∧
            ∃ value, tree.valueAt? position = some value ∧ value ≠ .null) ∧
          matched.map tree.valueAt? = (path.find tree).map some := by
  intro references tree path
  have distinct : tree.HasDistinctKeys := by
    have nothing : Json.null.HasDistinctKeys := .leaf rfl
    have number : (Json.int 7).HasDistinctKeys := .leaf rfl
    have text (value : String) : (Json.str value).HasDistinctKeys := .leaf rfl
    simp [tree, references, hasDistinctKeys_obj, hasDistinctKeys_arr, Entries.keys, nothing,
      number, text]
  exact ⟨distinct, rfl, (find_positions path distinct).2⟩

end Path

end ClusterGraph
