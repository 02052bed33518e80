import ClusterGraph.Proofs.Store.GraphNodes
import ClusterGraph.Proofs.Store.NodeProperties

namespace ClusterGraph

/-! Properties that are written over stored ones. What was written can be looked up, whatever was
stored before, and writing it once more changes nothing. -/

namespace Entries

variable {κ α : Type} {entries others : List (κ × α)} {key name : κ} {value : α}
  {isKey : κ → Bool}

/-- Some entry has the key, and all that have it have the value. -/
structure Tells (entries : List (κ × α)) (key : κ) (value : α) : Prop where
  present : ∃ entry ∈ entries, entry.1 = key
  alike : ∀ entry ∈ entries, entry.1 = key → entry.2 = value

theorem mem_insertBy (exact : ∀ other, isKey other = true ↔ other = key) {entry : κ × α} :
    entry ∈ insertBy isKey entries key value ↔
      entry = (key, value) ∨ entry ∈ entries ∧ entry.1 ≠ key := by
  unfold insertBy
  split
  · rename_i present
    rw [List.mem_map]
    constructor
    · rintro ⟨old, member, rfl⟩
      split
      · rename_i isOld
        exact .inl (by rw [(exact old.1).mp isOld])
      · rename_i isOther
        exact .inr ⟨member, fun isOld => isOther ((exact old.1).mpr isOld)⟩
    · rintro (rfl | ⟨member, differ⟩)
      · obtain ⟨old, member, isOld⟩ := List.any_eq_true.mp present
        exact ⟨old, member, by rw [if_pos isOld, (exact old.1).mp isOld]⟩
      · exact ⟨entry, member, if_neg fun isOld => differ ((exact entry.1).mp isOld)⟩
  · rename_i absent
    rw [List.mem_append, List.mem_singleton, or_comm]
    refine or_congr_right ⟨fun member => ⟨member, fun isOld => absent ?_⟩, And.left⟩
    exact List.any_eq_true.mpr ⟨entry, member, (exact entry.1).mpr isOld⟩

theorem tells_insertBy (exact : ∀ other, isKey other = true ↔ other = key)
    (entries : List (κ × α)) (value : α) : Tells (insertBy isKey entries key value) key value where
  present := ⟨(key, value), (mem_insertBy exact).mpr (.inl rfl), rfl⟩
  alike := by
    intro entry member isKey
    rcases (mem_insertBy exact).mp member with rfl | ⟨_, differ⟩
    · rfl
    · exact absurd isKey differ

theorem Tells.insertBy (tells : Tells entries key value) (differ : name ≠ key)
    (exact : ∀ other, isKey other = true ↔ other = name) (new : α) :
    Tells (insertBy isKey entries name new) key value where
  present := by
    obtain ⟨entry, member, rfl⟩ := tells.present
    exact ⟨entry, (mem_insertBy exact).mpr (.inr ⟨member, differ.symm⟩), rfl⟩
  alike := by
    intro entry member named
    rcases (mem_insertBy exact).mp member with rfl | ⟨old, _⟩
    · exact absurd named differ
    · exact tells.alike entry old named

/-- Inserting what is told changes nothing. -/
theorem Tells.insert_again (tells : Tells entries key value)
    (exact : ∀ other, isKey other = true ↔ other = key) :
    Entries.insertBy isKey entries key value = entries := by
  obtain ⟨entry, member, isEntry⟩ := tells.present
  have present : entries.any (isKey ·.1) = true :=
    List.any_eq_true.mpr ⟨entry, member, (exact entry.1).mpr isEntry⟩
  rw [Entries.insertBy, if_pos present]
  calc entries.map _ = entries.map id := List.map_congr_left fun other otherMember => by
        split
        · rename_i isOther
          rw [← tells.alike other otherMember ((exact other.1).mp isOther)]
          rfl
        · rfl
    _ = entries := List.map_id _

/-- After some insertions all entries of a key have a value if all that were inserted have it. -/
theorem tells_foldl (same : κ → κ → Bool)
    (exact : ∀ entry ∈ others, ∀ other, same other entry.1 = true ↔ other = entry.1)
    (present : Tells entries key value ∨ ∃ entry ∈ others, entry.1 = key)
    (alike : ∀ entry ∈ others, entry.1 = key → entry.2 = value) :
    Tells (others.foldl (fun all entry => insertBy (same · entry.1) all entry.1 entry.2) entries)
      key value := by
  induction others generalizing entries with
  | nil => exact present.resolve_right (by simp)
  | cons entry rest ih =>
      refine ih (fun other member => exact other (List.mem_cons_of_mem _ member)) ?_
        fun other member => alike other (List.mem_cons_of_mem _ member)
      have isEntry := exact entry List.mem_cons_self
      by_cases isKey : entry.1 = key
      · subst isKey
        obtain rfl := alike entry List.mem_cons_self rfl
        exact .inl (tells_insertBy isEntry entries entry.2)
      · refine present.imp (fun tells => tells.insertBy isKey isEntry entry.2) ?_
        rintro ⟨other, member, isOther⟩
        rcases List.mem_cons.mp member with rfl | later
        · exact absurd isOther isKey
        · exact ⟨other, later, isOther⟩

theorem foldl_again (same : κ → κ → Bool)
    (exact : ∀ entry ∈ others, ∀ other, same other entry.1 = true ↔ other = entry.1)
    (tells : ∀ entry ∈ others, Tells entries entry.1 entry.2) :
    others.foldl (fun all entry => insertBy (same · entry.1) all entry.1 entry.2) entries =
      entries := by
  induction others with
  | nil => rfl
  | cons entry rest ih =>
      rw [List.foldl_cons, (tells entry List.mem_cons_self).insert_again
        (exact entry List.mem_cons_self)]
      exact ih (fun other member => exact other (List.mem_cons_of_mem _ member))
        fun other member => tells other (List.mem_cons_of_mem _ member)

theorem Tells.get? {entries : Entries α} {key : String} (tells : Tells entries key value) :
    entries.get? key = some value := by
  induction entries with
  | nil => simpa using tells.present
  | cons entry rest ih =>
      rw [get?_cons]
      by_cases isKey : key = entry.1
      · rw [if_pos (by simp [isKey]), tells.alike entry List.mem_cons_self isKey.symm]
      · rw [if_neg (by simpa using isKey)]
        refine ih ⟨?_, fun other member => tells.alike other (List.mem_cons_of_mem _ member)⟩
        obtain ⟨other, member, isOther⟩ := tells.present
        rcases List.mem_cons.mp member with rfl | later
        · exact absurd isOther.symm isKey
        · exact ⟨other, later, isOther⟩

end Entries

namespace Json

theorem compareNumbers?_str (value : Json) (text : String) :
    compareNumbers? value (.str text) = none := by
  cases value <;> rfl

/-- Only a text is the same as a text. -/
theorem same_str_iff {value : Json} {text : String} :
    value.same (.str text) = true ↔ value = .str text := by
  cases value with
  | str other => simp
  | null | bool _ | int _ | arr _ | obj _ => simp [same, compareNumbers?_str]
  | float value => cases value <;> simp [same, compareNumbers?_str]

theorem equals_str_iff {value : Json} {text : String} :
    value.equals (.str text) = true ↔ value = .str text := by
  rw [equals, Bool.and_eq_true, same_str_iff, and_iff_right_iff_imp]
  rintro rfl
  rfl

end Json

namespace Properties

open Entries (Tells)

variable {properties : Properties} {name : String} {value : Json} {entries : Entries Json}

theorem get?_tells (tells : Tells properties (.str name) value) :
    properties.get? name = some value := by
  obtain ⟨property, member, named⟩ := tells.present
  obtain ⟨first, found⟩ : ∃ first, properties.find? (·.1.same (.str name)) = some first :=
    Option.isSome_iff_exists.mp (List.find?_isSome.mpr
      ⟨property, member, Json.same_str_iff.mpr named⟩)
  have isNamed : first.1.same (.str name) = true := by simpa using List.find?_some found
  rw [Properties.get?, found, Option.map_some,
    tells.alike first (List.mem_of_find?_eq_some found) (Json.same_str_iff.mp isNamed)]

/-- All names are texts. -/
def HasTextNames (properties : Properties) : Prop :=
  ∀ property ∈ properties, ∃ name, property.1 = .str name

/-- Under the texts of their names the properties tell the same. -/
theorem get?_entries_tells (texts : properties.HasTextNames)
    (tells : Tells properties (.str name) value) : properties.entries.get? name = some value := by
  have display {property : Json × Json} (member : property ∈ properties) :
      property.1.display = name ↔ property.1 = .str name := by
    obtain ⟨text, isText⟩ := texts property member
    rw [isText, Json.display_str, Json.str.injEq]
  refine Tells.get? (Entries.tells_foldl (· == ·) (fun _ _ _ => beq_iff_eq) (.inr ?_) ?_)
  · obtain ⟨property, member, named⟩ := tells.present
    exact ⟨_, List.mem_map_of_mem member, (display member).mpr named⟩
  · intro entry member named
    obtain ⟨property, propertyMember, rfl⟩ := List.mem_map.mp member
    exact tells.alike property propertyMember ((display propertyMember).mp named)

theorem same_ofEntries (entries : Entries Json) :
    ∀ property ∈ ofEntries entries, ∀ other : Json,
      other.same property.1 = true ↔ other = property.1 := by
  intro property member other
  obtain ⟨entry, _, rfl⟩ := List.mem_map.mp member
  exact Json.same_str_iff

theorem tells_insertAll (properties : Properties) (distinct : entries.keys.Nodup)
    (member : (name, value) ∈ entries) :
    Tells (properties.insertAll (ofEntries entries)) (.str name) value := by
  refine Entries.tells_foldl Json.same (same_ofEntries entries) (.inr ?_) ?_
  · exact ⟨(.str name, value), List.mem_map_of_mem member, rfl⟩
  · intro property propertyMember named
    obtain ⟨entry, entryMember, rfl⟩ := List.mem_map.mp propertyMember
    obtain rfl : entry = (name, value) :=
      List.inj_on_of_nodup_map distinct entryMember member (Json.str.inj named)
    rfl

/-- A property with another name stays, and none comes. -/
theorem mem_insertAll_other {property : Json × Json}
    (other : ∀ entry ∈ entries, property.1 ≠ .str entry.1) :
    property ∈ properties.insertAll (ofEntries entries) ↔ property ∈ properties := by
  induction entries generalizing properties with
  | nil => rfl
  | cons entry rest ih =>
      have later : property ∈ (properties.insert (.str entry.1) entry.2).insertAll
          (ofEntries rest) ↔ _ := ih fun next member => other next (List.mem_cons_of_mem _ member)
      have differ : property.1 ≠ .str entry.1 := other entry List.mem_cons_self
      refine later.trans ((Entries.mem_insertBy fun _ => Json.same_str_iff).trans ⟨?_, ?_⟩)
      · rintro (rfl | ⟨member, _⟩)
        · exact absurd rfl differ
        · exact member
      · exact fun member => .inr ⟨member, differ⟩

end Properties

end ClusterGraph
