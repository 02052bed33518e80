import ClusterGraph.Store.Record
import Mathlib.Data.List.Nodup

namespace ClusterGraph

/-! The properties under which nodes are stored. All nodes have the same property names, so that
the properties of a later save take the place of the earlier ones one by one. -/

namespace Properties

theorem get?_ofEntries (entries : Entries Json) (name : String) :
    (ofEntries entries).get? name = entries.get? name := by
  induction entries with
  | nil => rfl
  | cons entry rest ih =>
      by_cases named : entry.1 = name
      · simp [get?, ofEntries, Entries.get?_cons, named]
      · have renamed : (name == entry.1) = false := by simpa using fun same => named same.symm
        have tail : get? (ofEntries (entry :: rest)) name = get? (ofEntries rest) name := by
          simp [get?, ofEntries, named]
        rw [tail, ih, Entries.get?_cons, renamed]
        rfl

theorem insert_present (before after : Entries Json) (name : String) (old new : Json)
    (beforeOthers : name ∉ before.keys) (afterOthers : name ∉ after.keys) :
    (ofEntries (before ++ (name, old) :: after)).insert (.str name) new =
      ofEntries (before ++ (name, new) :: after) := by
  have keep (entries : Entries Json) (others : name ∉ entries.keys) :
      (ofEntries entries).map (fun property =>
        if property.1.same (.str name) then (property.1, new) else property) =
      ofEntries entries := by
    have each : ∀ property ∈ ofEntries entries, property.1.same (.str name) = false := by
      intro property member
      obtain ⟨entry, entryMember, rfl⟩ := List.mem_map.mp member
      have differ : entry.1 ≠ name := fun same =>
        others (List.mem_map.mpr ⟨entry, entryMember, same⟩)
      simpa using differ
    calc (ofEntries entries).map _ = (ofEntries entries).map id :=
          List.map_congr_left fun property member => by simp [each property member]
      _ = ofEntries entries := List.map_id _
  have present :
      (ofEntries (before ++ (name, old) :: after)).any (·.1.same (.str name)) = true := by
    simp [ofEntries]
  unfold insert Entries.insertBy
  rw [if_pos present]
  have split (value : Json) : ofEntries (before ++ (name, value) :: after) =
      ofEntries before ++ (.str name, value) :: ofEntries after := by
    simp [ofEntries]
  rw [split, split, List.map_append, List.map_cons, keep before beforeOthers,
    keep after afterOthers]
  simp

/-- Properties take the place of others that have the same names in the same order. -/
theorem insertAll_sameNames {old new : Entries Json} (names : old.keys = new.keys)
    (distinct : new.keys.Nodup) : (ofEntries old).insertAll (ofEntries new) = ofEntries new := by
  suffices general : ∀ done : Entries Json, (∀ name ∈ new.keys, name ∉ done.keys) →
      (ofEntries (done ++ old)).insertAll (ofEntries new) = ofEntries (done ++ new) by
    simpa using general [] (by simp [Entries.keys])
  induction new generalizing old with
  | nil =>
      intro done _
      have empty : old = [] := by simpa [Entries.keys] using names
      subst empty
      rfl
  | cons entry rest ih =>
      intro done others
      cases old with
      | nil => simp [Entries.keys] at names
      | cons previous oldRest =>
          obtain ⟨name, value⟩ := entry
          obtain ⟨oldName, oldValue⟩ := previous
          simp only [Entries.keys, List.map_cons, List.cons.injEq] at names
          obtain ⟨rfl, restNames⟩ := names
          simp only [Entries.keys, List.map_cons, List.nodup_cons] at distinct
          have inserted := insert_present done oldRest oldName oldValue value
            (others oldName (by simp [Entries.keys]))
            (by simpa only [Entries.keys, restNames] using distinct.1)
          have continued := ih restNames distinct.2 (done ++ [(oldName, value)]) (by
            intro later member
            simp only [Entries.keys, List.map_append, List.map_cons, List.map_nil, List.mem_append,
              List.mem_singleton, not_or]
            refine ⟨others later (by simp [Entries.keys] at member ⊢; exact .inr member), ?_⟩
            rintro rfl
            exact distinct.1 member)
          have step : insertAll (ofEntries (done ++ (oldName, oldValue) :: oldRest))
              (ofEntries ((oldName, value) :: rest)) =
              insertAll (ofEntries (done ++ (oldName, value) :: oldRest)) (ofEntries rest) := by
            rw [← inserted]
            rfl
          rw [step]
          simpa using continued

end Properties

namespace Node

/-- The names of the properties of a node. -/
def propertyNames : List String :=
  ["uid", "group", "apiVersion", "kind", "name", "namespace", "cluster", "status_phase",
   "spec_nodeName", "isCurrent", "lastUpdated", "additionalFields"]

theorem propertyNames_nodup : propertyNames.Nodup := by
  decide

theorem propertiesWith_keys (node : Node) (stamp attributes : String) :
    (node.propertiesWith stamp attributes).keys = propertyNames := rfl

theorem properties_ok {node : Node} {properties : Entries Json}
    (written : node.properties = .ok properties) :
    ∃ stamp attributes, properties = node.propertiesWith stamp attributes := by
  unfold Node.properties at written
  cases attributesRead : attributesText (fun reason => .graph (.unwritable node.uid reason))
      node.attributes with
  | error reason => simp [attributesRead] at written
  | ok attributes =>
      simp only [attributesRead] at written
      cases stampRead : stampText (fun reason => .graph (.unwritable node.uid reason))
          node.stamp with
      | error failure => simp [stampRead, Except.map] at written
      | ok stamp =>
          simp only [stampRead, Except.map, Except.ok.injEq] at written
          exact ⟨stamp, attributes, written.symm⟩

theorem properties_keys {node : Node} {properties : Entries Json}
    (written : node.properties = .ok properties) : properties.keys = propertyNames := by
  obtain ⟨stamp, attributes, rfl⟩ := properties_ok written
  exact propertiesWith_keys node stamp attributes

/-- What a stored node tells about itself. -/
structure IsStoredAs (node : Node) (stored : Properties) : Prop where
  uid : stored.get? "uid" = some (.str node.uid)
  group : stored.get? "group" = some (.str node.group)
  kind : stored.get? "kind" = some (.str node.kind)
  name : stored.get? "name" = some (.str node.name)
  namespaceName : stored.get? "namespace" = some (.str node.namespaceName)

theorem isStoredAs_properties {node : Node} {properties : Entries Json}
    (written : node.properties = .ok properties) : node.IsStoredAs (.ofEntries properties) := by
  obtain ⟨stamp, attributes, rfl⟩ := properties_ok written
  constructor <;> rw [Properties.get?_ofEntries] <;> rfl

end Node

end ClusterGraph
