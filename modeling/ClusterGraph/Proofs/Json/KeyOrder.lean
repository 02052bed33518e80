import ClusterGraph.Projection
import ClusterGraph.Proofs.Labels.Order
import ClusterGraph.Proofs.Path.Positions
import Mathlib.Data.List.Perm.Basic

namespace ClusterGraph

/-! The order of keys. Trees that differ in the order of the entries of their objects alone have the
same text, as each object is written with its keys in ascending order, and their projections differ
at most in the order of the further fields. -/

namespace Entries

variable {α β : Type} {entries others : Entries α}

theorem map_subset (result : α → β) (distinct : entries.keys.Nodup)
    (othersDistinct : others.keys.Nodup) (keys : entries.keys ⊆ others.keys)
    (each : ∀ key value other, entries.get? key = some value → others.get? key = some other →
      result value = result other) :
    (entries.map fun entry => (entry.1, result entry.2)) ⊆
      others.map fun entry => (entry.1, result entry.2) := by
  intro told toldMember
  obtain ⟨⟨key, value⟩, member, rfl⟩ := List.mem_map.mp toldMember
  obtain ⟨⟨_, other⟩, otherMember, rfl⟩ := List.mem_map.mp (keys (List.mem_map_of_mem member))
  refine List.mem_map.mpr ⟨_, otherMember, ?_⟩
  rw [each _ _ _ (get?_of_mem distinct member) (get?_of_mem othersDistinct otherMember)]

/-- Entries under the same keys, whose values have the same results, are the same in some order once
each value is replaced by its result. -/
theorem map_perm (result : α → β) (distinct : entries.keys.Nodup)
    (keys : others.keys.Perm entries.keys)
    (each : ∀ key value other, entries.get? key = some value → others.get? key = some other →
      result value = result other) :
    (entries.map fun entry => (entry.1, result entry.2)).Perm
      (others.map fun entry => (entry.1, result entry.2)) := by
  have othersDistinct : others.keys.Nodup := keys.nodup_iff.mpr distinct
  have apart {entries : Entries α} (distinct : entries.keys.Nodup) :
      (entries.map fun entry => (entry.1, result entry.2)).Nodup := by
    refine .of_map Prod.fst ?_
    rw [List.map_map]
    exact distinct
  refine (List.perm_ext_iff_of_nodup (apart distinct) (apart othersDistinct)).mpr fun told => ?_
  constructor
  · exact fun member => map_subset result distinct othersDistinct keys.symm.subset each member
  · exact fun member => map_subset result othersDistinct distinct keys.subset
      (fun key value other found otherFound => (each key other value otherFound found).symm) member

end Entries

namespace Json

theorem itemsDepth_eq (items : List Json) :
    itemsDepth items = (items.map depth).foldr max 0 := by
  induction items with
  | nil => rfl
  | cons item rest ih => rw [itemsDepth, ih, List.map_cons, List.foldr_cons]

theorem entriesDepth_eq (entries : List (String × Json)) :
    entriesDepth entries = (entries.map fun entry => entry.2.depth).foldr max 0 := by
  induction entries with
  | nil => rfl
  | cons entry rest ih => rw [entriesDepth, ih, List.map_cons, List.foldr_cons]

theorem itemsHaveLongInteger_eq (items : List Json) :
    itemsHaveLongInteger items = (items.map hasLongInteger).foldr or false := by
  induction items with
  | nil => rfl
  | cons item rest ih => rw [itemsHaveLongInteger, ih, List.map_cons, List.foldr_cons]

theorem entriesHaveLongInteger_eq (entries : List (String × Json)) :
    entriesHaveLongInteger entries =
      (entries.map fun entry => entry.2.hasLongInteger).foldr or false := by
  induction entries with
  | nil => rfl
  | cons entry rest ih => rw [entriesHaveLongInteger, ih, List.map_cons, List.foldr_cons]

theorem sortKeys_perm {α : Type} (entries : Entries α) : (sortKeys entries).Perm entries :=
  List.mergeSort_perm entries _

theorem sortKeys_pairwise {α : Type} (entries : Entries α) :
    (sortKeys entries).Pairwise fun left right => decide (left.1 ≤ right.1) = true :=
  List.pairwise_mergeSort
    (fun _ _ _ low high => by
      simpa using String.le_trans (of_decide_eq_true low) (of_decide_eq_true high))
    (fun _ _ => by simpa using String.le_total _ _) entries

theorem sortKeys_again {α : Type} (entries : Entries α) :
    sortKeys (sortKeys entries) = sortKeys entries :=
  List.mergeSort_of_pairwise (sortKeys_pairwise entries)

theorem sortKeys_congr {α : Type} {entries others : Entries α} (distinct : entries.keys.Nodup)
    (perm : entries.Perm others) : sortKeys entries = sortKeys others := by
  refine List.Perm.eq_of_pairwise (fun left right member otherMember low high => ?_)
    (sortKeys_pairwise entries) (sortKeys_pairwise others)
    ((sortKeys_perm entries).trans (perm.trans (sortKeys_perm others).symm))
  have same := String.le_antisymm (of_decide_eq_true low) (of_decide_eq_true high)
  exact List.inj_on_of_nodup_map distinct ((sortKeys_perm entries).mem_iff.mp member)
    (perm.mem_iff.mpr ((sortKeys_perm others).mem_iff.mp otherMember)) same

/-- Trees that differ in the order of the entries of objects alone, at any depth. -/
inductive Reordered : Json → Json → Prop where
  | leaf {tree : Json} (flat : tree.branches = []) : Reordered tree tree
  | arr {items others : List Json} (length : items.length = others.length)
      (each : ∀ (offset : Nat) (item other : Json), items[offset]? = some item →
        others[offset]? = some other → Reordered item other) :
      Reordered (.arr items) (.arr others)
  | obj {entries others : List (String × Json)} (distinct : (Entries.keys entries).Nodup)
      (keys : (Entries.keys others).Perm (Entries.keys entries))
      (each : ∀ (key : String) (value other : Json), Entries.get? entries key = some value →
        Entries.get? others key = some other → Reordered value other) :
      Reordered (.obj entries) (.obj others)

namespace Reordered

variable {tree other : Json}

/-- The values are reordered in their places, and then the entries are. -/
theorem of_perm {entries moved others : List (String × Json)}
    (distinct : (Entries.keys entries).Nodup) (perm : moved.Perm others)
    (values : List.Forall₂ (fun left right => left.1 = right.1 ∧ Reordered left.2 right.2) entries
      moved) : (Json.obj entries).Reordered (.obj others) := by
  have sameKeys : Entries.keys entries = Entries.keys moved := by
    have each : List.Forall₂ (· = ·) (Entries.keys entries) (Entries.keys moved) :=
      List.forall₂_map_left_iff.mpr
        (List.forall₂_map_right_iff.mpr (values.imp fun _ _ entry => entry.1))
    rwa [List.forall₂_eq_eq_eq] at each
  have keys : (Entries.keys others).Perm (Entries.keys entries) := by
    rw [sameKeys]
    exact perm.symm.map Prod.fst
  refine .obj distinct keys fun key value other found otherFound => ?_
  obtain ⟨movedValue, movedFound, reordered⟩ : ∃ movedValue,
      Entries.get? moved key = some movedValue ∧ value.Reordered movedValue := by
    clear sameKeys keys perm distinct otherFound
    induction values with
    | nil => cases found
    | cons entry rest ih =>
        rw [Entries.get?_cons, ← entry.1]
        rw [Entries.get?_cons] at found
        split at found
        · cases found
          exact ⟨_, if_pos ‹_›, entry.2⟩
        · rw [if_neg ‹_›]
          exact ih found
  have placed := Entries.get?_of_mem (keys.nodup_iff.mpr distinct)
    (perm.mem_iff.mp (Entries.mem_of_get? movedFound))
  obtain rfl := Option.some.inj (otherFound.symm.trans placed)
  exact reordered

section Branches

variable {items others : List Json} {α : Type}

theorem map_eq {result : Json → α} (length : items.length = others.length)
    (each : ∀ (offset : Nat) (item other : Json), items[offset]? = some item →
      others[offset]? = some other → result item = result other) :
    items.map result = others.map result := by
  refine List.ext_getElem (by simpa using length) fun offset below otherBelow => ?_
  simp only [List.length_map] at below otherBelow
  simp only [List.getElem_map]
  exact each offset _ _ (List.getElem?_eq_getElem below) (List.getElem?_eq_getElem otherBelow)

/-- What is summed up over the branches of a tree, in whatever order, is the same of both. -/
theorem sum_eq {sum : Json → α} {join : α → α → α} [LeftCommutative join] {start : α}
    (whole : α → α)
    (ofItems : ∀ items, sum (.arr items) = whole ((items.map sum).foldr join start))
    (ofEntries : ∀ entries, sum (.obj entries) =
      whole ((entries.map fun entry => sum entry.2).foldr join start))
    (reordered : tree.Reordered other) : sum tree = sum other := by
  induction reordered with
  | leaf flat => rfl
  | arr length each ih => rw [ofItems, ofItems, map_eq length ih]
  | obj distinct keys each ih =>
      have sums := (Entries.map_perm sum distinct keys ih).map Prod.snd
      simp only [List.map_map] at sums
      rw [ofEntries, ofEntries]
      exact congrArg whole (sums.foldr_eq start)

end Branches

theorem write_eq (reordered : tree.Reordered other) (layout : JsonLayout) :
    tree.write layout = other.write layout := by
  induction reordered with
  | leaf flat => rfl
  | arr length each ih => simp only [write, writeItems_eq_map, map_eq length ih]
  | @obj entries others distinct keys each ih =>
      have written : (Entries.keys (entries.map fun entry =>
          (entry.1, write layout entry.2))).Nodup := by
        rw [Entries.keys, List.map_map]
        exact distinct
      simp only [write, writeEntries_eq_map,
        sortKeys_congr written (Entries.map_perm (write layout) distinct keys ih)]

theorem text_eq (reordered : tree.Reordered other) (layout : JsonLayout) :
    tree.text layout = other.text layout :=
  congrArg String.ofList (reordered.write_eq layout)

theorem depth_eq (reordered : tree.Reordered other) : tree.depth = other.depth :=
  reordered.sum_eq (· + 1) (fun items => by rw [depth, itemsDepth_eq])
    fun entries => by rw [depth, entriesDepth_eq]

theorem isTooDeep_eq (reordered : tree.Reordered other) : tree.isTooDeep = other.isTooDeep := by
  rw [isTooDeep, isTooDeep, reordered.depth_eq]

theorem hasLongInteger_eq (reordered : tree.Reordered other) :
    tree.hasLongInteger = other.hasLongInteger :=
  reordered.sum_eq id (fun items => by rw [hasLongInteger, itemsHaveLongInteger_eq, id_eq])
    fun entries => by rw [hasLongInteger, entriesHaveLongInteger_eq, id_eq]

theorem textFault?_eq (reordered : tree.Reordered other) :
    tree.textFault? = other.textFault? := by
  rw [textFault?, textFault?, reordered.isTooDeep_eq, reordered.hasLongInteger_eq]

theorem text?_eq (reordered : tree.Reordered other) (layout : JsonLayout) :
    tree.text? layout = other.text? layout := by
  rw [text?, text?, reordered.textFault?_eq, reordered.text_eq]

theorem fieldText?_eq (reordered : tree.Reordered other) : tree.fieldText? = other.fieldText? := by
  have same := reordered.text?_eq .compact
  cases reordered with
  | leaf flat => rfl
  | arr length each => exact same
  | obj distinct keys each => exact same

theorem textOr_eq (reordered : tree.Reordered other) (default : String) :
    tree.textOr default = other.textOr default := by
  cases reordered <;> rfl

theorem get? (reordered : tree.Reordered other) (key : String) :
    Option.Rel Reordered (tree.get? key) (other.get? key) := by
  cases reordered with
  | leaf flat =>
      cases tree with
      | obj entries =>
          obtain rfl : entries = [] := by simpa [branches] using flat
          exact .none
      | null | bool _ | int _ | float _ | str _ | arr _ => exact .none
  | arr length each => exact .none
  | @obj entries others distinct keys each =>
      change Option.Rel Reordered (Entries.get? entries key) (Entries.get? others key)
      have present : (Entries.get? entries key).isSome = (Entries.get? others key).isSome := by
        rw [Bool.eq_iff_iff]
        exact Entries.contains_iff.trans (keys.mem_iff.symm.trans Entries.contains_iff.symm)
      cases found : Entries.get? entries key with
      | none =>
          have absent : Entries.get? others key = none := by simpa [found] using present.symm
          rw [absent]
          exact .none
      | some value =>
          rw [found] at present
          obtain ⟨other, otherFound⟩ := Option.isSome_iff_exists.mp present.symm
          rw [otherFound]
          exact .some (each key value other found otherFound)

theorem at? (reordered : tree.Reordered other) (keys : List String) :
    Option.Rel Reordered (tree.at? keys) (other.at? keys) := by
  induction keys generalizing tree other with
  | nil => exact .some reordered
  | cons key rest ih =>
      have values := reordered.get? key
      simp only [Json.at?]
      generalize tree.get? key = value? at values ⊢
      generalize other.get? key = other? at values ⊢
      cases values with
      | none => exact .none
      | some values => exact ih values

theorem getD_null {tree? other? : Option Json} (reordered : Option.Rel Reordered tree? other?) :
    Reordered (tree?.getD .null) (other?.getD .null) := by
  cases reordered with
  | none => exact .leaf rfl
  | some values => exact values

/-- Under a key either both trees have an object or none has. -/
theorem entriesUnder (reordered : tree.Reordered other) (key : String) :
    ((tree.get? key).bind Json.entries? = none ∧ (other.get? key).bind Json.entries? = none) ∨
      ∃ entries others, (tree.get? key).bind Json.entries? = some entries ∧
        (other.get? key).bind Json.entries? = some others ∧
        (Json.obj entries).Reordered (.obj others) := by
  have values := reordered.get? key
  generalize tree.get? key = tree? at values ⊢
  generalize other.get? key = other? at values ⊢
  cases values with
  | none => exact .inl ⟨rfl, rfl⟩
  | @some tree _ values =>
      cases values with
      | leaf flat =>
          cases tree with
          | obj entries => exact .inr ⟨_, _, rfl, rfl, .leaf flat⟩
          | null | bool _ | int _ | float _ | str _ | arr _ => exact .inl ⟨rfl, rfl⟩
      | arr length each => exact .inl ⟨rfl, rfl⟩
      | obj distinct keys each => exact .inr ⟨_, _, rfl, rfl, .obj distinct keys each⟩

theorem textAt_eq (reordered : tree.Reordered other) (keys : List String) :
    tree.textAt keys = other.textAt keys :=
  (getD_null (reordered.at? keys)).textOr_eq ""

theorem fieldTexts?_reordered {entries others : Entries Json}
    (reordered : (Json.obj entries).Reordered (.obj others)) :
    (fieldTexts? entries = none ∧ fieldTexts? others = none) ∨
      ∃ texts otherTexts, fieldTexts? entries = some texts ∧
        fieldTexts? others = some otherTexts ∧ texts.keys.Nodup ∧ texts.Perm otherTexts := by
  cases reordered with
  | leaf flat =>
      obtain rfl : entries = [] := by simpa [branches] using flat
      exact .inr ⟨[], [], rfl, rfl, List.nodup_nil, .refl _⟩
  | obj distinct keys each =>
      have perm := Entries.map_perm fieldText? distinct keys fun key value other found otherFound =>
        (each key value other found otherFound).fieldText?_eq
      have told := perm.all_eq (f := fun text => text.2.isSome)
      have texts := perm.map fun text => (text.1, text.2.getD "")
      simp only [List.all_map, List.map_map] at told texts
      change entries.all (·.2.fieldText?.isSome) = others.all (·.2.fieldText?.isSome) at told
      rw [fieldTexts?_eq, fieldTexts?_eq, told]
      split
      · refine .inr ⟨_, _, rfl, rfl, ?_, texts⟩
        rwa [Entries.keys, List.map_map]
      · exact .inl ⟨rfl, rfl⟩

theorem any_isTooDeep {entries others : Entries Json}
    (reordered : (Json.obj entries).Reordered (.obj others)) :
    entries.any (·.2.isTooDeep) = others.any (·.2.isTooDeep) := by
  cases reordered with
  | leaf flat => rfl
  | obj distinct keys each =>
      have perm := Entries.map_perm isTooDeep distinct keys fun key value other found otherFound =>
        (each key value other found otherFound).isTooDeep_eq
      have same := perm.any_eq (f := Prod.snd)
      rwa [List.any_map, List.any_map] at same

end Reordered

end Json

namespace Projector

open Json (Reordered)

variable {tree other : Json}

theorem labels_reordered (reordered : tree.Reordered other) : labels? other = labels? tree := by
  unfold labels?
  rcases reordered.entriesUnder "labels" with
    ⟨absent, otherAbsent⟩ | ⟨entries, others, present, otherPresent, fields⟩
  · rw [absent, otherAbsent]
  · rcases fields.fieldTexts?_reordered with
      ⟨textless, otherTextless⟩ | ⟨texts, otherTexts, told, otherTold, -, perm⟩
    · simp only [present, otherPresent, textless, otherTextless]
    · have labels := perm.map fun text => Label.mk text.1 text.2
      simp only [present, otherPresent, told, otherTold, Option.map_some]
      exact congrArg some (Label.normalize_congr fun _ => labels.symm.mem_iff)

theorem specFields_reordered (reordered : tree.Reordered other) :
    (specFields? tree = none ∧ specFields? other = none) ∨
      ∃ fields others, specFields? tree = some fields ∧ specFields? other = some others ∧
        (Json.obj fields).Reordered (.obj others) := by
  unfold specFields?
  rcases reordered.entriesUnder "spec" with
    ⟨absent, otherAbsent⟩ | ⟨entries, others, present, otherPresent, fields⟩
  · rw [absent, otherAbsent]
    exact .inr ⟨[], [], rfl, rfl, .leaf rfl⟩
  · simp only [present, otherPresent]
    rcases fields.fieldTexts?_reordered with
      ⟨textless, otherTextless⟩ | ⟨texts, otherTexts, told, otherTold, distinct, perm⟩
    · rw [textless, otherTextless]
      exact .inl ⟨rfl, rfl⟩
    · rw [told, otherTold]
      have fields := perm.map fun text => ("spec_" ++ text.1, Json.str text.2)
      refine .inr ⟨_, _, rfl, rfl,
        .of_perm ?_ fields (List.forall₂_same.mpr fun field member => ⟨rfl, ?_⟩)⟩
      · have named : Function.Injective ("spec_" ++ ·) :=
          fun _ _ => (String.append_right_inj _).mp
        have names := distinct.map named
        rw [Entries.keys, List.map_map] at names ⊢
        exact names
      · obtain ⟨_, _, rfl⟩ := List.mem_map.mp member
        exact .leaf rfl

theorem faultUnder_reordered (key : String) (reordered : tree.Reordered other) :
    faultUnder key tree = faultUnder key other := by
  unfold faultUnder
  rcases reordered.entriesUnder key with
    ⟨absent, otherAbsent⟩ | ⟨entries, others, present, otherPresent, fields⟩
  · rw [absent, otherAbsent]
  · rw [present, otherPresent, Option.getD_some, Option.getD_some, fields.any_isTooDeep]

theorem attributes_reordered {metadata otherMetadata : Json} (reordered : tree.Reordered other)
    (metadataReordered : metadata.Reordered otherMetadata) :
    (∃ fault, attributes tree metadata = .textless fault ∧
        attributes other otherMetadata = .textless fault) ∨
      ∃ fields others, attributes tree metadata = .tree (.obj fields) ∧
        attributes other otherMetadata = .tree (.obj others) ∧
        (Json.obj fields).Reordered (.obj others) := by
  unfold attributes
  rw [labels_reordered metadataReordered, faultUnder_reordered "labels" metadataReordered,
    faultUnder_reordered "spec" reordered]
  cases labels? metadata with
  | none => exact .inl ⟨_, rfl, rfl⟩
  | some labels =>
      rcases specFields_reordered reordered with
        ⟨textless, otherTextless⟩ | ⟨fields, others, told, otherTold, same⟩
      · rw [textless, otherTextless]
        exact .inl ⟨_, rfl, rfl⟩
      · rw [told, otherTold]
        exact .inr ⟨_, _, rfl, rfl, same⟩

/-- Two projections of an object differ at most in the order of the further fields. -/
theorem project_reordered (reordered : tree.Reordered other) (projector : Projector) :
    projector.project other = { projector.project tree with
      attributes := (projector.project other).attributes } := by
  have metadata := Reordered.getD_null (reordered.get? "metadata")
  have type : GroupVersionKind.ofObject tree = GroupVersionKind.ofObject other := by
    simp only [GroupVersionKind.ofObject,
      (Reordered.getD_null (reordered.get? "apiVersion")).textOr_eq,
      (Reordered.getD_null (reordered.get? "kind")).textOr_eq]
  simp only [project, type, metadata.textAt_eq, reordered.textAt_eq, labels_reordered metadata]

end Projector

end ClusterGraph
