import ClusterGraph.Json.Order
import Mathlib.Data.String.Basic

namespace ClusterGraph

/-! Sorting by keys. A sort that ends only puts the values in another order. Keys that are texts, or
lists of texts, always have an order, so that the sort ends. -/

namespace Sorting

variable {α : Type} {before? : α → α → Option Bool} {values run rest sorted : List α}

theorem extendRun_append {falling : Bool} {last : α}
    (extended : extendRun before? falling last values = some (run, rest)) :
    run ++ rest = values := by
  induction values generalizing last run with
  | nil =>
      cases extended
      rfl
  | cons next others ih =>
      simp only [extendRun, Option.bind_eq_bind, Option.bind_eq_some_iff] at extended
      obtain ⟨rises, _, extended⟩ := extended
      split at extended
      · obtain ⟨⟨later, left⟩, further, isResult⟩ := Option.bind_eq_some_iff.mp extended
        cases isResult
        exact congrArg (next :: ·) (ih further)
      · cases extended
        rfl

theorem firstRun_perm (found : firstRun before? values = some (run, rest)) :
    (run ++ rest).Perm values := by
  match values with
  | [] | [_] =>
      cases found
      rfl
  | first :: second :: others =>
      simp only [firstRun, Option.bind_eq_bind, Option.bind_eq_some_iff] at found
      obtain ⟨falling, _, ⟨later, left⟩, extended, isResult⟩ := found
      have parts := extendRun_append extended
      cases isResult
      have reordered : (if falling = true then (first :: second :: later).reverse
          else first :: second :: later).Perm (first :: second :: later) := by
        split
        · exact List.reverse_perm _
        · rfl
      rw [← parts]
      exact reordered.append_right left

theorem insert?_perm {value : α} {inserted : List α}
    (found : insert? before? sorted value = some inserted) : inserted.Perm (value :: sorted) := by
  obtain ⟨position, _, isResult⟩ := Option.bind_eq_some_iff.mp found
  cases isResult
  refine List.perm_middle.trans (List.Perm.cons value ?_)
  rw [List.take_append_drop]

theorem insertAll_perm {inserted : List α}
    (found : values.foldlM (insert? before?) sorted = some inserted) :
    inserted.Perm (sorted ++ values) := by
  induction values generalizing sorted with
  | nil =>
      cases found
      rw [List.append_nil]
  | cons value others ih =>
      rw [List.foldlM_cons] at found
      obtain ⟨next, first, later⟩ := Option.bind_eq_some_iff.mp found
      exact (ih later).trans (((insert?_perm first).append_right others).trans
        List.perm_middle.symm)

theorem sort?_perm (found : sort? before? values = some sorted) : sorted.Perm values := by
  obtain ⟨⟨run, rest⟩, isRun, inserted⟩ := Option.bind_eq_some_iff.mp found
  exact (insertAll_perm inserted).trans (firstRun_perm isRun)

end Sorting

namespace Json

variable {α : Type} {key : α → Json} {values : List α}

theorem perm_of_sortOn? {sorted : List α} (found : sortOn? key values = some sorted) :
    sorted.Perm values := by
  unfold sortOn? at found
  split at found
  · cases found
    exact List.mergeSort_perm values _
  · exact Sorting.sort?_perm found

theorem areOrdered_of_pairwise {trees : List Json} (numbers : ∀ tree ∈ trees, tree.listsNan = false)
    (comparable : ∀ left ∈ trees, ∀ right ∈ trees, (less? left right).isSome = true) :
    areOrdered trees = true := by
  induction trees with
  | nil => rfl
  | cons tree rest ih =>
      have later := ih (fun other member => numbers other (by simp [member]))
        (fun left leftMember right rightMember =>
          comparable left (by simp [leftMember]) right (by simp [rightMember]))
      have first : (rest.all fun other => (less? tree other).isSome) = true :=
        List.all_eq_true.mpr fun other member => comparable tree (by simp) other (by simp [member])
      simp only [areOrdered, numbers tree (by simp), first, later, Bool.not_false, Bool.and_self]

/-- Values whose keys have an order are merely put in another order. -/
theorem sortOn?_perm (ordered : areOrdered (values.map key) = true) :
    ∃ sorted, sortOn? key values = some sorted ∧ sorted.Perm values := by
  simp only [sortOn?, ordered, if_true]
  exact ⟨_, rfl, List.mergeSort_perm values _⟩

theorem areOrdered_texts (texts : ∀ value ∈ values, ∃ text, key value = .str text) :
    areOrdered (values.map key) = true := by
  apply areOrdered_of_pairwise
  · intro tree member
    obtain ⟨value, valueMember, rfl⟩ := List.mem_map.mp member
    obtain ⟨text, isText⟩ := texts value valueMember
    simp [isText, listsNan, isNan]
  · intro left leftMember right rightMember
    obtain ⟨first, firstMember, rfl⟩ := List.mem_map.mp leftMember
    obtain ⟨second, secondMember, rfl⟩ := List.mem_map.mp rightMember
    obtain ⟨firstText, firstIsText⟩ := texts first firstMember
    obtain ⟨secondText, secondIsText⟩ := texts second secondMember
    simp [firstIsText, secondIsText]

theorem areOrdered_textPairs
    (texts : ∀ value ∈ values, ∃ first second, key value = .arr [.str first, .str second]) :
    areOrdered (values.map key) = true := by
  apply areOrdered_of_pairwise
  · intro tree member
    obtain ⟨value, valueMember, rfl⟩ := List.mem_map.mp member
    obtain ⟨first, second, isPair⟩ := texts value valueMember
    simp [isPair, listsNan, anyListsNan, isNan]
  · intro left leftMember right rightMember
    obtain ⟨leftValue, leftValueMember, rfl⟩ := List.mem_map.mp leftMember
    obtain ⟨rightValue, rightValueMember, rfl⟩ := List.mem_map.mp rightMember
    obtain ⟨leftFirst, leftSecond, leftIsPair⟩ := texts leftValue leftValueMember
    obtain ⟨rightFirst, rightSecond, rightIsPair⟩ := texts rightValue rightValueMember
    rw [leftIsPair, rightIsPair, less?, lessItems?]
    split
    · rw [lessItems?]
      split <;> simp [lessItems?]
    · simp

section First

variable {before : α → α → Bool} {test : α → Bool} {found : α}

/-- The first of sorted values that pass a test is the least of those that pass, and of several
least ones the one that came first. -/
theorem find?_mergeSort (trans : ∀ first second third, before first second = true →
      before second third = true → before first third = true)
    (total : ∀ first second, (before first second || before second first) = true)
    (isFound : (values.mergeSort before).find? test = some found) :
    test found = true ∧ ∃ earlier later, values = earlier ++ found :: later ∧
      (∀ value ∈ earlier, test value = true → before value found = false) ∧
      ∀ value ∈ later, test value = true → before found value = true := by
  induction values with
  | nil => simp at isFound
  | cons value rest ih =>
      obtain ⟨lower, upper, isSorted, restSorted, below⟩ :=
        List.mergeSort_cons trans total value rest
      have sorted := List.pairwise_mergeSort trans total (value :: rest)
      rw [isSorted, List.find?_append] at isFound
      rw [isSorted] at sorted
      rw [restSorted, List.find?_append] at ih
      cases inLower : lower.find? test with
      | some least =>
          rw [inLower, Option.some_or] at isFound ih
          obtain ⟨passes, earlier, later, isRest, earlierAbove, laterAbove⟩ := ih isFound
          refine ⟨passes, value :: earlier, later, by rw [isRest]; rfl, ?_, laterAbove⟩
          rintro other member otherPasses
          rcases List.mem_cons.mp member with rfl | inEarlier
          · obtain rfl := Option.some.inj isFound
            simpa using below least (List.mem_of_find?_eq_some inLower)
          · exact earlierAbove other inEarlier otherPasses
      | none =>
          rw [inLower, Option.none_or] at isFound ih
          cases passes : test value with
          | true =>
              rw [List.find?_cons_of_pos passes] at isFound
              obtain rfl := Option.some.inj isFound
              refine ⟨passes, [], rest, rfl, by simp, fun other member otherPasses => ?_⟩
              have place : other ∈ lower ++ upper := by
                rw [← restSorted]
                exact List.mem_mergeSort.mpr member
              rcases List.mem_append.mp place with inLow | inUpper
              · exact absurd otherPasses (List.find?_eq_none.mp inLower other inLow)
              · exact List.rel_of_pairwise_cons (List.pairwise_append.mp sorted).2.1 inUpper
          | false =>
              rw [List.find?_cons_of_neg (by simp [passes])] at isFound
              obtain ⟨foundPasses, earlier, later, isRest, earlierAbove, laterAbove⟩ := ih isFound
              refine ⟨foundPasses, value :: earlier, later, by rw [isRest]; rfl, ?_, laterAbove⟩
              rintro other member otherPasses
              rcases List.mem_cons.mp member with rfl | inEarlier
              · simp [passes] at otherPasses
              · exact earlierAbove other inEarlier otherPasses

end First

/-- The first value in the order of its text that passes a test is the least of those that pass, and
of several with its text the one that came first. -/
theorem find?_sortOn? (texts : ∀ value ∈ values, ∃ text, key value = .str text)
    (test : α → Bool) :
    ∃ sorted, sortOn? key values = some sorted ∧
      (sorted.find? test = none ↔ ∀ value ∈ values, test value = false) ∧
      ∀ found, sorted.find? test = some found → test found = true ∧
        ∃ earlier later, values = earlier ++ found :: later ∧
          (∀ value ∈ earlier, test value = true →
            (key found).textOr "" < (key value).textOr "") ∧
          ∀ value ∈ later, test value = true →
            (key found).textOr "" ≤ (key value).textOr "" := by
  let before (left right : α) : Bool := decide ((key left).textOr "" ≤ (key right).textOr "")
  have agrees : values.mergeSort (fun left right => less? (key right) (key left) != some true) =
      values.mergeSort before := by
    have mapped := List.map_mergeSort (f := id) (l := values)
      (r := fun left right => less? (key right) (key left) != some true) (s := before) (by
        intro left leftMember right rightMember
        obtain ⟨leftText, leftIsText⟩ := texts left leftMember
        obtain ⟨rightText, rightIsText⟩ := texts right rightMember
        by_cases below : rightText < leftText
        · simp [before, leftIsText, rightIsText, textOr, below, not_le.mpr below]
        · simp [before, leftIsText, rightIsText, textOr, below, not_lt.mp below])
    simpa using mapped
  refine ⟨values.mergeSort before, ?_, ?_, ?_⟩
  · simp only [sortOn?, areOrdered_texts texts, if_true, agrees]
  · simp [List.find?_eq_none]
  · intro found isFound
    obtain ⟨passes, earlier, later, split, below, above⟩ := find?_mergeSort
      (fun first second third => by simpa [before] using fun low high => le_trans low high)
      (fun first second => by simpa [before] using le_total _ _) isFound
    refine ⟨passes, earlier, later, split, fun value member valuePasses => ?_,
      fun value member valuePasses => ?_⟩
    · simpa [before] using below value member valuePasses
    · simpa [before] using above value member valuePasses

end Json

end ClusterGraph
