import ClusterGraph.Proofs.Store.TransactionCounters
import Mathlib.Algebra.BigOperators.Group.List.Basic
import Mathlib.Algebra.Ring.Nat

namespace ClusterGraph.Counters

/-! Sums over the samples that counters export. An addition to a series moves the sums that the
series is part of, as no series is listed twice. -/

/-- The sum of the samples that are chosen by their names and labels. -/
def total (counters : Counters) (chosen : String → List String → Bool) : Nat :=
  ((counters.samples.filter fun sample => chosen sample.1 sample.2.1).map fun sample =>
    sample.2.2).sum

/-- The sum of the values of some series. -/
def sumOf (counts : List (Series × Nat)) (chosen : Series → Bool) : Nat :=
  ((counts.filter fun entry => chosen entry.1).map Prod.snd).sum

def Distinct (counters : Counters) : Prop :=
  (counters.counts.map Prod.fst).Nodup

def timing : String :=
  "kubegraph_sync_duration_seconds_count"

variable (chosen : String → List String → Bool)

def chooses (series : Series) : Bool :=
  chosen series.name series.labels

theorem total_eq (counters : Counters) :
    counters.total chosen = (if chosen timing [] then counters.timedSyncs else 0) +
      sumOf counters.counts (chooses chosen) := by
  have sorted := List.mergeSort_perm
    ((timing, [], counters.timedSyncs) ::
      counters.counts.map fun entry => (entry.1.name, entry.1.labels, entry.2)) Sample.le
  have sums := ((sorted.filter fun sample => chosen sample.1 sample.2.1).map
    fun sample => sample.2.2).sum_eq
  refine sums.trans ?_
  rw [List.filter_cons, List.filter_map, sumOf]
  split <;> simp [Function.comp_def, chooses, *]

theorem sumOf_cons (entry : Series × Nat) (counts : List (Series × Nat)) (picked : Series → Bool) :
    sumOf (entry :: counts) picked =
      (if picked entry.1 then entry.2 else 0) + sumOf counts picked := by
  simp only [sumOf, List.filter_cons]
  split <;> simp

theorem sumOf_map_add {counts : List (Series × Nat)} (distinct : (counts.map Prod.fst).Nodup)
    (picked : Series → Bool) (series : Series) (amount : Nat) :
    sumOf (counts.map fun entry =>
        if entry.1 == series then (series, entry.2 + amount) else entry) picked =
      sumOf counts picked +
        if (counts.lookup series).isSome ∧ picked series then amount else 0 := by
  induction counts with
  | nil => rfl
  | cons entry rest ih =>
      obtain ⟨key, count⟩ := entry
      simp only [List.map_cons, List.nodup_cons] at distinct
      rw [List.map_cons, sumOf_cons, sumOf_cons, ih distinct.2, List.lookup_cons]
      by_cases isKey : key = series
      · subst isKey
        have absent : rest.lookup key = none := by
          refine List.lookup_eq_none_iff.mpr fun entry member => ?_
          rw [bne_iff_ne]
          rintro rfl
          exact distinct.1 (List.mem_map_of_mem member)
        by_cases isChosen : picked key = true
        · simp [absent, isChosen]
          omega
        · simp [absent, isChosen]
      · have otherKey : (series == key) = false := beq_false_of_ne (Ne.symm isKey)
        simp only [isKey, beq_iff_eq, if_false, otherKey]
        omega

theorem keys_add (counters : Counters) (series : Series) (amount : Nat) :
    (counters.add series amount).counts.map Prod.fst =
      if (counters.counts.lookup series).isSome then counters.counts.map Prod.fst
      else counters.counts.map Prod.fst ++ [series] := by
  unfold add
  split
  · rw [List.map_map]
    refine List.map_congr_left fun entry _ => ?_
    simp only [Function.comp_apply]
    split
    · rename_i same
      exact (beq_iff_eq.mp same).symm
    · rfl
  · simp

theorem not_mem_keys {counters : Counters} {series : Series}
    (unlisted : counters.counts.lookup series = none) :
    series ∉ counters.counts.map Prod.fst := by
  intro member
  obtain ⟨entry, isEntry, rfl⟩ := List.mem_map.mp member
  simpa using List.lookup_eq_none_iff.mp unlisted entry isEntry

variable {counters grown : Counters} {chosen}

theorem Distinct.add (distinct : counters.Distinct) (series : Series) (amount : Nat) :
    (counters.add series amount).Distinct := by
  unfold Distinct
  rw [keys_add]
  cases listed : counters.counts.lookup series with
  | some value => exact distinct
  | none =>
      refine List.nodup_append.mpr ⟨distinct, by simp, ?_⟩
      rintro key member other isSeries rfl
      exact not_mem_keys listed (List.mem_singleton.mp isSeries ▸ member)

theorem add_timedSyncs (counters : Counters) (series : Series) (amount : Nat) :
    (counters.add series amount).timedSyncs = counters.timedSyncs := by
  unfold add
  split <;> rfl

/-- The time of a sync is in no sum but that of the times taken. -/
theorem total_timed (counters : Counters) (timed : Nat) (unchosen : chosen timing [] = false) :
    ({ counters with timedSyncs := timed } : Counters).total chosen = counters.total chosen := by
  simp [total_eq, unchosen]

theorem total_add (distinct : counters.Distinct) (chosen : String → List String → Bool)
    (series : Series) (amount : Nat) :
    (counters.add series amount).total chosen =
      counters.total chosen + if chooses chosen series then amount else 0 := by
  have sums : sumOf (counters.add series amount).counts (chooses chosen) =
      sumOf counters.counts (chooses chosen) + if chooses chosen series then amount else 0 := by
    unfold Counters.add
    split
    · rename_i listed
      simp only [sumOf_map_add distinct, listed, true_and]
    · simp only [sumOf, List.filter_append, List.map_append, List.sum_append, List.filter_cons,
        List.filter_nil]
      split <;> simp
  rw [total_eq, total_eq, add_timedSyncs, sums, Nat.add_assoc]

namespace Grow

variable {allowed : Series → Prop}

theorem distinct (grows : counters.Grow allowed grown) (distinct : counters.Distinct) :
    grown.Distinct := by
  induction grows with
  | refl => exact distinct
  | add _ _ amount ih => exact ih.add _ amount

theorem timedSyncs (grows : counters.Grow allowed grown) :
    grown.timedSyncs = counters.timedSyncs := by
  induction grows with
  | refl => rfl
  | add _ _ amount ih => rw [add_timedSyncs, ih]

/-- Sums that none of the series is part of stay. -/
theorem total (grows : counters.Grow allowed grown) (distinct : counters.Distinct)
    (others : ∀ series, allowed series → chooses chosen series = false) :
    grown.total chosen = counters.total chosen := by
  induction grows with
  | refl => rfl
  | add grows isAllowed amount ih =>
      rw [total_add (grows.distinct distinct), others _ isAllowed, ih]
      simp

end Grow

end ClusterGraph.Counters
