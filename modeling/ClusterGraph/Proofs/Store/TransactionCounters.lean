import ClusterGraph.Proofs.Store.TransactionEnding

namespace ClusterGraph

/-! What a transaction counts. Only the notes of its script move counters, whether or not it
commits. -/

namespace Counters

theorem lookup_map_add (counts : List (Series × Nat)) (series other : Series) (amount : Nat) :
    (counts.map fun entry => if entry.1 == series then (series, entry.2 + amount) else entry).lookup
        other =
      (counts.lookup other).map fun count => count + if other = series then amount else 0 := by
  induction counts with
  | nil => rfl
  | cons entry rest ih =>
      obtain ⟨key, count⟩ := entry
      rw [List.map_cons]
      by_cases isKey : other = key
      · subst isKey
        by_cases isSeries : other = series <;> simp [isSeries]
      · have otherKey : (other == key) = false := beq_false_of_ne isKey
        have kept : (if key == series then (series, count + amount) else (key, count)).1 = key := by
          split
          · rename_i same
            exact (beq_iff_eq.mp same).symm
          · rfl
        rw [List.lookup_cons, kept, otherKey, List.lookup_cons, otherKey]
        exact ih

theorem value_add (counters : Counters) (series other : Series) (amount : Nat) :
    (counters.add series amount).value other =
      counters.value other + if other = series then amount else 0 := by
  unfold add value
  split
  · rename_i counted
    rw [lookup_map_add]
    cases found : counters.counts.lookup other with
    | some count => rfl
    | none =>
        have differ : other ≠ series := by
          rintro rfl
          simp [found] at counted
        simp [differ]
  · rename_i uncounted
    simp only [Option.not_isSome_iff_eq_none] at uncounted
    rw [List.lookup_append]
    by_cases same : other = series
    · simp [same, uncounted]
    · have differ : (other == series) = false := beq_false_of_ne same
      simp [List.lookup_cons, differ, same]

/-- Counters that come from others by additions to some series. -/
inductive Grow (allowed : Series → Prop) (counters : Counters) : Counters → Prop where
  | refl : counters.Grow allowed counters
  | add {grown : Counters} (grows : counters.Grow allowed grown) {series : Series}
      (isAllowed : allowed series) (amount : Nat) :
      counters.Grow allowed (grown.add series amount)

namespace Grow

variable {allowed : Series → Prop} {counters middle grown : Counters}

theorem trans (first : counters.Grow allowed middle) (second : middle.Grow allowed grown) :
    counters.Grow allowed grown := by
  induction second with
  | refl => exact first
  | add _ isAllowed amount ih => exact ih.add isAllowed amount

theorem mono {other : Series → Prop} (weaker : ∀ series, allowed series → other series)
    (grows : counters.Grow allowed grown) : counters.Grow other grown := by
  induction grows with
  | refl => exact .refl
  | add _ isAllowed amount ih => exact ih.add (weaker _ isAllowed) amount

/-- A series that nothing is added to keeps its value. -/
theorem value (grows : counters.Grow allowed grown) {series : Series} (other : ¬ allowed series) :
    grown.value series = counters.value series := by
  induction grows with
  | refl => rfl
  | @add grown _ counted isAllowed amount ih =>
      have differ : series ≠ counted := by
        rintro rfl
        exact other isAllowed
      rw [value_add, if_neg differ, ih, Nat.add_zero]

end Grow

end Counters

/-- The later system has counted more, and some series only. -/
def System.Tallies (allowed : Series → Prop) (before after : System) : Prop :=
  before.counters.Grow allowed after.counters

namespace System.Tallies

variable {allowed : Series → Prop} {before middle after : System}

theorem refl (system : System) : system.Tallies allowed system :=
  Counters.Grow.refl

theorem trans (first : before.Tallies allowed middle) (second : middle.Tallies allowed after) :
    before.Tallies allowed after :=
  Counters.Grow.trans first second

theorem of_counters (same : after.counters = before.counters) : before.Tallies allowed after := by
  unfold Tallies
  rw [same]
  exact .refl

end System.Tallies

namespace Action

variable {α β : Type} {allowed : Series → Prop} {script : Script α} {series : Series}

theorem count_tallies (isAllowed : allowed series) (amount : Nat) :
    Advances (System.Tallies allowed) (count series amount) :=
  fun _ => .add .refl isAllowed amount

theorem runStatement_counters (statement : Statement) (system : System) :
    (after (runStatement statement) system).counters = system.counters := by
  have reached := reach_counters (.run statement.query.name statement.parameters) .statement
    (some statement.query.name) (some .statement) system
  simp only [after, runStatement] at reached ⊢
  generalize reach _ _ _ _ system = result at reached ⊢
  cases result with
  | error failure called => exact reached
  | ok answered called =>
    cases answered with
    | false => exact reached
    | true =>
      simp only at reached ⊢
      cases statement.perform called.database.store <;> exact reached

theorem runScript_tallies (counts : script.Counts allowed) :
    Advances (System.Tallies allowed) (runScript script) := by
  induction script with
  | done value => exact advances_pure .refl value
  | fail failure => exact advances_throw .refl failure
  | run statement next ih =>
      have first : Advances (System.Tallies allowed) (runStatement statement) :=
        fun system => .of_counters (runStatement_counters statement system)
      rw [runScript_run]
      exact first.bind .trans fun rows => ih rows (counts rows)
  | tell note next ih =>
      intro system
      cases note with
      | count counted amount =>
          exact (count_tallies counts.1 amount system).trans (ih counts.2 _)
      | log record =>
          have logged : system.Tallies allowed (system.log record) := .of_counters rfl
          exact logged.trans (ih counts _)

theorem openTransaction_tallies (allowed : Series → Prop) :
    Advances (System.Tallies allowed) openTransaction := fun system =>
  .of_counters (reach_counters .begin .opening none (some .opening)
    (system.record (.session system.database.name)))

theorem commitTransaction_tallies (allowed : Series → Prop) :
    Advances (System.Tallies allowed) commitTransaction := fun system =>
  .of_counters (reach_counters .commit .commit none (some .commit) system)

/-- A transaction counts what its script counts and nothing else. -/
theorem transaction_tallies (counts : script.Counts allowed) :
    Advances (System.Tallies allowed) (transaction script) :=
  transaction_advances .trans (openTransaction_tallies allowed) (runScript_tallies counts)
    (commitTransaction_tallies allowed) fun _ _ => .of_counters rfl

theorem bind_run (action : Action α) (next : α → Action β) (system : System) :
    (action >>= next) system =
      match action system with
      | .ok value middle => next value middle
      | .error failure middle => .error failure middle := by
  simp only [bind, EStateM.bind]
  cases action system <;> rfl

theorem after_bind (action : Action α) (next : α → Action β) (system : System) :
    after (action >>= next) system =
      match action system with
      | .ok value middle => after (next value) middle
      | .error _ middle => middle := by
  simp only [after, bind_run]
  cases action system <;> rfl

theorem runScript_bind (script : Script α) (next : α → Script β) :
    runScript (script >>= next) = runScript script >>= fun value => runScript (next value) := by
  change runScript (script.bind next) = _
  induction script with
  | done value | fail failure => rfl
  | run statement rest ih =>
      rw [Script.bind, runScript_run, runScript_run, bind_assoc]
      exact congrArg (runStatement statement >>= ·) (funext ih)
  | tell note rest ih => exact funext fun system => congrFun ih (system.note note)

/-- A transaction up to its end. -/
def attempt (script : Script α) : Action α := do
  let _ ← openTransaction
  runScript script

/-- The end of a transaction counts nothing, and its value is that of its script. -/
theorem transaction_attempt (script : Script α) (system : System) :
    (after (transaction script) system).counters = (after (attempt script) system).counters ∧
      ∀ value last, transaction script system = .ok value last →
        ∃ middle, attempt script system = .ok value middle := by
  simp only [after, transaction_eq, attempt, bind_run]
  cases openTransaction system with
  | error failure opened => exact ⟨rfl, fun value last ran => by cases ran⟩
  | ok answered opened =>
      simp only
      cases runScript script opened with
      | error failure middle => exact ⟨rfl, fun value last ran => by cases ran⟩
      | ok value middle =>
          have commits := reach_counters .commit .commit none (some .commit) middle
          change (after commitTransaction middle).counters = middle.counters at commits
          simp only
          cases committed : commitTransaction middle with
          | error failure last =>
              rw [after_error committed] at commits
              exact ⟨commits, fun value last ran => by cases ran⟩
          | ok answered last =>
              rw [after_ok committed] at commits
              exact ⟨commits, fun other last ran => by cases ran; exact ⟨middle, rfl⟩⟩

end Action

end ClusterGraph
