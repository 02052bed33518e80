import ClusterGraph.Proofs.Store.CallKinds
import ClusterGraph.Store.Schema

namespace ClusterGraph

/-! A database without faults answers every call, so that the check of the connection passes and the
schema is applied to its end. -/

namespace Action

variable {α β : Type}

/-- Without faults the action comes to its end, and no fault comes up. -/
def Answers (action : Action α) : Prop :=
  ∀ system, system.database.faults = [] →
    ∃ value last, action system = .ok value last ∧ last.database.faults = []

theorem Answers.bind {action : Action α} {next : α → Action β} (first : Answers action)
    (second : ∀ value, Answers (next value)) : Answers (action >>= next) := by
  intro system calm
  obtain ⟨value, middle, ran, middleCalm⟩ := first system calm
  obtain ⟨result, last, nextRan, lastCalm⟩ := second value middle middleCalm
  refine ⟨result, last, ?_, lastCalm⟩
  simp only [Bind.bind, EStateM.bind, ran, nextRan]

theorem answers_pure (value : α) : Answers (pure value : Action α) :=
  fun system calm => ⟨value, system, rfl, calm⟩

theorem answers_log (severity : Severity) (component event : String) (fields : Entries Json) :
    Answers (log severity component event fields) :=
  fun _ calm => ⟨(), _, rfl, calm⟩

theorem answers_reach (call : Call) (site : Site) (query : Option String) (stage : Option Stage) :
    Answers (reach call site query stage) := by
  rintro ⟨⟨name, store, faults⟩, calls, counters, journal⟩ calm
  obtain rfl : faults = [] := calm
  exact ⟨true, _, rfl, rfl⟩

theorem Answers.forM {action : α → Action Unit} (each : ∀ value, Answers (action value))
    (values : List α) : Answers (values.forM action) := by
  induction values with
  | nil => exact answers_pure ()
  | cons value rest ih => exact (each value).bind fun _ => ih

theorem execute_answers (statement : Statement) : Answers (execute statement) := by
  have opens : Answers (modify fun system => system.record (.session system.database.name)) :=
    fun _ calm => ⟨(), _, rfl, calm⟩
  exact opens.bind fun _ => (answers_reach _ _ _ _).bind fun _ => answers_pure ()

theorem verify_answers : Answers verify :=
  (answers_reach _ _ _ _).bind fun _ => answers_pure ()

end Action

namespace Schema

open ClusterGraph.Action

theorem applyOne_answers (text : String) : Answers (applyOne text) := by
  intro system calm
  obtain ⟨_, middle, ran, middleCalm⟩ := execute_answers ⟨.ofText text, []⟩ system calm
  simp only [applyOne, ran]
  exact answers_log _ _ _ _ middle middleCalm

theorem apply_answers (statements : List String) : Answers (apply statements) :=
  (Answers.forM applyOne_answers statements).bind fun _ =>
    (answers_log _ _ _ _).bind fun _ => answers_pure _

variable {allowed : Call → Prop} (ofSession : ∀ name, allowed (.session name))
  (ofExecution : ∀ query parameters, allowed (.execute query parameters))

include ofSession ofExecution

theorem applyOne_makes (text : String) : Advances (System.Makes allowed) (applyOne text) := by
  intro system
  have executes : system.Makes allowed (after (execute ⟨.ofText text, []⟩) system) :=
    execute_makes ofSession (ofExecution _ _) system
  simp only [after, applyOne] at executes ⊢
  generalize execute ⟨.ofText text, []⟩ system = result at executes ⊢
  cases result with
  | ok _ middle => exact executes.trans (.of_same rfl rfl)
  | error failure middle =>
      cases failure with
      | graph failure => exact executes.trans (.of_same rfl rfl)
      | settings | positionTooLong | foreign | shape | dateOutOfRange | expired | stream
      | startup => exact executes

theorem apply_makes (statements : List String) :
    Advances (System.Makes allowed) (apply statements) := by
  have applies : Advances (System.Makes allowed) (statements.forM applyOne) :=
    .forM .refl .trans fun text _ => applyOne_makes ofSession ofExecution text
  exact applies.bind .trans fun _ =>
    (log_makes _ _ _ _).bind .trans fun _ => advances_pure .refl _

end Schema

end ClusterGraph
