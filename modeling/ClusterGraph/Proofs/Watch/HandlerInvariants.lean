import ClusterGraph.Proofs.Watch.Handling
import ClusterGraph.Watch.Stream

namespace ClusterGraph

/-! What a handler does to a system, the handling of events does too. The rest goes to the journal,
and is nothing to a relation that does not look there. -/

/-- A relation between systems that holds along runs and does not look at the journal. -/
structure System.Lax (relation : System → System → Prop) : Prop where
  trans : ∀ {before middle after : System}, relation before middle → relation middle after →
    relation before after
  refl : ∀ system, relation system system
  journal : ∀ {before after : System} (outer inner : Journal),
    relation { before with journal := inner } after →
      relation before { after with journal := outer }

variable {relation : System → System → Prop}

theorem System.Lax.of_sameWork (lax : System.Lax relation) {before after : System}
    (same : after.SameWork before) : relation before after := by
  obtain ⟨database, calls, counters, journal⟩ := before
  obtain ⟨others, otherCalls, otherCounters, later⟩ := after
  obtain ⟨rfl, rfl, rfl⟩ : others = database ∧ otherCalls = calls ∧ otherCounters = counters :=
    same
  exact lax.journal later journal (lax.refl _)

theorem System.Lax.withContext {α : Type} (lax : System.Lax relation) {action : Action α}
    (advances : Action.Advances relation action) (fields : Entries Json) :
    Action.Advances relation (Action.withContext fields action) := by
  intro system
  have ends := advances { system with
    journal := { system.journal with context := system.journal.context.insertAll fields } }
  simp only [Action.after, Action.withContext] at ends ⊢
  generalize action { system with
    journal := { system.journal with context := system.journal.context.insertAll fields } } =
      result at ends ⊢
  cases result <;> exact lax.journal _ _ ends

namespace Watch

variable (lax : System.Lax relation) (watch : Watch) {handler : Handler}

include lax

theorem conclude_advances (outcome : Option Failure) :
    Action.Advances relation (watch.conclude outcome) :=
  fun system => lax.of_sameWork (watch.after_conclude outcome system)

theorem showVersion_advances (event : WatchEvent) :
    Action.Advances relation (showVersion event) := by
  unfold showVersion
  split
  · exact Action.advances_throw lax.refl _
  · exact Action.advances_pure lax.refl ()

theorem concludeEvent_advances (event : WatchEvent) (outcome : Option Failure) :
    Action.Advances relation (watch.concludeEvent event outcome) :=
  (lax.withContext (watch.conclude_advances lax outcome) _).bind @lax.trans
    fun _ => showVersion_advances lax event

theorem settle_advances (failure : Option Failure) (state : WatchState) (system : System) :
    relation system (watch.settle failure state system).2 := by
  cases failure with
  | none => exact lax.refl system
  | some failure =>
      simp only [settle]
      split <;> exact lax.of_sameWork ⟨rfl, rfl, rfl⟩

variable (handles : ∀ tree, Action.Advances relation (handler tree))

include handles

theorem attempt_advances (event : WatchEvent) :
    Action.Advances relation (watch.attempt handler event) := by
  intro system
  cases time : watch.hasTime with
  | true =>
      have handled := handles (watch.objectOf event) system
      rw [attempt_inTime time]
      simp only [Action.after] at handled ⊢
      generalize handler (watch.objectOf event) system = result at handled ⊢
      cases result <;> exact handled
  | false =>
      obtain ⟨failure, attempted⟩ := attempt_late time event
      rw [attempted]
      exact lax.refl system

theorem handle_advances (event : WatchEvent) :
    Action.Advances relation (watch.handle handler event) := by
  have delivers : Action.Advances relation (watch.deliver handler event) :=
    (watch.attempt_advances lax handles event).bind @lax.trans (watch.conclude_advances lax)
  unfold handle
  split
  · exact Action.advances_throw lax.refl _
  · split
    · exact fun system => lax.of_sameWork ⟨rfl, rfl, rfl⟩
    · split
      · exact lax.withContext delivers _
      · exact Action.advances_pure lax.refl ()

theorem take_advances (event : WatchEvent) :
    Action.Advances relation (watch.take handler event) :=
  (watch.handle_advances lax handles event).bind @lax.trans fun _ => showVersion_advances lax event

theorem receive_advances (event : WatchEvent) (state : WatchState) (system : System) :
    relation system (watch.receive handler event state system).2.2 := by
  have taken := watch.take_advances lax handles event system
  simp only [Action.after] at taken
  simp only [receive]
  generalize watch.take handler event system = result at taken ⊢
  cases result <;> exact taken

theorem follow_advances (ending : Option Failure) (events : List WatchEvent) (state : WatchState)
    (system : System) : relation system (watch.follow handler ending events state system).2.2 := by
  induction events generalizing state system with
  | nil => exact lax.refl system
  | cons event rest ih =>
      have received := watch.receive_advances lax handles event state system
      simp only [follow]
      generalize watch.receive handler event state system = result at received ⊢
      obtain ⟨failure, state, next⟩ := result
      cases failure with
      | none => exact lax.trans received (ih state next)
      | some failure => exact received

end Watch

end ClusterGraph
