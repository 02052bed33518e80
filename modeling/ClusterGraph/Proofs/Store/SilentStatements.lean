import ClusterGraph.Proofs.Store.Endurance

namespace ClusterGraph

/-! What a transaction ensures where it ends well, under faults of every kind. A statement may be
left undone in silence, but only if a silent fault is meant for its query. -/

/-- A silent fault is meant for the statements of a query. -/
def Mutes (faults : List Fault) (query : String) : Prop :=
  ∃ fault ∈ faults, fault.kind = .silence ∧ fault.concerns .statement (some query) = true

instance (faults : List Fault) (query : String) : Decidable (Mutes faults query) :=
  inferInstanceAs (Decidable (∃ fault ∈ faults, _))

namespace Fault

variable {site : Site} {query : Option String}

/-- A fault that fires was planned, and meant for the call. -/
theorem fire_some {faults : List Fault} {fired : Fault}
    (fires : (fire site query faults).1 = some fired) :
    fired ∈ faults ∧ fired.concerns site query = true := by
  induction faults with
  | nil => simp [fire] at fires
  | cons fault rest ih =>
      unfold fire at fires
      split at fires
      · rename_i concerned
        split at fires
        · cases fires
          exact ⟨List.mem_cons_self, concerned⟩
        · exact (ih fires).imp_left (List.mem_cons_of_mem _)
      · exact (ih fires).imp_left (List.mem_cons_of_mem _)

/-- Faults that are left are meant for no other calls than before. -/
theorem mutes_of_fire {faults : List Fault} {name : String}
    (mutes : Mutes (fire site query faults).2 name) : Mutes faults name := by
  induction faults with
  | nil => exact mutes
  | cons fault rest ih =>
      have later (mutes : Mutes (fire site query rest).2 name) : Mutes (fault :: rest) name := by
        obtain ⟨other, member, meant⟩ := ih mutes
        exact ⟨other, List.mem_cons_of_mem _ member, meant⟩
      obtain ⟨other, member, silent, meant⟩ := mutes
      unfold fire at member
      split at member
      · split at member
        · split at member
          · exact ⟨other, member, silent, meant⟩
          · exact ⟨other, List.mem_cons_of_mem _ member, silent, meant⟩
        · rcases List.mem_cons.mp member with rfl | inRest
          · exact ⟨fault, List.mem_cons_self, silent, meant⟩
          · exact later ⟨other, inRest, silent, meant⟩
      · rcases List.mem_cons.mp member with rfl | inRest
        · exact ⟨other, List.mem_cons_self, silent, meant⟩
        · exact later ⟨other, inRest, silent, meant⟩

end Fault

variable {α β : Type}

namespace Script

/-- Where the script comes to its end, its value fits the store, also if statements of the queries
that may be mute are left undone. -/
def Ensures (mute : String → Prop) (fits : α → Store → Prop) : Script α → Store → Prop
  | .done value, store => fits value store
  | .fail _, _ => True
  | .run statement next, store =>
      (mute statement.query.name → (next []).Ensures mute fits store) ∧
        ∀ rows after, statement.perform store = .ok rows after →
          (next rows).Ensures mute fits after
  | .tell _ next, store => next.Ensures mute fits store

variable {mute : String → Prop} {fits : α → Store → Prop} {store : Store}

theorem Ensures.bind {script : Script α} {next : α → Script β} {goal : β → Store → Prop}
    (first : script.Ensures mute fits store)
    (second : ∀ value store, fits value store → (next value).Ensures mute goal store) :
    (script >>= next).Ensures mute goal store := by
  change (script.bind next).Ensures mute goal store
  induction script generalizing store with
  | done value => exact second value store first
  | fail failure => trivial
  | run statement rest ih =>
      exact ⟨fun silent => ih [] (first.1 silent),
        fun rows after performed => ih rows (first.2 rows after performed)⟩
  | tell note rest ih => exact ih first

theorem Ensures.mono {script : Script α} {goal : α → Store → Prop}
    (ensures : script.Ensures mute fits store)
    (weaker : ∀ value store, fits value store → goal value store) :
    script.Ensures mute goal store := by
  induction script generalizing store with
  | done value => exact weaker value store ensures
  | fail failure => trivial
  | run statement rest ih =>
      exact ⟨fun silent => ih [] (ensures.1 silent),
        fun rows after performed => ih rows (ensures.2 rows after performed)⟩
  | tell note rest ih => exact ih ensures

theorem ensures_nothing (mute : String → Prop) (script : Script α) (store : Store) :
    script.Ensures mute (fun _ _ => True) store := by
  induction script generalizing store with
  | done | fail => trivial
  | run statement next ih =>
      exact ⟨fun _ => ih [] store, fun rows after _ => ih rows after⟩
  | tell note next ih => exact ih store

end Script

namespace Action

variable {mute : String → Prop} {fits : α → Store → Prop} {script : Script α}
  {system last : System} {value : α}

theorem reach_mutes (call : Call) (site : Site) (query : Option String) (stage : Option Stage)
    (system : System) (name : String) :
    Mutes (after (reach call site query stage) system).database.faults name →
      Mutes system.database.faults name := by
  rw [after_reach]
  exact Fault.mutes_of_fire

/-- Only a silent fault leaves a call without an answer. -/
theorem reach_unanswered {call : Call} {site : Site} {query : Option String} {stage : Stage}
    (reached : reach call site query (some stage) system = .ok false last) :
    ∃ fault ∈ system.database.faults,
      fault.kind = .silence ∧ fault.concerns site query = true := by
  simp only [reach] at reached
  cases called : system.call call site query with
  | mk fired next =>
      rw [called] at reached
      cases fired with
      | none => cases reached
      | some fault =>
          obtain ⟨member, concerned⟩ := Fault.fire_some (congrArg Prod.fst called)
          have silent : fault.kind = .silence := by
            cases kind : fault.kind <;> simp_all [Fault.failure?]
          exact ⟨fault, member, silent, concerned⟩

/-- A statement that passes is done, or nothing is done as a silent fault is meant for it. -/
theorem runStatement_passed {statement : Statement} {rows : List Json}
    (ran : runStatement statement system = .ok rows last) :
    (statement.perform system.database.store = .ok rows last.database.store ∨
      rows = [] ∧ last.database.store = system.database.store ∧
        Mutes system.database.faults statement.query.name) ∧
      ∀ name, Mutes last.database.faults name → Mutes system.database.faults name := by
  have stored := reach_store statement.call .statement (some statement.query.name)
    (some .statement) system
  have mutes := reach_mutes statement.call .statement (some statement.query.name)
    (some .statement) system
  simp only [runStatement] at ran
  cases reached : reach statement.call .statement (some statement.query.name) (some .statement)
      system with
  | error failure called =>
      rw [Statement.call] at reached
      rw [reached] at ran
      cases ran
  | ok answered called =>
      rw [after_ok reached] at stored mutes
      rw [Statement.call] at reached
      rw [reached] at ran
      cases answered with
      | false =>
          cases ran
          exact ⟨.inr ⟨rfl, stored, reach_unanswered reached⟩, mutes⟩
      | true =>
          simp only [stored] at ran
          cases performed : statement.perform system.database.store with
          | error shape store =>
              rw [performed] at ran
              cases ran
          | ok found store =>
              rw [performed] at ran
              cases ran
              exact ⟨.inl rfl, mutes⟩

theorem runScript_ensures (ensures : script.Ensures mute fits system.database.store)
    (muted : ∀ name, Mutes system.database.faults name → mute name)
    (ran : runScript script system = .ok value last) : fits value last.database.store := by
  induction script generalizing system with
  | done result =>
      cases ran
      exact ensures
  | fail failure => cases ran
  | run statement next ih =>
      simp only [runScript] at ran
      cases first : runStatement statement system with
      | error failure middle =>
          rw [first] at ran
          cases ran
      | ok rows middle =>
          rw [first] at ran
          obtain ⟨passed, left⟩ := runStatement_passed first
          refine ih rows ?_ (fun name mutes => muted name (left name mutes)) ran
          rcases passed with performed | ⟨rfl, same, mutes⟩
          · exact ensures.2 rows _ performed
          · rw [same]
            exact ensures.1 (muted _ mutes)
  | tell note next ih =>
      have same := system.note_database note
      refine ih ?_ ?_ ran
      · rw [same]
        exact ensures
      · rw [same]
        exact muted

/-- What a script ensures holds of the store that its transaction commits. -/
theorem transaction_ensures
    (ensures : script.Ensures (Mutes system.database.faults) fits system.database.store)
    (ran : transaction script system = .ok value last) : fits value last.database.store := by
  have opened := openTransaction_store system
  have left : ∀ name, Mutes (after openTransaction system).database.faults name →
      Mutes system.database.faults name :=
    reach_mutes .begin .opening none (some .opening)
      (system.record (.session system.database.name))
  obtain ⟨_, _, bracket⟩ := transaction_runs script system
  rw [ran] at bracket
  cases bracket with
  | committed _ completed _ _ kept =>
      rw [kept]
      rw [← opened] at ensures
      exact runScript_ensures ensures left completed

end Action

end ClusterGraph
