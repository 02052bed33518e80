import ClusterGraph.System
import Mathlib.Data.List.Basic

namespace ClusterGraph

/-! Faults that raise. Faults lose their skips one by one and then go, but no fault ever comes up
with a kind or a message that was not planned from the start. -/

/-- What a fault does when it fires. -/
def Fault.cause (fault : Fault) : FaultKind × String :=
  (fault.kind, fault.message)

def Raising (faults : List Fault) : Prop :=
  ∀ fault ∈ faults, fault.kind ≠ .silence

/-- The failures in which faults come to light during a transaction: what the database says is told
as its refusal, and everything else as it is. -/
inductive Surfaces (faults : List Fault) : Failure → Prop where
  | refused {fault : Fault} (planned : fault ∈ faults)
      (ofDatabase : fault.kind = .driver ∨ fault.kind = .client) (stage : Stage) :
      Surfaces faults (.graph (.refused stage fault.message))
  | program {fault : Fault} (planned : fault ∈ faults) (isOther : fault.kind = .other) :
      Surfaces faults (.foreign .program fault.message)
  | system {fault : Fault} (planned : fault ∈ faults) (isSystem : fault.kind = .system) :
      Surfaces faults (.foreign .operatingSystem fault.message)

/-- Faults that are left of others. -/
def FaultsLeft (faults later : List Fault) : Prop :=
  later.map Fault.cause ⊆ faults.map Fault.cause

namespace FaultsLeft

variable {faults later : List Fault}

theorem eq_nil (left : FaultsLeft [] later) : later = [] :=
  List.map_eq_nil_iff.mp (List.subset_nil.mp left)

theorem exists_planned (left : FaultsLeft faults later) {fault : Fault} (member : fault ∈ later) :
    ∃ planned ∈ faults, planned.kind = fault.kind ∧ planned.message = fault.message := by
  obtain ⟨planned, plannedMember, same⟩ := List.mem_map.mp (left (List.mem_map_of_mem member))
  exact ⟨planned, plannedMember, congrArg Prod.fst same, congrArg Prod.snd same⟩

theorem raising (left : FaultsLeft faults later) (raising : Raising faults) : Raising later := by
  intro fault member
  obtain ⟨planned, plannedMember, sameKind, _⟩ := left.exists_planned member
  rw [← sameKind]
  exact raising planned plannedMember

theorem surfaces {failure : Failure} (left : FaultsLeft faults later)
    (surfaces : Surfaces later failure) : Surfaces faults failure := by
  cases surfaces with
  | refused member ofDatabase stage =>
      obtain ⟨planned, plannedMember, sameKind, sameMessage⟩ := left.exists_planned member
      rw [← sameMessage]
      exact .refused plannedMember (by rw [sameKind]; exact ofDatabase) stage
  | program member isOther =>
      obtain ⟨planned, plannedMember, sameKind, sameMessage⟩ := left.exists_planned member
      rw [← sameMessage]
      exact .program plannedMember (by rw [sameKind]; exact isOther)
  | system member isSystem =>
      obtain ⟨planned, plannedMember, sameKind, sameMessage⟩ := left.exists_planned member
      rw [← sameMessage]
      exact .system plannedMember (by rw [sameKind]; exact isSystem)

end FaultsLeft

theorem Fault.fire_left (site : Site) (query : Option String) (faults : List Fault) :
    FaultsLeft faults (fire site query faults).2 ∧
      ∀ fired, (fire site query faults).1 = some fired → FaultsLeft faults [fired] := by
  induction faults with
  | nil => simp [fire, FaultsLeft]
  | cons fault rest ih =>
      obtain ⟨restLeft, restFired⟩ := ih
      have restLeft : ∀ {found : Fault}, found.cause = fault.cause →
          FaultsLeft (fault :: rest) (found :: (fire site query rest).2) := by
        intro found same
        simp only [FaultsLeft, List.map_cons, same]
        exact List.cons_subset_cons _ restLeft
      have restFired : ∀ fired, (fire site query rest).1 = some fired →
          FaultsLeft (fault :: rest) [fired] := by
        intro fired isFired
        have among := restFired fired isFired
        simp only [FaultsLeft, List.map_cons] at among ⊢
        exact List.subset_cons_of_subset _ among
      unfold fire
      split
      · split
        · refine ⟨?_, ?_⟩
          · split <;> simp [FaultsLeft]
          · intro fired isFired
            cases isFired
            simp [FaultsLeft]
        · exact ⟨restLeft rfl, restFired⟩
      · exact ⟨restLeft rfl, restFired⟩

/-- A system that another one may become: faults only go, and ids are only used up. -/
structure System.Precedes (before after : System) : Prop where
  faults : FaultsLeft before.database.faults after.database.faults
  ids : before.database.store.nextId ≤ after.database.store.nextId

namespace System.Precedes

variable {before middle after : System}

theorem refl (system : System) : system.Precedes system :=
  ⟨fun _ member => member, Nat.le_refl _⟩

theorem trans (first : before.Precedes middle) (second : middle.Precedes after) :
    before.Precedes after :=
  ⟨fun _ member => first.faults (second.faults member), Nat.le_trans first.ids second.ids⟩

theorem of_database (same : after.database = before.database) : before.Precedes after := by
  constructor
  · rw [same]
    exact fun _ member => member
  · exact Nat.le_of_eq (congrArg (fun database => database.store.nextId) same.symm)

end System.Precedes

namespace Action

variable {α β : Type}

/-- The system that an action leaves, also where it fails. -/
def after (action : Action α) (system : System) : System :=
  match action system with
  | .ok _ system | .error _ system => system

theorem after_ok {action : Action α} {system next : System} {value : α}
    (ran : action system = .ok value next) : after action system = next := by
  simp only [after, ran]

theorem after_error {action : Action α} {system next : System} {failure : Failure}
    (ran : action system = .error failure next) : after action system = next := by
  simp only [after, ran]

/-- Every run of the action leads from a system to one that the relation allows after it. -/
def Advances (relation : System → System → Prop) (action : Action α) : Prop :=
  ∀ system, relation system (after action system)

section Advances

variable {relation : System → System → Prop}

theorem advances_pure (refl : ∀ system, relation system system) (value : α) :
    Advances relation (pure value) :=
  refl

theorem advances_throw (refl : ∀ system, relation system system) (failure : Failure) :
    Advances relation (throw failure : Action α) :=
  refl

theorem Advances.bind
    (trans : ∀ {before middle after}, relation before middle → relation middle after →
      relation before after)
    {action : Action α} {next : α → Action β} (first : Advances relation action)
    (second : ∀ value, Advances relation (next value)) : Advances relation (action >>= next) := by
  intro system
  have start := first system
  change relation system (after (EStateM.bind action next) system)
  simp only [after, EStateM.bind] at start ⊢
  cases ran : action system with
  | ok value middle =>
      simp only [ran] at start
      exact trans start (second value middle)
  | error failure middle => simpa only [ran] using start

end Advances

theorem after_reach (call : Call) (site : Site) (query : Option String) (stage : Option Stage)
    (system : System) :
    after (reach call site query stage) system = (system.call call site query).2 := by
  simp only [after, reach]
  obtain ⟨fired, called⟩ := system.call call site query
  cases fired with
  | none => rfl
  | some fault => cases failed : fault.failure? stage <;> simp only [failed]

theorem reach_store (call : Call) (site : Site) (query : Option String) (stage : Option Stage)
    (system : System) :
    (after (reach call site query stage) system).database.store = system.database.store := by
  rw [after_reach]
  rfl

theorem reach_counters (call : Call) (site : Site) (query : Option String) (stage : Option Stage)
    (system : System) :
    (after (reach call site query stage) system).counters = system.counters := by
  rw [after_reach]
  rfl

theorem reach_precedes (call : Call) (site : Site) (query : Option String) (stage : Option Stage) :
    Advances System.Precedes (reach call site query stage) := by
  intro system
  rw [after_reach]
  exact ⟨(Fault.fire_left site query system.database.faults).1, Nat.le_refl _⟩

/-- Where all faults raise, a call is answered or fails with what a fault says. -/
theorem reach_raising {system : System} (raising : Raising system.database.faults)
    (call : Call) (site : Site) (query : Option String) (stage : Stage) :
    reach call site query (some stage) system =
        .ok true (after (reach call site query (some stage)) system) ∨
      ∃ failure, Surfaces system.database.faults failure ∧
        reach call site query (some stage) system =
          .error failure (after (reach call site query (some stage)) system) := by
  rw [after_reach]
  simp only [reach]
  cases called : system.call call site query with
  | mk fired next =>
    cases fired with
    | none => exact .inl rfl
    | some fault =>
      have fires : (Fault.fire site query system.database.faults).1 = some fault :=
        congrArg Prod.fst called
      have planned := (Fault.fire_left site query system.database.faults).2 fault fires
      have raises := planned.raising raising fault (by simp)
      right
      cases kind : fault.kind with
      | driver =>
          exact ⟨_, planned.surfaces (.refused (by simp) (.inl kind) stage),
            by simp only [Fault.failure?, kind]⟩
      | client =>
          exact ⟨_, planned.surfaces (.refused (by simp) (.inr kind) stage),
            by simp only [Fault.failure?, kind]⟩
      | other =>
          exact ⟨_, planned.surfaces (.program (by simp) kind), by simp only [Fault.failure?, kind]⟩
      | system =>
          exact ⟨_, planned.surfaces (.system (by simp) kind), by simp only [Fault.failure?, kind]⟩
      | silence => exact absurd kind raises

end Action

end ClusterGraph
