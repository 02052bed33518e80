import ClusterGraph.Store.Interpreter
import Std.Data.String.ToNat

namespace ClusterGraph.Store

/-! Ids are used up and never come back: whatever a statement does, the number of the next id does
not fall, and different numbers make different ids. -/

theorem nodeId_injective {left right : Nat} (same : nodeId left = nodeId right) : left = right :=
  Nat.repr_inj.mp ((String.append_right_inj _).mp same)

theorem labelId_injective {left right : Nat} (same : labelId left = labelId right) :
    left = right :=
  Nat.repr_inj.mp ((String.append_right_inj _).mp same)

theorem relationshipId_injective {left right : Nat}
    (same : relationshipId left = relationshipId right) : left = right :=
  Nat.repr_inj.mp ((String.append_right_inj _).mp same)

variable {α β : Type}

/-- The store that a change leaves, also where the change fails. -/
def after (change : Change α) (store : Store) : Store :=
  match change store with
  | .ok _ store | .error _ store => store

/-- A change never takes back an id. -/
def UsesIds (change : Change α) : Prop :=
  ∀ store, store.nextId ≤ (after change store).nextId

theorem usesIds_lift (result : Except ShapeError α) : UsesIds (liftM result : Change α) := by
  intro store
  cases result <;> exact Nat.le_refl _

theorem usesIds_pure (value : α) : UsesIds (pure value : Change α) :=
  fun _ => Nat.le_refl _

theorem usesIds_get : UsesIds (get : Change Store) :=
  fun _ => Nat.le_refl _

theorem usesIds_throw (shape : ShapeError) : UsesIds (throw shape : Change α) :=
  fun _ => Nat.le_refl _

theorem usesIds_onGraph (change : Graph → Graph) : UsesIds (modify (·.onGraph change)) :=
  fun _ => Nat.le_refl _

theorem usesIds_takeId (name : Nat → String) : UsesIds (modifyGet (·.takeId name)) :=
  fun _ => Nat.le_succ _

theorem usesIds_createLabel (label : LabelEntity) : UsesIds (modify (·.createLabel label)) :=
  fun _ => Nat.le_succ _

theorem usesIds_bind {change : Change α} {next : α → Change β} (first : UsesIds change)
    (second : ∀ value, UsesIds (next value)) : UsesIds (change >>= next) := by
  intro store
  have start := first store
  simp only [after, bind, EStateM.bind] at start ⊢
  cases result : change store with
  | ok value middle =>
      simp only [result] at start
      exact Nat.le_trans start (second value middle)
  | error shape middle =>
      simpa only [result] using start

end Store

theorem Statement.perform_usesIds (statement : Statement) : Store.UsesIds statement.perform := by
  unfold perform
  refine Store.usesIds_bind Store.usesIds_get fun store => ?_
  obtain ⟨query, parameters⟩ := statement
  cases query with
  | createNode =>
      exact Store.usesIds_bind (Store.usesIds_takeId _) fun id =>
        Store.usesIds_bind (Store.usesIds_lift _) fun properties =>
        Store.usesIds_bind (Store.usesIds_onGraph _) fun _ => Store.usesIds_pure _
  | mergeNode =>
      refine Store.usesIds_bind (Store.usesIds_lift _) fun found => ?_
      cases found with
      | none => exact Store.usesIds_throw _
      | some id =>
          exact Store.usesIds_bind (Store.usesIds_lift _) fun properties =>
            Store.usesIds_bind (Store.usesIds_onGraph _) fun _ => Store.usesIds_pure _
  | deleteLabel =>
      exact Store.usesIds_bind (Store.usesIds_lift _) fun owner =>
        Store.usesIds_bind (Store.usesIds_lift _) fun key =>
        Store.usesIds_bind (Store.usesIds_onGraph _) fun _ => Store.usesIds_pure _
  | addLabel =>
      refine Store.usesIds_bind (Store.usesIds_lift _) fun found => ?_
      cases found with
      | none => exact Store.usesIds_pure _
      | some owner =>
          exact Store.usesIds_bind (Store.usesIds_lift _) fun key =>
            Store.usesIds_bind (Store.usesIds_lift _) fun value =>
            Store.usesIds_bind (Store.usesIds_createLabel _) fun _ => Store.usesIds_pure _
  | deleteRelationships =>
      exact Store.usesIds_bind (Store.usesIds_lift _) fun source =>
        Store.usesIds_bind (Store.usesIds_onGraph _) fun _ => Store.usesIds_pure _
  | createRelationship =>
      refine Store.usesIds_bind (Store.usesIds_lift _) fun source => ?_
      cases source with
      | none => exact Store.usesIds_pure _
      | some source =>
          refine Store.usesIds_bind (Store.usesIds_lift _) fun target => ?_
          cases target with
          | none => exact Store.usesIds_pure _
          | some target =>
              exact Store.usesIds_bind (Store.usesIds_takeId _) fun id =>
                Store.usesIds_bind (Store.usesIds_lift _) fun properties =>
                Store.usesIds_bind (Store.usesIds_onGraph _) fun _ => Store.usesIds_pure _
  | findByUid | findByGraphId | findRelationships | resolveUid | resolveName | other =>
      exact Store.usesIds_lift _

end ClusterGraph
