import Authorization.Proofs.Canonical

/-! The index as a view of its log of insertions. Every question about the index is a question
about the log, and every change gets the reply that the log would give. -/

set_option autoImplicit false

namespace Authorization

namespace InsertionLog

theorem under_append (log : InsertionLog) (constraint : Constraint) (entity : String) :
    under ⟨log.constraints ++ [constraint]⟩ entity =
      if constraint.entityName = entity then log.under entity ++ [constraint]
      else log.under entity := by
  rw [under, under, List.filter_append]
  split <;> simp [*]

theorem under_strike (log : InsertionLog) (entity other : String) (id : ConstraintId) :
    (log.strike entity id).under other =
      if entity = other then (log.under other).filter (·.id ≠ id) else log.under other := by
  rw [under, strike, under, List.filter_filter]
  by_cases same : entity = other
  · subst same
    rw [if_pos rfl, List.filter_filter]
    exact List.filter_congr fun constraint _ => by
      by_cases here : constraint.entityName = entity <;> simp [here]
  · rw [if_neg same]
    exact List.filter_congr fun constraint _ => by
      by_cases here : constraint.entityName = other
      · simp [here, Ne.symm same]
      · simp [here]

theorem length_strike (log : InsertionLog) (entity : String) (id : ConstraintId) :
    log.constraints.length - (log.strike entity id).constraints.length =
      (log.under entity).countP (·.id = id) := by
  have struck : (log.under entity).countP (·.id = id) =
      log.constraints.countP fun constraint =>
        decide (constraint.entityName = entity ∧ constraint.id = id) := by
    rw [under, List.countP_filter]
    exact List.countP_congr fun constraint _ => by simp [and_comm]
  have parts := List.length_eq_countP_add_countP (fun constraint : Constraint =>
    decide (constraint.entityName = entity ∧ constraint.id = id)) (l := log.constraints)
  simp only [decide_eq_true_eq] at parts
  rw [struck, strike, ← List.countP_eq_length_filter]
  omega

end InsertionLog

namespace ConstraintIndex

/-- The index holds what the log holds, sorted into the lists of the entities. -/
structure Represents (index : ConstraintIndex) (log : InsertionLog) : Prop where
  formed : index.WellFormed
  lists : ∀ entity, index.list entity = log.under entity

namespace Represents

variable {index : ConstraintIndex} {log : InsertionLog}

theorem empty : Represents .empty .empty where
  formed := wellFormed_empty
  lists := list_empty

theorem apply (represents : index.Represents log) (change : ConstraintChange) :
    (index.apply change).Represents (log.apply change) := by
  obtain ⟨formed, lists⟩ := represents
  cases change with
  | add constraint =>
    rw [ConstraintIndex.apply, add_eq, InsertionLog.apply]
    cases blank : Text.isBlank constraint.entityName with
    | true =>
      have unbound : constraint.isBound = false := by rw [Constraint.isBound, blank]; rfl
      rw [unbound]
      exact ⟨formed, lists⟩
    | false =>
      have bound : constraint.isBound = true := by rw [Constraint.isBound, blank]; rfl
      rw [bound]
      refine ⟨formed.append bound, fun entity => ?_⟩
      rw [if_neg Bool.false_ne_true, InsertionLog.under_append, ← lists]
      exact list_append index constraint entity
  | remove entity id =>
    refine ⟨formed.remove entity id, fun other => ?_⟩
    rw [InsertionLog.apply, InsertionLog.under_strike, ← lists]
    exact list_remove index entity other id

theorem run (represents : index.Represents log) (changes : List ConstraintChange) :
    (index.run changes).Represents (log.run changes) := by
  induction changes generalizing index log with
  | nil => exact represents
  | cons first rest ih => exact ih (represents.apply first)

theorem reply (represents : index.Represents log) (change : ConstraintChange) :
    index.reply change = log.reply change := by
  cases change with
  | add constraint =>
    rw [ConstraintIndex.reply, add_eq, InsertionLog.reply, Constraint.isBound]
    cases Text.isBlank constraint.entityName <;> rfl
  | remove entity id =>
    rw [ConstraintIndex.reply, InsertionLog.reply, InsertionLog.length_strike, countOf,
      represents.lists]

theorem snapshot (represents : index.Represents log) :
    index.snapshot = Sorting.byBytes Constraint.entityName log.constraints :=
  represents.formed.snapshot_eq represents.lists

theorem hasAny_iff (represents : index.Represents log) :
    index.hasAny = true ↔ log.constraints ≠ [] := by
  have sorted := Sorting.byBytes_perm Constraint.entityName log.constraints
  rw [ConstraintIndex.hasAny_iff, represents.snapshot, ← List.length_pos_iff, sorted.length_eq,
    List.length_pos_iff]

end Represents

theorem reply_add_refused_iff (index : ConstraintIndex) (constraint : Constraint) :
    (∃ fault, index.reply (.add constraint) = .refused fault) ↔
      Text.isBlank constraint.entityName = true := by
  rw [reply, add_eq, Constraint.isBound]
  cases Text.isBlank constraint.entityName <;> simp

theorem apply_add_of_blank (index : ConstraintIndex) {constraint : Constraint}
    (blank : Text.isBlank constraint.entityName = true) : index.apply (.add constraint) = index := by
  rw [apply, add_eq, Constraint.isBound, blank]
  rfl

/-- After any changes to an empty index, its answers are those of the log of insertions, and so are
the replies to the next change. -/
theorem answers_of_log (changes : List ConstraintChange) :
    let index := empty.run changes
    let log := InsertionLog.empty.run changes
    (∀ entity, index.list entity =
      log.constraints.filter fun constraint => constraint.entityName = entity) ∧
    (∀ entity accepts, index.listMatching entity accepts =
      (log.constraints.filter fun constraint => constraint.entityName = entity).filter accepts) ∧
    (∀ {m : Type → Type} [Monad m] (entity : String) (accepts : Constraint → m Bool),
      index.listMatchingM entity accepts =
        (log.constraints.filter fun constraint =>
          constraint.entityName = entity).filterM accepts) ∧
    index.snapshot = Sorting.byBytes Constraint.entityName log.constraints ∧
    (∀ entity, index.hasAnyFor entity = true ↔
      (log.constraints.filter fun constraint => constraint.entityName = entity) ≠ []) ∧
    (index.hasAny = true ↔ log.constraints ≠ []) ∧
    (∀ change, index.reply change = log.reply change) ∧
    ∀ constraint, ((∃ fault, index.reply (.add constraint) = .refused fault) ↔
        Text.isBlank constraint.entityName = true) ∧
      (Text.isBlank constraint.entityName = true → index.apply (.add constraint) = index) := by
  intro index log
  have represents : index.Represents log := Represents.empty.run changes
  refine ⟨represents.lists, fun entity accepts => ?_, fun entity accepts => ?_,
    represents.snapshot, fun entity => ?_, represents.hasAny_iff, represents.reply,
    fun constraint => ⟨index.reply_add_refused_iff constraint, index.apply_add_of_blank⟩⟩
  · rw [listMatching, represents.lists]
    rfl
  · rw [listMatchingM, represents.lists]
    rfl
  · rw [hasAnyFor_iff, represents.lists]
    rfl

end ConstraintIndex

end Authorization
