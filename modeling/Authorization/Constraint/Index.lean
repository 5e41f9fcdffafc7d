import Authorization.Constraint.Basic

/-! The index of constraints: for each entity its constraints in insertion order. -/

set_option autoImplicit false

namespace Authorization

structure ConstraintIndex where
  lists : Std.ExtTreeMap String (List Constraint)
  deriving DecidableEq

namespace ConstraintIndex

def empty : ConstraintIndex := ⟨∅⟩

def list (index : ConstraintIndex) (entity : String) : List Constraint := index.lists[entity]?.getD []

def hasAnyFor (index : ConstraintIndex) (entity : String) : Bool := !(index.list entity).isEmpty

def hasAny (index : ConstraintIndex) : Bool := index.lists.toList.any fun (_, list) => !list.isEmpty

def listMatching (index : ConstraintIndex) (entity : String) (accepts : Constraint → Bool) :
    List Constraint :=
  (index.list entity).filter accepts

/-- The constraints of an entity that a predicate with effects accepts. The list is that before
any of the effects, which may change the index itself. -/
def listMatchingM {m : Type → Type} [Monad m] (index : ConstraintIndex) (entity : String)
    (accepts : Constraint → m Bool) : m (List Constraint) :=
  (index.list entity).filterM accepts

def append (index : ConstraintIndex) (constraint : Constraint) : ConstraintIndex :=
  ⟨index.lists.insert constraint.entityName (index.list constraint.entityName ++ [constraint])⟩

def add (index : ConstraintIndex) (constraint : Constraint) :
    Except ConstraintFault ConstraintIndex := do
  constraint.validate
  return index.append constraint

def remove (index : ConstraintIndex) (entity : String) (id : ConstraintId) : ConstraintIndex :=
  match (index.list entity).filter (·.id ≠ id) with
  | [] => ⟨index.lists.erase entity⟩
  | kept => ⟨index.lists.insert entity kept⟩

def countOf (index : ConstraintIndex) (entity : String) (id : ConstraintId) : Nat :=
  (index.list entity).countP (·.id = id)

/-- All constraints: entities in order, and those of one entity in insertion order. -/
def snapshot (index : ConstraintIndex) : List Constraint := index.lists.toList.flatMap (·.2)

/-- Files constraints in turn behind those of their entities; the first that names no entity is
refused. -/
def fileAll (lists : Std.ExtTreeMap String (List Constraint)) :
    List Constraint → Except ConstraintFault (Std.ExtTreeMap String (List Constraint))
  | [] => return lists
  | constraint :: rest => do
    constraint.validate
    fileAll (lists.alter constraint.entityName fun filed => some (filed.getD [] ++ [constraint]))
      rest

def ofSnapshot (constraints : List Constraint) : Except ConstraintFault ConstraintIndex := do
  return ⟨← fileAll ∅ constraints⟩

theorem alter_lists (index : ConstraintIndex) (constraint : Constraint) :
    (index.lists.alter constraint.entityName fun filed => some (filed.getD [] ++ [constraint])) =
      (index.append constraint).lists := by
  refine Std.ExtTreeMap.ext_getElem? fun entity => ?_
  simp only [append, list, Std.ExtTreeMap.getElem?_alter, Std.ExtTreeMap.getElem?_insert]

theorem map_mk_fileAll (index : ConstraintIndex) (constraints : List Constraint) :
    (fileAll index.lists constraints).map mk = constraints.foldlM add index := by
  induction constraints generalizing index with
  | nil => rfl
  | cons first rest ih =>
    rw [fileAll, alter_lists, List.foldlM_cons, add]
    cases first.validate with
    | error fault => rfl
    | ok => exact ih (index.append first)

/-- Loading a list comes to adding its constraints one by one. -/
theorem ofSnapshot_eq_foldlM (constraints : List Constraint) :
    ofSnapshot constraints = constraints.foldlM add empty :=
  map_mk_fileAll empty constraints

theorem list_append (index : ConstraintIndex) (constraint : Constraint) (entity : String) :
    (index.append constraint).list entity =
      if constraint.entityName = entity then index.list entity ++ [constraint]
      else index.list entity := by
  simp only [list, append, Std.ExtTreeMap.getElem?_insert, Std.LawfulEqCmp.compare_eq_iff_eq]
  split
  · rename_i same
    simp [same]
  · rfl

theorem list_remove (index : ConstraintIndex) (entity other : String) (id : ConstraintId) :
    (index.remove entity id).list other =
      if entity = other then (index.list other).filter (·.id ≠ id) else index.list other := by
  unfold remove
  split
  · rename_i none
    simp only [list, Std.ExtTreeMap.getElem?_erase, Std.LawfulEqCmp.compare_eq_iff_eq]
    split
    · rename_i same
      subst same
      exact none.symm
    · rfl
  · simp only [list, Std.ExtTreeMap.getElem?_insert, Std.LawfulEqCmp.compare_eq_iff_eq]
    split
    · rename_i same
      subst same
      rfl
    · rfl

end ConstraintIndex

/-! ## Changes

Changes to an index, one after the other, leave a log of insertions: a single list for all entities,
which grows at its end and from which removals strike. -/

inductive ConstraintChange where
  | add (constraint : Constraint)
  | remove (entity : String) (id : ConstraintId)
  deriving DecidableEq, Repr

inductive ConstraintReply where
  | added
  | refused (fault : ConstraintFault)
  | removed (count : Nat)
  deriving DecidableEq, Repr

namespace ConstraintIndex

def apply (index : ConstraintIndex) : ConstraintChange → ConstraintIndex
  | .add constraint =>
    match index.add constraint with
    | .ok grown => grown
    | .error _ => index
  | .remove entity id => index.remove entity id

def reply (index : ConstraintIndex) : ConstraintChange → ConstraintReply
  | .add constraint =>
    match index.add constraint with
    | .ok _ => .added
    | .error fault => .refused fault
  | .remove entity id => .removed (index.countOf entity id)

def run (index : ConstraintIndex) (changes : List ConstraintChange) : ConstraintIndex :=
  changes.foldl apply index

end ConstraintIndex

/-- The constraints taken in and not struck since, in the order of their insertion. -/
structure InsertionLog where
  constraints : List Constraint
  deriving DecidableEq

namespace InsertionLog

def empty : InsertionLog := ⟨[]⟩

def under (log : InsertionLog) (entity : String) : List Constraint :=
  log.constraints.filter fun constraint => constraint.entityName = entity

def strike (log : InsertionLog) (entity : String) (id : ConstraintId) : InsertionLog :=
  ⟨log.constraints.filter fun constraint => ¬ (constraint.entityName = entity ∧ constraint.id = id)⟩

def apply (log : InsertionLog) : ConstraintChange → InsertionLog
  | .add constraint =>
    if Text.isBlank constraint.entityName then log else ⟨log.constraints ++ [constraint]⟩
  | .remove entity id => log.strike entity id

def reply (log : InsertionLog) : ConstraintChange → ConstraintReply
  | .add constraint =>
    if Text.isBlank constraint.entityName then .refused (.missingEntityName constraint.id)
    else .added
  | .remove entity id =>
    .removed (log.constraints.length - (log.strike entity id).constraints.length)

def run (log : InsertionLog) (changes : List ConstraintChange) : InsertionLog :=
  changes.foldl apply log

end InsertionLog

end Authorization
