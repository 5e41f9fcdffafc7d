import Authorization.Json.Shape

/-! Row-level constraints: rules that filter the instances of one entity. Their clauses are opaque
texts. -/

set_option autoImplicit false

namespace Authorization

inductive ConstraintOperation where
  | create
  | read
  | update
  | delete
  | custom
  | all
  deriving DecidableEq, Repr

namespace ConstraintOperation

def vocabulary : Vocabulary ConstraintOperation where
  all := [create, read, update, delete, custom, all]
  name
    | create => "create"
    | read => "read"
    | update => "update"
    | delete => "delete"
    | custom => "custom"
    | all => "all"

theorem ofName?_name (operation : ConstraintOperation) :
    vocabulary.ofName? (vocabulary.name operation) = some operation := by
  cases operation <;> decide +kernel

def standard : ConstraintOperation := read

def covers (operation wanted : ConstraintOperation) : Bool := operation = wanted || operation = all

end ConstraintOperation

inductive CheckType where
  | database
  | memory
  | databaseAndMemory
  deriving DecidableEq, Repr

namespace CheckType

def vocabulary : Vocabulary CheckType where
  all := [database, memory, databaseAndMemory]
  name
    | database => "database"
    | memory => "memory"
    | databaseAndMemory => "database_and_memory"

theorem ofName?_name (checkType : CheckType) :
    vocabulary.ofName? (vocabulary.name checkType) = some checkType := by
  cases checkType <;> decide +kernel

def standard : CheckType := database

def inDatabase : CheckType → Bool
  | database | databaseAndMemory => true
  | memory => false

def inMemory : CheckType → Bool
  | memory | databaseAndMemory => true
  | database => false

end CheckType

structure Constraint where
  id : ConstraintId
  entityName : String
  code : Option String
  operation : ConstraintOperation
  checkType : CheckType
  joinClause : Option String
  whereClause : Option String
  script : Option String
  deriving DecidableEq, Repr

inductive ConstraintFault where
  | missingEntityName (id : ConstraintId)
  deriving DecidableEq, Repr

def ConstraintFault.message : ConstraintFault → String
  | missingEntityName id => "constraint " ++ id.display ++ " has no entity name"

namespace Constraint

def ofId (id : ConstraintId) (entityName : String) : Constraint :=
  ⟨id, entityName, none, .standard, .standard, none, none, none⟩

def isBound (constraint : Constraint) : Bool := !Text.isBlank constraint.entityName

def validate (constraint : Constraint) : Except ConstraintFault Unit :=
  if constraint.isBound then .ok () else .error (.missingEntityName constraint.id)

end Constraint

inductive ConstraintFilter where
  | always
  | never
  | inDatabase
  | inMemory
  | operation (wanted : ConstraintOperation)
  | code (wanted : Option String)
  | hasWhere
  | hasJoin
  | hasScript
  deriving DecidableEq, Repr

def ConstraintFilter.accepts (filter : ConstraintFilter) (constraint : Constraint) : Bool :=
  match filter with
  | always => true
  | never => false
  | inDatabase => constraint.checkType.inDatabase
  | inMemory => constraint.checkType.inMemory
  | operation wanted => constraint.operation.covers wanted
  | code wanted => constraint.code = wanted
  | hasWhere => constraint.whereClause.isSome
  | hasJoin => constraint.joinClause.isSome
  | hasScript => constraint.script.isSome

end Authorization
