import Authorization.Json.Shape

/-! What permissions are about: kinds of protected resources, and targets under each kind. -/

set_option autoImplicit false

namespace Authorization

/-! ## Kinds

Each kind of protected resources has its own targets: the same target under two kinds names two
unrelated permissions. -/

inductive PermissionKind where
  | screen
  | entityOperation
  | entityAttribute
  | specific
  | ui
  deriving DecidableEq, Repr

namespace PermissionKind

def all : List PermissionKind := [screen, entityOperation, entityAttribute, specific, ui]

def name : PermissionKind → String
  | screen => "screen"
  | entityOperation => "entity_operation"
  | entityAttribute => "entity_attribute"
  | specific => "specific"
  | ui => "ui"

def vocabulary : Vocabulary PermissionKind := ⟨all, name⟩

theorem mem_all (kind : PermissionKind) : kind ∈ all := by cases kind <;> decide

theorem ofName?_name (kind : PermissionKind) : vocabulary.ofName? kind.name = some kind := by
  cases kind <;> decide +kernel

end PermissionKind

structure PerKind (α : Type) where
  screen : α
  entityOperation : α
  entityAttribute : α
  specific : α
  ui : α
  deriving DecidableEq

namespace PerKind

variable {α β : Type}

def get (values : PerKind α) : PermissionKind → α
  | .screen => values.screen
  | .entityOperation => values.entityOperation
  | .entityAttribute => values.entityAttribute
  | .specific => values.specific
  | .ui => values.ui

def ofFunction (f : PermissionKind → α) : PerKind α :=
  ⟨f .screen, f .entityOperation, f .entityAttribute, f .specific, f .ui⟩

def set (values : PerKind α) (kind : PermissionKind) (value : α) : PerKind α :=
  match kind with
  | .screen => { values with screen := value }
  | .entityOperation => { values with entityOperation := value }
  | .entityAttribute => { values with entityAttribute := value }
  | .specific => { values with specific := value }
  | .ui => { values with ui := value }

def map (f : α → β) (values : PerKind α) : PerKind β := ofFunction fun kind => f (values.get kind)

def toList (values : PerKind α) : List (PermissionKind × α) :=
  PermissionKind.all.map fun kind => (kind, values.get kind)

@[simp] theorem get_ofFunction (f : PermissionKind → α) (kind : PermissionKind) :
    (ofFunction f).get kind = f kind := by
  cases kind <;> rfl

@[simp] theorem get_map (f : α → β) (values : PerKind α) (kind : PermissionKind) :
    (values.map f).get kind = f (values.get kind) := get_ofFunction ..

theorem get_set (values : PerKind α) (kind other : PermissionKind) (value : α) :
    (values.set kind value).get other = if other = kind then value else values.get other := by
  cases kind <;> cases other <;> rfl

theorem ext_get {first second : PerKind α} (same : ∀ kind, first.get kind = second.get kind) :
    first = second := by
  cases first
  cases second
  simp only [mk.injEq]
  exact ⟨same .screen, same .entityOperation, same .entityAttribute, same .specific, same .ui⟩

end PerKind

/-! ## Targets

A target of two parts is written with a colon between them; the parts may hold colons themselves. -/

inductive EntityOp where
  | create
  | read
  | update
  | delete
  deriving DecidableEq, Repr

namespace EntityOp

def all : List EntityOp := [create, read, update, delete]

def name : EntityOp → String
  | create => "create"
  | read => "read"
  | update => "update"
  | delete => "delete"

def vocabulary : Vocabulary EntityOp := ⟨all, name⟩

theorem ofName?_name (op : EntityOp) : vocabulary.ofName? op.name = some op := by
  cases op <;> decide +kernel

end EntityOp

namespace Target

def delimiter : Char := ':'

def compose (scope name : String) : String := scope.push delimiter ++ name

def ofOp (entity : String) (op : EntityOp) : String := compose entity op.name

def ofAttribute (entity name : String) : String := compose entity name

def lastPart? (chars : List Char) : Option (List Char) :=
  if delimiter ∈ chars then some (chars.reverse.takeWhile (· ≠ delimiter)).reverse else none

def isRead (target : String) : Bool := lastPart? target.toList == some EntityOp.read.name.toList

theorem toList_compose (scope name : String) :
    (compose scope name).toList = scope.toList ++ delimiter :: name.toList := by
  simp [compose]

theorem lastPart?_append (scope name : List Char) (plain : delimiter ∉ name) :
    lastPart? (scope ++ delimiter :: name) = some name := by
  have kept : ∀ c ∈ name.reverse, decide (c ≠ delimiter) = true := by
    intro c member
    simp only [ne_eq, decide_eq_true_eq]
    rintro rfl
    exact plain (List.mem_reverse.mp member)
  simp only [lastPart?, List.mem_append, List.mem_cons, true_or, or_true, if_true,
    List.reverse_append, List.reverse_cons, List.append_assoc]
  rw [List.takeWhile_append_of_pos kept]
  simp

example : isRead "order:line:read" = true := by decide +kernel

example : isRead "read" = false := by decide +kernel

end Target

end Authorization
