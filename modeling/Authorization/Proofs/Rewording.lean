import Mathlib.Data.List.Forall2
import Authorization.Proofs.Reordering

/-! Rewordings of what was written. In a record, members that hold their default may be left out, and
members that no field is named for may be added. -/

set_option autoImplicit false

namespace Authorization

/-- Which documents may stand for a written one. It may always stay as it is. -/
structure Rewording where
  Rewords : Json → Json → Prop
  same : ∀ document, Rewords document document

structure Leeway where
  name : String
  /-- The member may be left out when it holds this document. -/
  default : Option Json
  value : Rewording

inductive Leeway.Allows (leeway : Leeway) : Option Json → Option Json → Prop
  | unwritten : leeway.Allows none none
  | kept {written document : Json} : leeway.value.Rewords written document →
      leeway.Allows (some written) (some document)
  | omitted {written : Json} : leeway.default = some written → leeway.Allows (some written) none

namespace Rewording

def exact : Rewording := ⟨Eq, fun _ => rfl⟩

def list (element : Rewording) : Rewording where
  Rewords written document := written = document ∨
    ∃ before after, written = .list before ∧ document = .list after ∧
      List.Forall₂ element.Rewords before after
  same _ := .inl rfl

/-- The leeways are for the fields of the record; under any other name anything may stand. -/
def record (leeways : List Leeway) : Rewording where
  Rewords written document := written = document ∨
    ∃ members row : Row, written = .object members ∧ document = .object row ∧
      (row.map Prod.fst).Nodup ∧
      ∀ leeway ∈ leeways, leeway.Allows (members.lookup leeway.name) (row.lookup leeway.name)
  same _ := .inl rfl

end Rewording

namespace Leeway

def fixed (name : String) : Leeway := ⟨name, none, .exact⟩

variable {α : Type} {leeway : Leeway} {row : Row} {before : Option Json} {written : Json}
  {shape : Shape} {read : Json → Except DecodeError α} {value : α}

theorem allows_same (leeway : Leeway) (held : Option Json) : leeway.Allows held held := by
  cases held with
  | none => exact .unwritten
  | some document => exact .kept (leeway.value.same document)

namespace Allows

theorem eq_of_fixed {name : String} {after : Option Json} (allows : (fixed name).Allows before after) :
    after = before := by
  cases allows with
  | unwritten => rfl
  | kept same => exact congrArg some (Eq.symm same)
  | omitted droppable => cases droppable

theorem yields (allows : leeway.Allows before (row.lookup leeway.name)) (held : before = some written)
    (reads : ∀ document, leeway.value.Rewords written document → document.ReadsAs shape read value)
    {plain : Json} {default : α} (droppable : leeway.default = some plain)
    (base : plain.ReadsAs shape read default) :
    row.Yields leeway.name shape read default value := by
  subst held
  generalize found : row.lookup leeway.name = after at allows
  cases allows with
  | kept rewords => exact .inl ⟨_, found, reads _ rewords⟩
  | omitted same =>
    -- What was left out reads as the value and as the default.
    rw [droppable, Option.some.injEq] at same
    subst same
    have twice := (reads plain (leeway.value.same plain)).reads.symm.trans base.reads
    exact .inr ⟨found, Except.ok.inj twice⟩

theorem supplies (allows : leeway.Allows before (row.lookup leeway.name))
    (held : before = some written)
    (reads : ∀ document, leeway.value.Rewords written document → document.ReadsAs shape read value)
    (lasting : leeway.default = none) : row.Supplies leeway.name shape read value := by
  subst held
  generalize found : row.lookup leeway.name = after at allows
  cases allows with
  | kept rewords => exact ⟨_, found, reads _ rewords⟩
  | omitted droppable =>
    rw [lasting] at droppable
    cases droppable

theorem yieldsOption (allows : leeway.Allows before (row.lookup leeway.name)) {write : α → Json}
    {value : Option α} (held : before = value.map write)
    (reads : ∀ value document, leeway.value.Rewords (write value) document →
      document.ReadsAs shape read value ∧ document ≠ .null)
    (lasting : leeway.default = none) :
    row.Yields leeway.name (.optional shape) (Json.asOption read) none value := by
  cases value with
  | none =>
    subst held
    generalize found : row.lookup leeway.name = after at allows
    cases allows
    exact .inr ⟨found, rfl⟩
  | some value =>
    refine .inl (allows.supplies held (fun document rewords => ?_) lasting)
    obtain ⟨readsAs, full⟩ := reads value document rewords
    exact readsAs.optional full

end Allows

end Leeway

namespace Json

variable {α : Type} {form : Json → Json} {shape : Shape} {read : Json → Except DecodeError α}

theorem ReadsAs.exact {written : Json} {value : α} (readsAs : written.ReadsAs shape read value) :
    ∀ document, Rewording.exact.Rewords written document → document.ReadsAs shape read value := by
  rintro document rfl
  exact readsAs

namespace Reorders

/-- A reworded record reads as what was written if every row does that has under the name of each
leeway what that allows. -/
theorem readsAs_of_record (reorders : Reorders form) {leeways : List Leeway} {members : Row}
    {names : List String} (different : names.Nodup) (named : (members.map Prod.fst).Sublist names)
    {document : Json} {value : α}
    (rewords : (Rewording.record leeways).Rewords (form (.object members)) document)
    (reads : ∀ row : Row, (row.map Prod.fst).Nodup →
      (∀ leeway ∈ leeways,
        leeway.Allows ((members.lookup leeway.name).map form) (row.lookup leeway.name)) →
      (Json.object row).ReadsAs shape read value) :
    document.ReadsAs shape read value := by
  obtain ⟨plain, written, distinct, lookup⟩ := reorders.row (named.nodup different)
  rw [written] at rewords
  rcases rewords with rfl | ⟨members', row, same, rfl, distinct', allows⟩
  · refine reads plain distinct fun leeway _ => ?_
    rw [lookup]
    exact leeway.allows_same _
  · cases same
    refine reads row distinct' fun leeway known => ?_
    rw [← lookup]
    exact allows leeway known

theorem readsAs_of_list (reorders : Reorders form) {element : Rewording} {write : α → Json}
    {values : List α} {document : Json}
    (rewords : element.list.Rewords (form (.list (values.map write))) document)
    (reads : ∀ value document, element.Rewords (form (write value)) document →
      document.ReadsAs shape read value) :
    document.ReadsAs (.list shape) (asList read) values := by
  rw [reorders.list, List.map_map] at rewords
  have elements : ∃ after, document = .list after ∧
      List.Forall₂ element.Rewords (values.map (form ∘ write)) after := by
    rcases rewords with rfl | ⟨before, after, same, rfl, all⟩
    · exact ⟨_, rfl, List.forall₂_same.mpr fun written _ => element.same written⟩
    · cases same
      exact ⟨after, rfl, all⟩
  obtain ⟨after, rfl, all⟩ := elements
  exact .list ((List.forall₂_map_left_iff.mp all).imp reads).flip

end Reorders

end Json

end Authorization
