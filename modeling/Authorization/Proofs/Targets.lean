import Mathlib.Data.List.TakeWhile
import Authorization.Proofs.Decision
import Authorization.Proofs.Grants

/-! Targets of two parts. Their text does not tell where the first part ends when a part holds the
delimiter itself. Pairs with different targets never share a permission. -/

set_option autoImplicit false

namespace Authorization

namespace Target

/-- The second pair comes from the first when a middle part moves across the delimiter. -/
def Shifts (first second : String × String) : Prop :=
  ∃ middle, second.1 = compose first.1 middle ∧ first.2 = compose middle second.2

theorem shifts_iff_toList (first second : String × String) :
    Shifts first second ↔ ∃ middle, second.1.toList = first.1.toList ++ delimiter :: middle ∧
      first.2.toList = middle ++ delimiter :: second.2.toList := by
  constructor
  · rintro ⟨middle, scope, name⟩
    exact ⟨middle.toList, by rw [scope, toList_compose], by rw [name, toList_compose]⟩
  · rintro ⟨middle, scope, name⟩
    refine ⟨.ofList middle, String.toList_injective ?_, String.toList_injective ?_⟩
    · rw [toList_compose, String.toList_ofList, scope]
    · rw [toList_compose, String.toList_ofList, name]

/-- What one scope has beyond the other is nothing, or it starts with the delimiter of the other. -/
theorem beyond_cases {name beyond other : List Char}
    (tail : delimiter :: name = beyond ++ delimiter :: other) :
    (beyond = [] ∧ name = other) ∨
      ∃ middle, beyond = delimiter :: middle ∧ name = middle ++ delimiter :: other := by
  cases beyond with
  | nil => exact .inl ⟨rfl, (List.cons.inj tail).2⟩
  | cons first middle =>
    obtain ⟨rfl, inner⟩ := List.cons.inj tail
    exact .inr ⟨middle, rfl, inner⟩

theorem append_delimiter_eq_iff (scope name other other' : List Char) :
    scope ++ delimiter :: name = other ++ delimiter :: other' ↔
      (scope = other ∧ name = other') ∨
      (∃ middle, other = scope ++ delimiter :: middle ∧ name = middle ++ delimiter :: other') ∨
      ∃ middle, scope = other ++ delimiter :: middle ∧ other' = middle ++ delimiter :: name := by
  constructor
  · intro same
    -- One of the two scopes is at least as long as the other and starts with it.
    rcases List.append_eq_append_iff.mp same with ⟨beyond, rfl, tail⟩ | ⟨beyond, rfl, tail⟩
    · rcases beyond_cases tail with ⟨rfl, rfl⟩ | ⟨middle, rfl, inner⟩
      · exact .inl ⟨(List.append_nil scope).symm, rfl⟩
      · exact .inr (.inl ⟨middle, rfl, inner⟩)
    · rcases beyond_cases tail with ⟨rfl, rfl⟩ | ⟨middle, rfl, inner⟩
      · exact .inl ⟨List.append_nil other, rfl⟩
      · exact .inr (.inr ⟨middle, rfl, inner⟩)
  · rintro (⟨rfl, rfl⟩ | ⟨middle, rfl, rfl⟩ | ⟨middle, rfl, rfl⟩) <;>
      simp only [List.append_assoc, List.cons_append]

theorem compose_eq_iff (first second : String × String) :
    compose first.1 first.2 = compose second.1 second.2 ↔
      first = second ∨ Shifts first second ∨ Shifts second first := by
  rw [← String.toList_inj, toList_compose, toList_compose, append_delimiter_eq_iff,
    shifts_iff_toList, shifts_iff_toList, Prod.ext_iff, String.toList_inj, String.toList_inj]

theorem lastPart?_eq_some_iff (chars part : List Char) :
    lastPart? chars = some part ↔
      delimiter ∉ part ∧ ∃ scope, chars = scope ++ delimiter :: part := by
  constructor
  · intro found
    rw [lastPart?, Option.ite_none_right_eq_some] at found
    obtain ⟨member, rest⟩ := found
    have behind := Option.some.inj rest
    have split := List.takeWhile_append_dropWhile (p := (· ≠ delimiter)) (l := chars.reverse)
    -- What is taken from the end stops at a delimiter, since there is one.
    cases stop : chars.reverse.dropWhile (· ≠ delimiter) with
    | nil =>
      have none := List.dropWhile_eq_nil_iff.mp stop delimiter (List.mem_reverse.mpr member)
      simp at none
    | cons first before =>
      have mark := List.head?_dropWhile_not (· ≠ delimiter) chars.reverse
      rw [stop] at mark split
      have mark : first = delimiter := by simpa using mark
      refine ⟨?_, before.reverse, ?_⟩
      · rw [← behind, List.mem_reverse]
        intro inside
        simpa using List.mem_takeWhile_imp inside
      · rw [← List.reverse_reverse chars, ← split, List.reverse_append, behind,
          List.reverse_cons, mark, List.append_assoc, List.singleton_append]
  · rintro ⟨plain, scope, rfl⟩
    exact lastPart?_append scope part plain

theorem isRead_iff (target : String) :
    isRead target = true ↔ ∃ scope, target = scope ++ ":read" := by
  have plain : delimiter ∉ EntityOp.read.name.toList := by decide
  rw [isRead, beq_iff_eq, lastPart?_eq_some_iff, and_iff_right plain]
  constructor
  · rintro ⟨scope, split⟩
    refine ⟨.ofList scope, String.toList_injective ?_⟩
    rw [split, String.toList_append, String.toList_ofList]
    rfl
  · rintro ⟨scope, rfl⟩
    exact ⟨scope.toList, String.toList_append⟩

end Target

namespace Mutation

def Spares (kind : PermissionKind) (target : String) (change : Mutation) : Prop :=
  change.granted? kind target = none ∧ change.revokes kind target = false

theorem spares_grant {kind : PermissionKind} {main target : String} {aliasName : Option String}
    (apart : main ≠ target) (unaliased : aliasName ≠ some target) (value : Level) :
    (grant kind main aliasName value).Spares kind target :=
  ⟨if_neg fun named => named.2.elim apart unaliased, rfl⟩

theorem spares_revoke {kind : PermissionKind} {main target : String} (apart : main ≠ target) :
    (revoke kind main).Spares kind target :=
  ⟨rfl, by simp [revokes, apart]⟩

end Mutation

namespace Session

variable {kind : PermissionKind} {target : String} {change : Mutation}

theorem level?_apply_of_spares (session : Session) (spares : change.Spares kind target) :
    (session.apply change).level? kind target = session.level? kind target := by
  have stored : (session.apply change).permissions.level? kind target =
      session.permissions.level? kind target := by
    rw [apply, Holdings.level?_apply, spares.1, spares.2]
    rfl
  have supplied : (session.apply change).suppliedLevels kind target =
      session.suppliedLevels kind target := by
    cases change <;> rfl
  rw [level?, level?, stored, supplied]

theorem isSuper_apply (session : Session) (change : Mutation) :
    (session.apply change).isSuper = session.isSuper := by
  cases change <;> rfl

theorem isPermitted_apply_of_spares (session : Session) (spares : change.Spares kind target)
    (required : Level) :
    (session.apply change).isPermitted kind target required =
      session.isPermitted kind target required := by
  rw [isPermitted, isPermitted, isSuper_apply, level?_apply_of_spares session spares]

theorem attributeAccess_apply_of_spares (session : Session) {entity name : String}
    (spares : change.Spares .entityAttribute (Target.ofAttribute entity name)) :
    (session.apply change).attributeAccess entity name = session.attributeAccess entity name := by
  rw [attributeAccess, attributeAccess, isSuper_apply, level?_apply_of_spares session spares]

/-- Different pairs share a permission exactly when one is the other with a middle part moved
across the delimiter. If they do not, then no change to the one is seen at the other. -/
theorem unshared_of_apart (session : Session) (first second : String × String)
    (different : first ≠ second) :
    (Target.compose first.1 first.2 = Target.compose second.1 second.2 ↔
      Target.Shifts first second ∨ Target.Shifts second first) ∧
    (¬ (Target.Shifts first second ∨ Target.Shifts second first) →
      ∀ (aliasName : Option String) (value : Level),
        aliasName ≠ some (Target.compose second.1 second.2) →
        (∀ change ∈ [Mutation.grant .entityAttribute (Target.ofAttribute first.1 first.2) aliasName
            value, .revoke .entityAttribute (Target.ofAttribute first.1 first.2)],
          (∀ access, (session.apply change).isAttributePermitted second.1 second.2 access =
            session.isAttributePermitted second.1 second.2 access) ∧
          (session.apply change).attributeAccess second.1 second.2 =
            session.attributeAccess second.1 second.2) ∧
        ∀ change ∈ [Mutation.grant .ui (Target.compose first.1 first.2) aliasName value,
            .revoke .ui (Target.compose first.1 first.2)],
          (session.apply change).isComponentPermitted second.1 second.2 =
            session.isComponentPermitted second.1 second.2) := by
  have shared : Target.compose first.1 first.2 = Target.compose second.1 second.2 ↔
      Target.Shifts first second ∨ Target.Shifts second first :=
    (Target.compose_eq_iff first second).trans (or_iff_right different)
  refine ⟨shared, fun unshifted aliasName value unaliased => ?_⟩
  have apart : Target.compose first.1 first.2 ≠ Target.compose second.1 second.2 :=
    mt shared.mp unshifted
  -- Of either kind, a change that names the first target spares the second one.
  have spared : ∀ kind, ∀ change ∈ [Mutation.grant kind (Target.compose first.1 first.2) aliasName
      value, .revoke kind (Target.compose first.1 first.2)],
      change.Spares kind (Target.compose second.1 second.2) := by
    intro kind change named
    rw [List.mem_pair] at named
    rcases named with rfl | rfl
    · exact Mutation.spares_grant apart unaliased value
    · exact Mutation.spares_revoke apart
  refine ⟨fun change named => ⟨fun access => ?_, ?_⟩, fun change named => ?_⟩
  · exact session.isPermitted_apply_of_spares (spared .entityAttribute change named) access.level
  · exact session.attributeAccess_apply_of_spares (spared .entityAttribute change named)
  · exact session.isPermitted_apply_of_spares (spared .ui change named) .permit

/-- The parts and delimiters of the one pair are those of the other, in another order. -/
theorem unshared_of_apart_reordered :
    let session := SessionBuilder.empty.sessionFor (.ofNat 1) ⟨.ofNat 2, "ada", none, none, none⟩
      ⟨⟨2024, 1, 2⟩, 3, 4, 5, 0⟩
    let denied := session.apply
      (.grant .entityAttribute (Target.ofAttribute "order:line" "total") (some "total") .deny)
    (("order:line", "total") : String × String) ≠ ("order", "total:line") ∧
      denied.isAttributePermitted "order:line" "total" .view = false ∧
      denied.isAttributePermitted "order" "total:line" .modify = true := by
  intro session denied
  have different : (("order:line", "total") : String × String) ≠ ("order", "total:line") := by
    decide
  obtain ⟨shared, unshared⟩ := session.unshared_of_apart _ _ different
  have unshifted := mt shared.mpr (by decide +kernel)
  obtain ⟨attributes, -⟩ := unshared unshifted (some "total") .deny (by decide +kernel)
  refine ⟨different, by decide +kernel, ?_⟩
  rw [(attributes _ List.mem_cons_self).1]
  decide +kernel

/-- A middle part can stand on either side of the delimiter, and so the total of an order line and
the line total of an order are one attribute, and likewise for components. -/
theorem shared_across_delimiter :
    (("order:line", "total") : String × String) ≠ ("order", "line:total") ∧
    ∃ session, { SessionBuilder.empty with
        id := some (.ofNat 1)
        principal := some ⟨.ofNat 2, "ada", none, none, none⟩ }.build
          ⟨⟨2024, 1, 2⟩, 3, 4, 5, 0⟩ = .ok session ∧
      (let denied := session.apply
        (.grant .entityAttribute (Target.ofAttribute "order:line" "total") none .deny)
      session.isAttributePermitted "order" "line:total" .view = true ∧
        denied.isAttributePermitted "order" "line:total" .view = false ∧
        session.attributeAccess "order" "line:total" = .modify ∧
        denied.attributeAccess "order" "line:total" = .deny) ∧
      (let closed := session.apply (.grant .ui (Target.compose "order:line" "total") none .deny)
      session.isComponentPermitted "order" "line:total" = true ∧
        closed.isComponentPermitted "order" "line:total" = false) :=
  ⟨by decide, _, rfl, by decide +kernel, by decide +kernel⟩

end Session

end Authorization
