import Mathlib.Data.List.Induction
import Authorization.Proofs.Chronicles

/-! Denial by default. Under the static rules a denying role leaves nothing to a check but the
stored levels, and these are what the history of the session granted and did not revoke. -/

set_option autoImplicit false

namespace Authorization

/-- Some change granted the level or a higher one on the target, as its target or as its alias, and
no later one revoked the target. -/
def Granted (kind : PermissionKind) (target : String) (required : Level)
    (history : List Mutation) : Prop :=
  ∃ before main aliasName value after, history = before ++ .grant kind main aliasName value :: after ∧
    (main = target ∨ aliasName = some target) ∧ required ≤ value ∧ .revoke kind target ∉ after

theorem Mutation.revokes_iff (kind : PermissionKind) (target : String) (change : Mutation) :
    change.revokes kind target = true ↔ change = .revoke kind target := by
  cases change with
  | revoke revoked main => simp [revokes]
  | _ => simp [revokes]

theorem Mutation.granted?_eq_some_iff (kind : PermissionKind) (target : String) (change : Mutation)
    (value : Level) :
    change.granted? kind target = some value ↔
      ∃ main aliasName, change = .grant kind main aliasName value ∧
        (main = target ∨ aliasName = some target) := by
  cases change with
  | grant granted main aliasName level =>
    simp only [granted?, Option.ite_none_right_eq_some, Option.some.injEq, grant.injEq]
    constructor
    · rintro ⟨⟨rfl, named⟩, rfl⟩
      exact ⟨main, aliasName, ⟨rfl, rfl, rfl, rfl⟩, named⟩
    · rintro ⟨_, _, ⟨rfl, rfl, rfl, rfl⟩, named⟩
      exact ⟨⟨rfl, named⟩, rfl⟩
  | _ => simp [granted?]

section

variable {kind : PermissionKind} {target : String} {required : Level} {history : List Mutation}

theorem granted_iff :
    Granted kind target required history ↔
      ∃ main aliasName value, (main = target ∨ aliasName = some target) ∧ required ≤ value ∧
        ∃ before after, history = before ++ .grant kind main aliasName value :: after ∧
          ∀ later ∈ after, later ≠ .revoke kind target := by
  simp only [ne_eq, List.forall_mem_ne']
  constructor
  · rintro ⟨before, main, aliasName, value, after, split, named, reached, live⟩
    exact ⟨main, aliasName, value, named, reached, before, after, split, live⟩
  · rintro ⟨main, aliasName, value, named, reached, before, after, split, live⟩
    exact ⟨before, main, aliasName, value, after, split, named, reached, live⟩

theorem granted_append {last : Mutation} :
    Granted kind target required (history ++ [last]) ↔
      (∃ value, last.granted? kind target = some value ∧ required ≤ value) ∨
        last.revokes kind target = false ∧ Granted kind target required history := by
  rw [← Bool.not_eq_true, Mutation.revokes_iff]
  simp only [Mutation.granted?_eq_some_iff, granted_iff, split_concat_iff]
  constructor
  · rintro ⟨main, aliasName, value, named, reached, rfl | ⟨apart, earlier⟩⟩
    · exact .inl ⟨value, ⟨main, aliasName, rfl, named⟩, reached⟩
    · exact .inr ⟨apart, main, aliasName, value, named, reached, earlier⟩
  · rintro (⟨value, ⟨main, aliasName, rfl, named⟩, reached⟩ |
      ⟨apart, main, aliasName, value, named, reached, earlier⟩)
    · exact ⟨main, aliasName, value, named, reached, .inl rfl⟩
    · exact ⟨main, aliasName, value, named, reached, .inr ⟨apart, earlier⟩⟩

theorem reaches_iff_granted :
    (∃ level, (liveGrants kind target history).max? = some level ∧ required ≤ level) ↔
      Granted kind target required history := by
  induction history using List.reverseRecOn with
  | nil =>
    refine iff_of_false ?_ ?_
    · rintro ⟨level, ⟨⟩, -⟩
    · rintro ⟨before, main, aliasName, value, after, split, -⟩
      exact List.append_ne_nil_of_right_ne_nil before (List.cons_ne_nil _ _) split.symm
  | append_singleton before last ih =>
    rw [liveGrants_append, granted_append, ← ih]
    cases revoked : last.revokes kind target with
    | true =>
      rw [Mutation.revokes_iff] at revoked
      simp [revoked, Mutation.granted?]
    | false =>
      cases last.granted? kind target with
      | none => simp
      | some value =>
        simp only [Bool.false_eq_true, if_false, Option.toList_some, List.singleton_append,
          Level.max?_cons, Level.reaches_raise]
        simp [or_comm]

end

/-- One of the roles is denying, and none is super or read-only. -/
def RoleSet.Denies (set : RoleSet) : Prop :=
  (∃ role ∈ set.roles, role.category = .denying) ∧
    ∀ role ∈ set.roles, role.category ≠ .super ∧ role.category ≠ .readOnly

instance (set : RoleSet) : Decidable set.Denies := inferInstanceAs (Decidable (_ ∧ _))

/-- But for super and read-only, no category supplies more than a denial. -/
theorem staticRules_eq_deny {category : RoleCategory} (user : category ≠ .super)
    (reader : category ≠ .readOnly) (kind : PermissionKind) (target : String) {level : Level}
    (supplied : staticRules category kind target = some level) : level = .deny := by
  cases category with
  | standard => cases supplied
  | super => exact absurd rfl user
  | readOnly => exact absurd rfl reader
  | denying => exact (Option.some.inj supplied).symm

theorem Session.isPermitted_iff_of_denies {session : Session}
    (categories : session.categories = session.roles.categories)
    (static : session.context.rules = staticRules) (denies : session.roles.Denies)
    (kind : PermissionKind) (target : String) {required : Level} (positive : .permit ≤ required) :
    session.isPermitted kind target required = true ↔
      ∃ level, session.permissions.level? kind target = some level ∧ required ≤ level := by
  obtain ⟨⟨role, granted, denying⟩, harmless⟩ := denies
  have attached : ∀ category ∈ session.categories, category ≠ .super ∧ category ≠ .readOnly := by
    intro category attached
    rw [categories, RoleSet.mem_categories] at attached
    obtain ⟨role, granted, rfl⟩ := attached
    exact harmless role granted
  have denied : session.Knows kind target .deny := by
    refine .inr ⟨.denying, ?_, ?_⟩
    · rw [categories, RoleSet.mem_categories]
      exact ⟨role, granted, denying⟩
    · rw [static]
      rfl
  rw [isPermitted_iff]
  constructor
  · rintro (super | unknown | ⟨level, stored | ⟨category, supplies, supplied⟩, reached⟩)
    · exact absurd rfl (attached _ super).1
    · exact absurd denied (unknown _)
    · exact ⟨level, stored, reached⟩
    · rw [static] at supplied
      obtain ⟨user, reader⟩ := attached category supplies
      rw [staticRules_eq_deny user reader kind target supplied] at reached
      exact absurd (Level.le_trans positive reached) (by decide)
  · rintro ⟨level, stored, reached⟩
    exact .inr (.inr ⟨level, .inl stored, reached⟩)

namespace Archive

/-- A check of a session whose roles deny passes exactly on what its history granted; and so does
one of a session that is derived with such roles, whatever the roles of its origin. -/
theorem isPermitted_of_run (commands : List ArchiveCommand) (handle : Nat) (session : Session)
    (found : (empty.run commands).registry.session? handle = some session)
    (static : session.context.rules = staticRules) (kind : PermissionKind) (target : String)
    (required : Level) (positive : .permit ≤ required) :
    (session.roles.Denies →
      (session.isPermitted kind target required = true ↔
        Granted kind target required ((Chronicle.of commands).historyOf handle))) ∧
    ∀ (principal : Principal) (roles : RoleSet) (locale : String), roles.Denies →
      ∃ derived : Session,
        (empty.run (commands ++ [.derive handle principal roles locale])).registry.session?
          (empty.run commands).registry.nextHandle = some derived ∧
        derived.roles = roles ∧
        (derived.isPermitted kind target required = true ↔
          Granted kind target required ((Chronicle.of commands).historyOf handle)) := by
  have keeps := Chronicle.keeps_of commands
  have stored : (∃ level, session.permissions.level? kind target = some level ∧
      required ≤ level) ↔ Granted kind target required ((Chronicle.of commands).historyOf handle) := by
    rw [keeps.records found, reaches_iff_granted]
  constructor
  · intro denies
    have categories := (keeps.sound.session found).1.categories
    rw [session.isPermitted_iff_of_denies categories static denies kind target positive, stored]
  · intro principal roles locale denies
    let derived : Session :=
      ⟨session.toProfile.derive principal roles locale, session.toHoldings⟩
    refine ⟨derived, ?_, rfl, ?_⟩
    · rw [run, List.foldl_concat]
      exact Registry.session?_derive_nextHandle found principal roles locale
    · rw [derived.isPermitted_iff_of_denies rfl static denies kind target positive]
      exact stored

def guests : RoleSet := ⟨[⟨"guests", .denying⟩], by decide⟩

/-- A super user grants under an alias, is captured, and revokes the alias. Then a guest is derived
from its restored session. -/
def guestRun : List ArchiveCommand := [
  .build { SessionBuilder.empty with
    id := some (.ofNat 1)
    principal := some ⟨.ofNat 2, "ada", none, none, none⟩
    roles := ⟨[⟨"root", .super⟩], by decide⟩ } ⟨⟨2024, 1, 2⟩, 3, 4, 5, 0⟩,
  .mutate 0 (.grant .screen "orders" (some "invoices") .permit),
  .capture 0,
  .mutate 0 (.revoke .screen "invoices"),
  .restore 0 .standard,
  .derive 1 ⟨.ofNat 3, "grace", none, none, none⟩ guests "de"]

/-- The guest still has the grant, and a guest of the super user's first session has not. -/
theorem isPermitted_of_run_guest :
    (∃ session : Session, (empty.run guestRun).registry.session? 2 = some session ∧
      session.isPermitted .screen "invoices" .permit = true) ∧
    ∃ session : Session,
      (empty.run (guestRun ++ [.derive 0 ⟨.ofNat 3, "grace", none, none, none⟩ guests
        "de"])).registry.session? 3 = some session ∧
      session.isPermitted .screen "invoices" .permit = false := by
  have restored : Granted .screen "invoices" .permit ((Chronicle.of guestRun).historyOf 2) :=
    ⟨[], "orders", some "invoices", .permit, [], rfl, .inr rfl, by decide, List.not_mem_nil⟩
  have revoked : ¬ Granted .screen "invoices" .permit ((Chronicle.of guestRun).historyOf 0) := by
    rw [← reaches_iff_granted]
    decide +kernel
  constructor
  · refine ⟨_, rfl, ?_⟩
    exact ((isPermitted_of_run guestRun 2 _ rfl rfl .screen "invoices" .permit (by decide)).1
      (by decide)).mpr restored
  · obtain ⟨derived, found, -, passes⟩ :=
      (isPermitted_of_run guestRun 0 _ rfl rfl .screen "invoices" .permit (by decide)).2
        ⟨.ofNat 3, "grace", none, none, none⟩ guests "de" (by decide)
    exact ⟨derived, found, Bool.eq_false_iff.mpr (mt passes.mp revoked)⟩

end Archive

end Authorization
