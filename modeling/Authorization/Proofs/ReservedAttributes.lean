import Authorization.Proofs.Chains
import Authorization.Proofs.Chronicles
import Authorization.Proofs.Services

/-! The attributes that a session shows. Two names are reserved for the user whom the session acts
for. Whatever is stored under them, they tell this user and no other, as long as the session lives;
under every other name a session shows what is stored. -/

set_option autoImplicit false

namespace Authorization

/-! ## A session acts for one user -/

theorem Profile.current_apply (profile : Profile) (mutation : Mutation) :
    (profile.apply mutation).current = profile.current := by
  rw [profile.apply_eq mutation]
  rfl

theorem Registry.exists_session?_run_of_current {registry : Registry} {handle : Nat}
    {session : Session} (found : registry.session? handle = some session)
    (commands : List Command) :
    ∃ later, (registry.run commands).session? handle = some later ∧
      later.current = session.current := by
  induction commands generalizing registry session with
  | nil => exact ⟨session, found, rfl⟩
  | cons command rest ih =>
    obtain ⟨next, found', changed⟩ := exists_session?_step found command
    have kept : next.current = session.current := by
      rcases changed with same | ⟨mutation, -, applied⟩
      · rw [same]
      · rw [applied, Profile.current_apply]
    obtain ⟨later, found'', kept'⟩ := ih found'
    exact ⟨later, found'', kept'.trans kept⟩

def ArchiveCommand.occurrence : ArchiveCommand → Occurrence
  | build builder now => .command (.build builder now)
  | derive handle principal roles locale => .command (.derive handle principal roles locale)
  | mutate handle mutation => .command (.mutate handle mutation)
  | capture handle => .capture handle
  | restore place context => .restore place context

namespace Archive

theorem run_eq_serve (archive : Archive) (commands : List ArchiveCommand) :
    archive.run commands = archive.serve (commands.map ArchiveCommand.occurrence) := by
  have step_eq : ∀ (archive : Archive) (command : ArchiveCommand),
      archive.undergo command.occurrence = archive.step command := by
    intro archive command
    cases command <;> rfl
  rw [run, serve, List.foldl_map]
  simp only [step_eq]

theorem exists_session?_run_of_current {archive : Archive} {handle : Nat} {session : Session}
    (found : archive.registry.session? handle = some session) (commands : List ArchiveCommand) :
    ∃ later, (archive.run commands).registry.session? handle = some later ∧
      later.current = session.current := by
  rw [run_eq_serve]
  obtain ⟨performed, reached⟩ := archive.exists_run_of_serve (commands.map ArchiveCommand.occurrence)
  rw [reached]
  exact Registry.exists_session?_run_of_current found performed

end Archive

/-! ## Shown and stored attributes -/

namespace Session

theorem attribute?_userId (session : Session) :
    session.attribute? userIdAttribute = some (.text session.current.id.text) := if_pos rfl

theorem attribute?_userLogin (session : Session) :
    session.attribute? userLoginAttribute = some (.text session.current.lowerLogin) := by
  rw [attribute?, if_neg (by decide), if_pos rfl]

theorem attribute?_of_ne (session : Session) {name : String} (notId : name ≠ userIdAttribute)
    (notLogin : name ≠ userLoginAttribute) :
    session.attribute? name = session.attributes[name]? := by
  rw [attribute?, if_neg notId, if_neg notLogin]

end Session

/-- From any point of a run on, whatever is set or removed, the reserved attributes of a session are
the identifier and the lower-cased login of the user whom it acts for. At every point all other
attributes are what the history of the session set last, and so is everything stored, whether it is
listed, removed or written down, under reserved names as under all others. -/
theorem Archive.attributes_of_run (commands : List ArchiveCommand) (handle : Nat) (session : Session)
    (found : (empty.run commands).registry.session? handle = some session) :
    let history := (Chronicle.of commands).historyOf handle
    (∀ more, ∃ later, (empty.run (commands ++ more)).registry.session? handle = some later ∧
      later.attribute? Session.userIdAttribute = some (.text session.current.id.text) ∧
      later.attribute? Session.userLoginAttribute = some (.text session.current.lowerLogin)) ∧
    (∀ name, name ≠ Session.userIdAttribute → name ≠ Session.userLoginAttribute → ∀ value,
      session.attribute? name = some value ↔ LastSet name value history) ∧
    ∀ name, ∃ stored : Option Json,
      (∀ value, stored = some value ↔ LastSet name value history) ∧
      session.outcome (.removeAttribute name) = .removedAttribute stored ∧
      session.snapshot.attributes[name]? = stored ∧
      (name ∈ session.attributes.keys ↔ stored.isSome = true) := by
  intro history
  have records : DurableAttributes.Records session.attributes history :=
    ((Chronicle.keeps_of commands).holdings found).attributes
  refine ⟨fun more => ?_, fun name notId notLogin value => ?_, fun name => ?_⟩
  · obtain ⟨later, found', kept⟩ := exists_session?_run_of_current found more
    rw [run, List.foldl_append]
    exact ⟨later, found', kept ▸ later.attribute?_userId, kept ▸ later.attribute?_userLogin⟩
  · rw [session.attribute?_of_ne notId notLogin]
    exact records name value
  · refine ⟨session.attributes[name]?, records name, rfl, rfl, ?_⟩
    rw [Std.ExtTreeMap.mem_keys, Std.ExtTreeMap.mem_iff_isSome_getElem?]

/-- Reserved names are written through two sessions. The second is captured and restored, and from
the copy a session is derived that acts for the authenticated user again. -/
def reservedRun : List ArchiveCommand := [
  .build { SessionBuilder.empty with
    id := some (.ofNat 1)
    principal := some ⟨.ofNat 2, "Ada", none, none, none⟩ } ⟨⟨2024, 1, 2⟩, 3, 4, 5, 0⟩,
  .mutate 0 (.setAttribute "userId" (.text "root")),
  .mutate 0 (.setAttribute "region" (.text "emea")),
  .derive 0 ⟨.ofNat 3, "grace", none, none, none⟩ .empty "de",
  .mutate 1 (.setAttribute "region" (.text "apac")),
  .mutate 1 (.setAttribute "userLogin" (.text "root")),
  .capture 1,
  .mutate 0 (.removeAttribute "region"),
  .restore 0 .standard,
  .derive 2 ⟨.ofNat 2, "ADA", none, none, none⟩ .empty "en"]

/-- The session that was derived last shows its user, and has what was stored before the capture. -/
theorem Archive.attributes_of_run_restored :
    ∃ session, (empty.run reservedRun).registry.session? 3 = some session ∧
      session.attribute? "userId" = some (.text (Id.ofNat 2 : UserId).text) ∧
      session.attribute? "userLogin" = some (.text "ada") ∧
      session.attribute? "region" = some (.text "apac") ∧
      session.outcome (.removeAttribute "userLogin") = .removedAttribute (some (.text "root")) := by
  have history : (Chronicle.of reservedRun).historyOf 3 = [
      .setAttribute "userId" (.text "root"), .setAttribute "region" (.text "emea"),
      .setAttribute "region" (.text "apac"), .setAttribute "userLogin" (.text "root")] := rfl
  have region : LastSet "region" (.text "apac") ((Chronicle.of reservedRun).historyOf 3) :=
    ⟨[_, _], [.setAttribute "userLogin" (.text "root")], history, by simp⟩
  have login : LastSet "userLogin" (.text "root") ((Chronicle.of reservedRun).historyOf 3) :=
    ⟨[_, _, _], [], history, by simp⟩
  obtain ⟨identity, others, stored⟩ := attributes_of_run reservedRun 3 _ rfl
  obtain ⟨-, ⟨⟩, shownId, shownLogin⟩ := identity []
  obtain ⟨value, value_iff, removed, -⟩ := stored "userLogin"
  refine ⟨_, rfl, shownId, shownLogin, (others "region" (by decide) (by decide) _).mpr region, ?_⟩
  rw [removed, (value_iff _).mpr login]

end Authorization
