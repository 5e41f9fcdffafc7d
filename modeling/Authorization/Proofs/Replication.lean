import Authorization.Proofs.RoundTrip
import Authorization.Proofs.Scenes
import Authorization.Proofs.Soundness

/-! Replicas: sessions restored from the snapshots of others. A replica can be made of every session
that a run can reach, and no later script can tell the two apart but by their local attributes. -/

set_option autoImplicit false

namespace Authorization

namespace Session

variable {session : Session}

def replica (session : Session) : Session :=
  session.snapshot.sessionFor session.context session.constraints

theorem restore_snapshot (profile : session.toProfile.Sound)
    (formed : session.constraints.WellFormed) :
    session.snapshot.restore session.context = .ok session.replica := by
  rw [SessionSnapshot.restore_eq_ok_iff]
  exact ⟨profile.id, profile.login, session.constraints, formed.ofSnapshot_snapshot, rfl⟩

theorem alike_replica (profile : session.toProfile.Sound) : session.Alike session.replica where
  profile := by
    have kept : (session.substituted.filter fun user => !user.isSameUser session.principal) =
        session.substituted := by
      cases acting : session.substituted with
      | none => rfl
      | some user =>
        have apart : user.isSameUser session.principal = false := by
          simpa [Principal.isSameUser] using profile.substituted user acting
        rw [Option.filter_some, apart]
        rfl
    refine ⟨∅, ?_⟩
    rw [replica, SessionSnapshot.sessionFor]
    simp only [Session.snapshot, kept, ← profile.categories]
  holdings := {
    levels := fun kind => (session.permissions.levelsOf_ofSnapshot_snapshot kind).symm
    constraints := rfl
    attributes := rfl }

end Session

theorem Scene.opening_shows {registry : Registry} {handle : Nat} {session : Session}
    (found : registry.session? handle = some session) :
    ∃ family, (opening registry handle).Shows ⟨session.toHoldings, [session.toProfile]⟩ family := by
  obtain ⟨member, place, held, profile⟩ := (registry.session?_eq_some_iff handle session).mp found
  refine ⟨member.family, ?_, held, List.nodup_cons.mpr ⟨List.not_mem_nil, .nil⟩⟩
  rw [opening, List.map_singleton, List.map_singleton, place, profile]

theorem Scene.opening_alike {registry : Registry} {handle handle' : Nat} {session session' : Session}
    (found : registry.session? handle = some session)
    (found' : registry.session? handle' = some session') (alike : session.Alike session') :
    (opening registry handle).Alike (opening registry handle') := by
  obtain ⟨family, shows⟩ := opening_shows found
  obtain ⟨family', shows'⟩ := opening_shows found'
  exact ⟨rfl, _, family, _, family', shows, shows', alike.holdings, .cons alike.profile .nil⟩

/-- Every reachable session whose time of creation can be read back survives its written form, as
written or ordered, and the session restored from it answers every script like the original. -/
theorem Session.replicated_of_run (commands : List Command) (handle : Nat) (session : Session)
    (found : (Registry.empty.run commands).session? handle = some session)
    (legible : Instant.ofText session.createdAt.text = .ok session.createdAt) :
    SessionSnapshot.ofJson session.snapshot.toJson = .ok session.snapshot ∧
    ((∀ (name : String) (value : Json),
        session.attributes[name]? = some value → value.ordered = value) →
      SessionSnapshot.ofJson session.snapshot.toJson.ordered = .ok session.snapshot) ∧
    ∃ restored : Session, session.snapshot.restore session.context = .ok restored ∧
      restored.localAttributes = ∅ ∧
      restored.snapshot = session.snapshot ∧
      ∀ script,
        (Scene.opening ((Registry.empty.run commands).register restored)
          (Registry.empty.run commands).nextHandle).transcript script =
        (Scene.opening ((Registry.empty.run commands).register restored)
          handle).transcript script := by
  obtain ⟨profile, formed⟩ := (Registry.sound_empty.run commands).session found
  have alike := alike_replica profile
  have legible' : Instant.ofText session.snapshot.createdAt.text = .ok session.snapshot.createdAt :=
    legible
  refine ⟨SessionSnapshot.ofJson_toJson legible', SessionSnapshot.ofJson_ordered_toJson legible',
    session.replica, restore_snapshot profile formed, rfl, alike.snapshot.symm, fun script => ?_⟩
  -- Both sessions are looked up in the registry that has the replica; each starts a scene there.
  have original := Registry.session?_register_of_some found session.replica
  have copy := Registry.session?_register_nextHandle (Registry.empty.run commands) session.replica
  exact ((Scene.opening_alike original copy alike).transcript_eq script).symm

/-- A derived session whose origin holds a level, one constraint and a local attribute. -/
theorem Session.replicated_of_run_derived :
    ∃ session restored : Session,
      (Registry.empty.run [
        .build { SessionBuilder.empty with
          id := some (.ofNat 1)
          principal := some ⟨.ofNat 2, "ada", none, none, none⟩ } ⟨⟨2024, 1, 2⟩, 3, 4, 5, 0⟩,
        .mutate 0 (.grant .screen "orders" none .permit),
        .mutate 0 (.addConstraint (.ofId (.ofNat 7) "order")),
        .derive 0 ⟨.ofNat 3, "grace", none, none, none⟩ .empty "de",
        .mutate 1 (.setLocal "cart" (.u32 4))]).session? 1 = some session ∧
      SessionSnapshot.ofJson session.snapshot.toJson = .ok session.snapshot ∧
      session.snapshot.restore session.context = .ok restored ∧
      restored.snapshot = session.snapshot := by
  have created : ((Registry.empty.run [
        .build { SessionBuilder.empty with
          id := some (.ofNat 1)
          principal := some ⟨.ofNat 2, "ada", none, none, none⟩ } ⟨⟨2024, 1, 2⟩, 3, 4, 5, 0⟩,
        .mutate 0 (.grant .screen "orders" none .permit),
        .mutate 0 (.addConstraint (.ofId (.ofNat 7) "order")),
        .derive 0 ⟨.ofNat 3, "grace", none, none, none⟩ .empty "de",
        .mutate 1 (.setLocal "cart" (.u32 4))]).session? 1).map (·.createdAt) =
      some ⟨⟨2024, 1, 2⟩, 3, 4, 5, 0⟩ := by
    decide +kernel
  obtain ⟨session, found, same⟩ := Option.map_eq_some_iff.mp created
  have legible : Instant.ofText session.createdAt.text = .ok session.createdAt := by
    rw [same]
    decide +kernel
  obtain ⟨read, -, restored, made, -, snapshot, -⟩ := replicated_of_run _ 1 session found legible
  exact ⟨session, restored, found, read, made, snapshot⟩

end Authorization
