import Mathlib.Data.List.Induction
import Authorization.Proofs.Families

/-! Sessions connected by derivations. Which sessions are connected is read off the commands of a
run alone; they are those that use the same holdings. -/

set_option autoImplicit false

namespace Authorization.Registry

/-- Two handles are connected in a run when derivations lead from one to the other, in whichever
direction each of them is followed. -/
inductive Connected (commands : List Command) : Nat → Nat → Prop
  | same (handle : Nat) : Connected commands handle handle
  | derived {before after : List Command} {origin : Nat} {session : Session} {principal : Principal}
      {roles : RoleSet} {locale : String} :
      commands = before ++ .derive origin principal roles locale :: after →
      (empty.run before).session? origin = some session →
      Connected commands origin (empty.run before).nextHandle
  | reverse {first second : Nat} : Connected commands first second → Connected commands second first
  | join {first middle second : Nat} : Connected commands first middle →
      Connected commands middle second → Connected commands first second

theorem run_append (registry : Registry) (before after : List Command) :
    registry.run (before ++ after) = (registry.run before).run after := by
  rw [run, run, run, List.foldl_append]

theorem run_concat (registry : Registry) (before : List Command) (last : Command) :
    registry.run (before ++ [last]) = (registry.run before).step last := by
  rw [run_append]
  rfl

theorem Sound.exists_session {registry : Registry} (sound : registry.Sound) {handle : Nat}
    {member : Member} (found : registry.members[handle]? = some member) :
    ∃ session, registry.session? handle = some session := by
  have linked := sound.linked member (List.mem_of_getElem? found)
  refine ⟨⟨member.profile, registry.families[member.family]⟩, ?_⟩
  rw [session?_eq_some_iff]
  exact ⟨member, found, List.getElem?_eq_getElem linked, rfl⟩

theorem Connected.append {commands : List Command} {first second : Nat}
    (connected : Connected commands first second) (more : List Command) :
    Connected (commands ++ more) first second := by
  induction connected with
  | same handle => exact .same handle
  | @derived before after origin session principal roles locale split found =>
    have split' : commands ++ more =
        before ++ .derive origin principal roles locale :: (after ++ more) := by
      rw [split, List.append_assoc, List.cons_append]
    exact .derived split' found
  | reverse _ ih => exact ih.reverse
  | join _ _ ih ih' => exact ih.join ih'

/-! ## Connected sessions use the same holdings -/

/-- A session never moves to other holdings. -/
theorem familyOf?_step {registry : Registry} {handle family : Nat}
    (uses : registry.familyOf? handle = some family) (command : Command) :
    (registry.step command).familyOf? handle = some family := by
  have inside : handle ≠ registry.nextHandle := by
    rintro rfl
    rw [familyOf?_nextHandle] at uses
    cases uses
  rcases registry.step_cases command with ⟨session, -, stepped⟩ |
    ⟨place, member, principal, roles, locale, -, -, stepped⟩ |
    ⟨place, member, mutation, rfl, -, -⟩ | ⟨overrides, stepped⟩
  · rw [stepped, familyOf?_append rfl, if_neg inside, uses]
  · rw [stepped, familyOf?_append rfl, if_neg inside, uses]
  · rw [step, familyOf?_mutate, uses]
  · rw [stepped]
    exact uses

theorem familyOf?_run {registry : Registry} {handle family : Nat}
    (uses : registry.familyOf? handle = some family) (commands : List Command) :
    (registry.run commands).familyOf? handle = some family := by
  induction commands generalizing registry with
  | nil => exact uses
  | cons command rest ih => exact ih (familyOf?_step uses command)

theorem Connected.familyOf?_eq {commands : List Command} {first second : Nat}
    (connected : Connected commands first second) :
    (empty.run commands).familyOf? first = (empty.run commands).familyOf? second := by
  induction connected with
  | same handle => rfl
  | @derived before after origin session principal roles locale split found =>
    obtain ⟨member, place, -, -⟩ := (session?_eq_some_iff ..).mp found
    have uses := familyOf?_of_member place
    have derived : ((empty.run before).step (.derive origin principal roles locale)).familyOf?
        (empty.run before).nextHandle = some member.family := by
      rw [step, derive_of_member place, familyOf?_append rfl, if_pos rfl]
    rw [split, run_append]
    exact (familyOf?_run (familyOf?_step uses _) after).trans (familyOf?_run derived after).symm
  | reverse _ ih => exact ih.symm
  | join _ _ ih ih' => exact ih.trans ih'

/-! ## Sessions that use the same holdings are connected -/

theorem exists_founder (commands : List Command) :
    ∃ founder : Nat → Nat, ∀ handle family,
      (empty.run commands).familyOf? handle = some family →
        Connected commands (founder family) handle := by
  -- From the end of the run: the last command decides who the new session belongs to.
  induction commands using List.reverseRecOn with
  | nil => exact ⟨id, fun _ _ uses => nomatch uses⟩
  | append_singleton before last ih =>
    obtain ⟨founder, known⟩ := ih
    have sound := sound_empty.run before
    have still : ∀ handle family, (empty.run before).familyOf? handle = some family →
        Connected (before ++ [last]) (founder family) handle :=
      fun handle family uses => (known handle family uses).append [last]
    rw [run_concat]
    rcases (empty.run before).step_cases last with ⟨session, -, stepped⟩ |
      ⟨origin, member, principal, roles, locale, rfl, found, stepped⟩ |
      ⟨place, member, mutation, rfl, -, -⟩ | ⟨overrides, stepped⟩
    · refine ⟨fun family => if family = (empty.run before).families.length then
        (empty.run before).nextHandle else founder family, fun handle family uses => ?_⟩
      rw [stepped, familyOf?_append rfl] at uses
      split at uses
      · rename_i new
        cases uses
        dsimp only
        rw [new, if_pos rfl]
        exact .same _
      · obtain ⟨member, place, rfl⟩ := Option.map_eq_some_iff.mp uses
        have old := sound.linked member (List.mem_of_getElem? place)
        dsimp only
        rw [if_neg (Nat.ne_of_lt old)]
        exact still handle _ uses
    · refine ⟨founder, fun handle family uses => ?_⟩
      rw [stepped, familyOf?_append rfl] at uses
      split at uses
      · rename_i new
        cases uses
        obtain ⟨session, held⟩ := sound.exists_session found
        rw [new]
        exact (still origin _ (familyOf?_of_member found)).join (.derived rfl held)
      · exact still handle family uses
    · refine ⟨founder, fun handle family uses => still handle family ?_⟩
      rw [step, familyOf?_mutate] at uses
      exact uses
    · refine ⟨founder, fun handle family uses => still handle family ?_⟩
      rw [stepped] at uses
      exact uses

/-- Of two sessions, the commands tell by derivations alone whether they use the same holdings. -/
theorem connected_iff {commands : List Command} {first second family : Nat}
    (uses : (empty.run commands).familyOf? first = some family) :
    Connected commands first second ↔
      (empty.run commands).familyOf? second = some family := by
  constructor
  · intro connected
    rw [← connected.familyOf?_eq, uses]
  · intro uses'
    obtain ⟨founder, known⟩ := exists_founder commands
    exact (known first family uses).reverse.join (known second family uses')

end Authorization.Registry
