import Authorization.Proofs.Soundness

/-! Families of sessions: a made session, and what is derived from it and from its descendants.
Whichever of them a change goes through, it reaches the holdings that all of them see, and nothing
else does. -/

set_option autoImplicit false

namespace Authorization

/-- The handles of a family, and the changes that went through them so far. -/
structure Family where
  handles : List Nat
  changes : List Mutation

namespace Family

def founded (handle : Nat) : Family := ⟨[handle], []⟩

/-- The family after a command, which may derive another member or change the family through one. -/
def after (family : Family) (registry : Registry) : Command → Family
  | .derive handle _ _ _ =>
    if handle ∈ family.handles then { family with handles := family.handles ++ [registry.nextHandle] }
    else family
  | .mutate handle mutation =>
    if handle ∈ family.handles then { family with changes := family.changes ++ [mutation] }
    else family
  | .build _ _ | .restore _ _ | .parse _ | .enter _ _ | .leave _ => family

def follow (family : Family) (registry : Registry) : List Command → Family
  | [] => family
  | command :: rest => (family.after registry command).follow (registry.step command) rest

end Family

/-- The family that a session founds when it is registered, after a run. -/
def Registry.familyFrom (registry : Registry) (root : Session) (commands : List Command) : Family :=
  (Family.founded registry.nextHandle).follow (registry.register root) commands

theorem getElem?_concat {α : Type} (list : List α) (last : α) (place : Nat) :
    (list ++ [last])[place]? = if place = list.length then some last else list[place]? := by
  rw [List.getElem?_append, List.getElem?_singleton]
  split
  · rename_i inside
    rw [if_neg (Nat.ne_of_lt inside)]
  · rename_i outside
    have beyond := Nat.le_of_not_lt outside
    rw [List.getElem?_eq_none beyond]
    exact if_congr (by omega) rfl rfl

namespace Registry

def familyOf? (registry : Registry) (handle : Nat) : Option Nat :=
  registry.members[handle]?.map Member.family

theorem familyOf?_of_member {registry : Registry} {handle : Nat} {member : Member}
    (found : registry.members[handle]? = some member) :
    registry.familyOf? handle = some member.family := by
  rw [familyOf?, found, Option.map_some]

theorem familyOf?_nextHandle (registry : Registry) :
    registry.familyOf? registry.nextHandle = none := by
  rw [familyOf?, nextHandle, List.getElem?_eq_none (Nat.le_refl _), Option.map_none]

theorem familyOf?_append {registry grown : Registry} {added : Member}
    (members : grown.members = registry.members ++ [added]) (handle : Nat) :
    grown.familyOf? handle =
      if handle = registry.nextHandle then some added.family else registry.familyOf? handle := by
  rw [familyOf?, familyOf?, nextHandle, members, getElem?_concat]
  split <;> rfl

theorem familyOf?_mutate (registry : Registry) (place handle : Nat) (mutation : Mutation) :
    (registry.mutate place mutation).familyOf? handle = registry.familyOf? handle := by
  rw [mutate]
  split
  · rfl
  · simp only [familyOf?, List.getElem?_modify, Option.map_eq_map, Option.map_map]
    congr 1
    funext member
    show (if place = handle then _ else _ : Member).family = member.family
    split <;> rfl

theorem members_mutate_of_none {registry : Registry} {handle : Nat}
    (found : registry.members[handle]? = none) (place : Nat) (mutation : Mutation) :
    (registry.mutate place mutation).members[handle]? = none := by
  have family := familyOf?_mutate registry place handle mutation
  rw [familyOf?, familyOf?, found] at family
  exact Option.map_eq_none_iff.mp family

theorem members_mutate_of_member {registry : Registry} {handle : Nat} {member : Member}
    (found : registry.members[handle]? = some member) (place : Nat) (mutation : Mutation) :
    ∃ changed, (registry.mutate place mutation).members[handle]? = some changed ∧
      changed.family = member.family := by
  have family := familyOf?_mutate registry place handle mutation
  rw [familyOf?_of_member found] at family
  exact Option.map_eq_some_iff.mp family

/-- What a change makes of the session under a handle: the profile changes if it is addressed, and the
holdings if it is of the same family. -/
theorem session?_mutate (registry : Registry) (place handle : Nat) (mutation : Mutation) :
    (registry.mutate place mutation).session? handle =
      (registry.session? handle).map fun session => ⟨
        if place = handle then session.toProfile.apply mutation else session.toProfile,
        if registry.familyOf? place = registry.familyOf? handle then
          session.toHoldings.apply mutation
        else session.toHoldings⟩ := by
  cases here : registry.members[handle]? with
  | none => simp [session?, here, members_mutate_of_none here place mutation]
  | some member =>
    cases addressed : registry.members[place]? with
    | none =>
      have other : place ≠ handle := by
        rintro rfl
        rw [here] at addressed
        cases addressed
      have apart : registry.familyOf? place ≠ registry.familyOf? handle := by
        simp [familyOf?, here, addressed]
      simp [mutate_of_none addressed, other, apart]
    | some owner =>
      have member' : (registry.mutate place mutation).members[handle]? = some ⟨
          if place = handle then member.profile.apply mutation else member.profile,
          member.family⟩ := by
        rw [mutate_of_member addressed]
        simp only [List.getElem?_modify, here, Option.map_eq_map, Option.map_some]
        split <;> rfl
      have holdings : (registry.mutate place mutation).families[member.family]? =
          registry.families[member.family]?.map fun holdings =>
            if owner.family = member.family then holdings.apply mutation else holdings := by
        rw [mutate_of_member addressed]
        exact List.getElem?_modify ..
      simp only [session?, member', here, Option.bind_eq_bind, Option.bind_some, holdings,
        familyOf?_of_member addressed, familyOf?_of_member here, Option.some.injEq]
      cases registry.families[member.family]? <;> rfl

end Registry

namespace Family

/-- The registry knows the family under an index: exactly its handles use the holdings there, and
those are the first ones after all changes that went through the handles. -/
structure Held (family : Family) (index : Nat) (first : Holdings) (registry : Registry) : Prop where
  handles : ∀ handle, handle ∈ family.handles ↔ registry.familyOf? handle = some index
  holdings : registry.families[index]? = some (family.changes.foldl Holdings.apply first)

theorem held_register {registry : Registry} (sound : registry.Sound) (session : Session) :
    (founded registry.nextHandle).Held registry.families.length session.toHoldings
      (registry.register session) where
  handles := by
    intro handle
    rw [founded, List.mem_singleton, Registry.familyOf?_append rfl]
    split
    · rename_i last
      exact iff_of_true last rfl
    · rename_i apart
      refine iff_of_false apart fun found => ?_
      -- An earlier member of the new family would be linked to holdings that did not exist.
      obtain ⟨member, place, same⟩ := Option.map_eq_some_iff.mp found
      have known := sound.linked member (List.mem_of_getElem? place)
      rw [same] at known
      exact Nat.lt_irrefl _ known
  holdings := by
    rw [Registry.register, List.getElem?_concat_length]
    rfl

namespace Held

variable {family : Family} {index : Nat} {first : Holdings} {registry : Registry}

theorem not_mem_of_none (held : family.Held index first registry) {handle : Nat}
    (found : registry.members[handle]? = none) : handle ∉ family.handles := by
  rw [held.handles, Registry.familyOf?, found]
  exact nofun

theorem mem_iff_of_member (held : family.Held index first registry) {handle : Nat} {member : Member}
    (found : registry.members[handle]? = some member) :
    handle ∈ family.handles ↔ member.family = index := by
  rw [held.handles, Registry.familyOf?_of_member found, Option.some.injEq]

theorem handles_append (held : family.Held index first registry) {grown : Registry} {added : Member}
    (members : grown.members = registry.members ++ [added]) (other : added.family ≠ index)
    (handle : Nat) : handle ∈ family.handles ↔ grown.familyOf? handle = some index := by
  rw [Registry.familyOf?_append members, held.handles]
  split
  · rename_i last
    rw [last, Registry.familyOf?_nextHandle]
    exact iff_of_false nofun fun same => other (Option.some.inj same)
  · rfl

theorem register (held : family.Held index first registry) (session : Session) :
    family.Held index first (registry.register session) := by
  have inside : index < registry.families.length := (List.getElem?_eq_some_iff.mp held.holdings).1
  refine ⟨held.handles_append rfl (Nat.ne_of_gt inside), ?_⟩
  rw [Registry.register, List.getElem?_append_left inside, held.holdings]

theorem registerMade {ε : Type} (held : family.Held index first registry) (made : Except ε Session) :
    family.Held index first (registry.registerMade made) := by
  rcases registry.registerMade_cases made with ⟨session, -, registered⟩ | refused
  · rw [registered]
    exact held.register session
  · rw [refused]
    exact held

theorem derive (held : family.Held index first registry) (handle : Nat) (principal : Principal)
    (roles : RoleSet) (locale : String) :
    (family.after registry (.derive handle principal roles locale)).Held index first
      (registry.derive handle principal roles locale) := by
  cases found : registry.members[handle]? with
  | none =>
    rw [after, if_neg (held.not_mem_of_none found), Registry.derive, found]
    exact held
  | some member =>
    have related := held.mem_iff_of_member found
    rw [Registry.derive_of_member found, after]
    by_cases same : member.family = index
    · rw [if_pos (related.mpr same)]
      refine ⟨fun other => ?_, held.holdings⟩
      rw [Registry.familyOf?_append rfl, List.mem_append, List.mem_singleton, held.handles]
      split
      · rename_i last
        exact iff_of_true (.inr last) (congrArg some same)
      · rename_i apart
        exact or_iff_left apart
    · rw [if_neg (mt related.mp same)]
      exact ⟨held.handles_append rfl same, held.holdings⟩

theorem mutate (held : family.Held index first registry) (handle : Nat) (mutation : Mutation) :
    (family.after registry (.mutate handle mutation)).Held index first
      (registry.mutate handle mutation) := by
  cases found : registry.members[handle]? with
  | none =>
    rw [after, if_neg (held.not_mem_of_none found), Registry.mutate, found]
    exact held
  | some member =>
    have related := held.mem_iff_of_member found
    have handles : ∀ other, other ∈ family.handles ↔
        (registry.mutate handle mutation).familyOf? other = some index := by
      intro other
      rw [Registry.familyOf?_mutate]
      exact held.handles other
    have families : (registry.mutate handle mutation).families[index]? =
        if member.family = index then
          some ((family.changes.foldl Holdings.apply first).apply mutation)
        else some (family.changes.foldl Holdings.apply first) := by
      rw [Registry.mutate_of_member found]
      simp only [List.getElem?_modify, held.holdings, Option.map_eq_map, Option.map_some]
      split <;> rfl
    rw [after]
    by_cases same : member.family = index
    · rw [if_pos (related.mpr same)]
      refine ⟨handles, ?_⟩
      rw [families, if_pos same, List.foldl_concat]
    · rw [if_neg (mt related.mp same)]
      refine ⟨handles, ?_⟩
      rw [families, if_neg same]

theorem step (held : family.Held index first registry) (command : Command) :
    (family.after registry command).Held index first (registry.step command) := by
  cases command with
  | build builder now => exact held.registerMade _
  | restore snapshot context => exact held.registerMade _
  | parse text => exact held.registerMade _
  | derive handle principal roles locale => exact held.derive handle principal roles locale
  | mutate handle mutation => exact held.mutate handle mutation
  | enter | leave => exact ⟨held.handles, held.holdings⟩

theorem follow (held : family.Held index first registry) (commands : List Command) :
    (family.follow registry commands).Held index first (registry.run commands) := by
  induction commands generalizing family registry with
  | nil => exact held
  | cons command rest ih => exact ih (held.step command)

theorem session (held : family.Held index first registry) {handle : Nat}
    (related : handle ∈ family.handles) :
    ∃ session, registry.session? handle = some session ∧
      session.toHoldings = family.changes.foldl Holdings.apply first := by
  obtain ⟨member, place, same⟩ := Option.map_eq_some_iff.mp ((held.handles handle).mp related)
  refine ⟨⟨member.profile, family.changes.foldl Holdings.apply first⟩, ?_, rfl⟩
  rw [registry.session?_eq_some_iff]
  exact ⟨member, place, same ▸ held.holdings, rfl⟩

end Held

end Family

theorem Registry.familyFrom_held {registry : Registry} (sound : registry.Sound) (root : Session)
    (commands : List Command) :
    (registry.familyFrom root commands).Held registry.families.length root.toHoldings
      ((registry.register root).run commands) :=
  (Family.held_register sound root).follow commands

end Authorization
