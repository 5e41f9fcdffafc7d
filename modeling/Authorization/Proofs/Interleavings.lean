import Authorization.Proofs.Commutation

/-! Confluence of clients. Calls of different clients that are independent can change places in a
schedule without anybody noticing. Any two interleavings of the same clients are therefore one as
good as the other: the same registry comes out, and every call gives its client the same result. -/

set_option autoImplicit false

namespace Authorization

/-! ## Schedules that nobody can tell apart -/

def Indistinct (schedule other : List Turn) : Prop :=
  ∀ registry : Registry, registry.serve schedule = registry.serve other ∧
    ∀ client, registry.outcomesOf client schedule = registry.outcomesOf client other

/-- Turns of one client keep their order; those of different clients are free to change places. -/
def Turn.Free (first second : Turn) : Prop :=
  first.client ≠ second.client ∧ first.call.Independent second.call

namespace Indistinct

variable {schedule other third : List Turn}

theorem refl (schedule : List Turn) : Indistinct schedule schedule :=
  fun _ => ⟨rfl, fun _ => rfl⟩

theorem symm (same : Indistinct schedule other) : Indistinct other schedule :=
  fun registry => ⟨(same registry).1.symm, fun client => ((same registry).2 client).symm⟩

theorem trans (same : Indistinct schedule other) (same' : Indistinct other third) :
    Indistinct schedule third := by
  intro registry
  obtain ⟨served, outcomes⟩ := same registry
  obtain ⟨served', outcomes'⟩ := same' registry
  exact ⟨served.trans served', fun client => (outcomes client).trans (outcomes' client)⟩

theorem cons (turn : Turn) (same : Indistinct schedule other) :
    Indistinct (turn :: schedule) (turn :: other) := by
  intro registry
  obtain ⟨served, outcomes⟩ := same (registry.perform turn.call)
  refine ⟨served, fun client => ?_⟩
  rw [Registry.outcomesOf, Registry.outcomesOf, outcomes client]

theorem swap {first second : Turn} (free : first.Free second) (rest : List Turn) :
    Indistinct (first :: second :: rest) (second :: first :: rest) := by
  intro registry
  have comm := Registry.perform_comm free.2 registry
  constructor
  · show ((registry.perform first.call).perform second.call).serve rest = _
    rw [comm]
    rfl
  · intro client
    simp only [Registry.outcomesOf, comm, Registry.outcome?_perform free.2,
      Registry.outcome?_perform free.2.symm]
    by_cases mine : first.client = client
    · have others : second.client ≠ client := fun same => free.1 (mine.trans same.symm)
      rw [if_neg others, if_neg others]
    · rw [if_neg mine, if_neg mine]

theorem to_front {turn : Turn} {before : List Turn} (free : ∀ earlier ∈ before, earlier.Free turn)
    (after : List Turn) : Indistinct (before ++ turn :: after) (turn :: (before ++ after)) := by
  induction before with
  | nil => exact refl _
  | cons earlier rest ih =>
    obtain ⟨here, later⟩ := List.forall_mem_cons.mp free
    exact ((ih later).cons earlier).trans (swap here _)

end Indistinct

/-! ## Calls by client -/

theorem callsOf_cons (turn : Turn) (rest : List Turn) (client : Nat) :
    callsOf (turn :: rest) client =
      if turn.client = client then turn.call :: callsOf rest client else callsOf rest client := by
  by_cases mine : turn.client = client <;> simp [callsOf, mine]

theorem callsOf_append (first second : List Turn) (client : Nat) :
    callsOf (first ++ second) client = callsOf first client ++ callsOf second client :=
  List.filterMap_append

theorem mem_callsOf_iff (schedule : List Turn) (client : Nat) (call : Call) :
    call ∈ callsOf schedule client ↔ ⟨client, call⟩ ∈ schedule := by
  rw [callsOf, List.mem_filterMap]
  constructor
  · rintro ⟨turn, member, mine⟩
    obtain ⟨rfl, same⟩ := Option.ite_none_right_eq_some.mp mine
    rw [← Option.some.inj same]
    exact member
  · intro member
    exact ⟨⟨client, call⟩, member, if_pos rfl⟩

theorem eq_nil_of_callsOf {schedule : List Turn} (none : ∀ client, callsOf schedule client = []) :
    schedule = [] := by
  refine List.eq_nil_iff_forall_not_mem.mpr fun turn member => ?_
  have called := (mem_callsOf_iff schedule turn.client turn.call).mpr member
  rw [none] at called
  exact List.not_mem_nil called

theorem exists_split_of_callsOf_eq_cons {schedule : List Turn} {client : Nat} {call : Call}
    {calls : List Call} (first : callsOf schedule client = call :: calls) :
    ∃ before after, schedule = before ++ ⟨client, call⟩ :: after ∧
      ∀ earlier ∈ before, earlier.client ≠ client := by
  obtain ⟨before, turn, after, rfl, others, mine, -⟩ := List.filterMap_eq_cons_iff.mp first
  obtain ⟨rfl, same⟩ := Option.ite_none_right_eq_some.mp mine
  rw [← Option.some.inj same]
  exact ⟨before, after, rfl, fun earlier member theirs => by simpa [theirs] using others earlier member⟩

/-! ## Confluence -/

/-- Schedules with the same calls of each client cannot be told apart if turns of different clients
are free. -/
theorem Indistinct.of_same_calls {schedule other : List Turn}
    (same : ∀ client, callsOf schedule client = callsOf other client)
    (free : ∀ turn ∈ schedule, ∀ later ∈ schedule, turn.client ≠ later.client → turn.Free later) :
    Indistinct schedule other := by
  induction schedule generalizing other with
  | nil =>
    rw [eq_nil_of_callsOf fun client => (same client).symm]
    exact .refl []
  | cons turn rest ih =>
    have first := (same turn.client).symm
    rw [callsOf_cons, if_pos rfl] at first
    obtain ⟨before, after, rfl, others⟩ := exists_split_of_callsOf_eq_cons first
    -- The other schedule comes to this turn later, but what it has before is by other clients.
    have free' : ∀ earlier ∈ before, earlier.Free turn := by
      intro earlier member
      refine free earlier ?_ turn List.mem_cons_self (others earlier member)
      rw [← mem_callsOf_iff, same, mem_callsOf_iff]
      exact List.mem_append_left _ member
    have same' : ∀ client, callsOf rest client = callsOf (before ++ after) client := by
      intro client
      have whole := same client
      simp only [callsOf_append, callsOf_cons] at whole ⊢
      by_cases mine : turn.client = client
      · have none : callsOf before client = [] := by
          refine List.filterMap_eq_nil_iff.mpr fun earlier member => if_neg ?_
          rw [← mine]
          exact others earlier member
        simpa [mine, none] using whole
      · simpa [mine] using whole
    have rest' := ih same' fun turn member later member' =>
      free turn (List.mem_cons_of_mem _ member) later (List.mem_cons_of_mem _ member')
    exact (rest'.cons turn).trans (to_front free' after).symm

theorem independent_of_places {clients : List (List Call)}
    (independent : clients.Pairwise fun calls others =>
      ∀ call ∈ calls, ∀ other ∈ others, call.Independent other)
    {client client' : Nat} {calls calls' : List Call} (found : clients[client]? = some calls)
    (found' : clients[client']? = some calls') (apart : client ≠ client') :
    ∀ call ∈ calls, ∀ other ∈ calls', call.Independent other := by
  obtain ⟨inside, rfl⟩ := List.getElem?_eq_some_iff.mp found
  obtain ⟨inside', rfl⟩ := List.getElem?_eq_some_iff.mp found'
  have ordered := List.pairwise_iff_getElem.mp independent
  rcases Nat.lt_or_gt_of_ne apart with before | behind
  · exact ordered client client' inside inside' before
  · intro call member other member'
    exact (ordered client' client inside' inside behind other member' call member).symm

namespace Registry

theorem isSome_of_mem_outcomesOf {registry : Registry} {schedule : List Turn}
    (known : ∀ turn ∈ schedule, (registry.session? turn.call.handle).isSome = true) {client : Nat}
    {outcome : Option Outcome} (returned : outcome ∈ registry.outcomesOf client schedule) :
    outcome.isSome = true := by
  induction schedule generalizing registry with
  | nil => exact absurd returned List.not_mem_nil
  | cons turn rest ih =>
    obtain ⟨here, later⟩ := List.forall_mem_cons.mp known
    have known' : ∀ later ∈ rest,
        ((registry.perform turn.call).session? later.call.handle).isSome = true := by
      intro other member
      rw [perform, session?_mutate, Option.isSome_map]
      exact later other member
    rw [outcomesOf] at returned
    split at returned
    · rcases List.mem_cons.mp returned with rfl | returned
      · rw [outcome?, Option.isSome_map]
        exact here
      · exact ih known' returned
    · exact ih known' returned

/-- Let clients call sessions of a registry, and let whatever two of them touch in common only be
granted on. Then all interleavings of their calls end in the same registry, with the same sessions,
and every call returns the same to its client, which is a result if the session exists. -/
theorem confluent_of_interleaves (registry : Registry) (clients : List (List Call))
    (independent : clients.Pairwise fun calls others =>
      ∀ call ∈ calls, ∀ other ∈ others, call.Independent other)
    (schedule schedule' : List Turn) (interleaved : Interleaves clients schedule)
    (interleaved' : Interleaves clients schedule') :
    registry.serve schedule = registry.serve schedule' ∧
    (∀ client, registry.outcomesOf client schedule = registry.outcomesOf client schedule') ∧
    ((∀ calls ∈ clients, ∀ call ∈ calls, (registry.session? call.handle).isSome = true) →
      ∀ client, ∀ outcome ∈ registry.outcomesOf client schedule, outcome.isSome = true) := by
  have mine : ∀ turn ∈ schedule, ∃ calls, clients[turn.client]? = some calls ∧ turn.call ∈ calls := by
    intro turn member
    have called := (mem_callsOf_iff schedule turn.client turn.call).mpr member
    rw [interleaved turn.client] at called
    cases found : clients[turn.client]? with
    | none => simp [found] at called
    | some calls => exact ⟨calls, rfl, by simpa [found] using called⟩
  have free : ∀ turn ∈ schedule, ∀ later ∈ schedule, turn.client ≠ later.client →
      turn.Free later := by
    intro turn member later member' apart
    obtain ⟨calls, found, inside⟩ := mine turn member
    obtain ⟨calls', found', inside'⟩ := mine later member'
    exact ⟨apart, independent_of_places independent found found' apart turn.call inside later.call
      inside'⟩
  have same : ∀ client, callsOf schedule client = callsOf schedule' client :=
    fun client => (interleaved client).trans (interleaved' client).symm
  obtain ⟨served, outcomes⟩ := Indistinct.of_same_calls same free registry
  refine ⟨served, outcomes, fun known client outcome => isSome_of_mem_outcomesOf ?_⟩
  intro turn member
  obtain ⟨calls, found, inside⟩ := mine turn member
  exact known calls (List.mem_of_getElem? found) turn.call inside

/-- Two clients of a session and of one derived from it, with grants that meet under an alias. -/
theorem confluent_of_interleaves_alias :
    let registry := (Registry.empty.register (SessionBuilder.empty.sessionFor (.ofNat 1)
      ⟨.ofNat 2, "ada", none, none, none⟩ ⟨⟨2024, 1, 2⟩, 3, 4, 5, 0⟩)).derive 0
        ⟨.ofNat 3, "grace", none, none, none⟩ .empty "de"
    let granting : Call := ⟨0, .grant .screen "orders" (some "invoices") ⟨5, by decide, by decide⟩⟩
    let adding : Call := ⟨0, .addConstraint (.ofId (.ofNat 7) "order")⟩
    let removing : Call := ⟨0, .removeConstraint "order" (.ofNat 7)⟩
    let lowering : Call := ⟨1, .grant .screen "invoices" none .deny⟩
    let keeping : Call := ⟨1, .setLocal "cart" (.u32 4)⟩
    let first : List Turn := [⟨0, granting⟩, ⟨0, adding⟩, ⟨0, removing⟩, ⟨1, lowering⟩, ⟨1, keeping⟩]
    let second : List Turn := [⟨1, lowering⟩, ⟨0, granting⟩, ⟨0, adding⟩, ⟨1, keeping⟩, ⟨0, removing⟩]
    registry.serve first = registry.serve second ∧
      (∀ client, registry.outcomesOf client first = registry.outcomesOf client second) ∧
      ∀ client, ∀ outcome ∈ registry.outcomesOf client first, outcome.isSome = true := by
  intro registry granting adding removing lowering keeping first second
  have independent : [[granting, adding, removing], [lowering, keeping]].Pairwise
      fun calls others => ∀ call ∈ calls, ∀ other ∈ others, call.Independent other := by
    decide +kernel
  have known : ∀ calls ∈ [[granting, adding, removing], [lowering, keeping]], ∀ call ∈ calls,
      (registry.session? call.handle).isSome = true := by
    decide +kernel
  obtain ⟨served, outcomes, answered⟩ := registry.confluent_of_interleaves
    [[granting, adding, removing], [lowering, keeping]] independent first second
    (by rintro (_ | _ | client) <;> rfl) (by rintro (_ | _ | client) <;> rfl)
  exact ⟨served, outcomes, answered known⟩

end Registry

end Authorization
