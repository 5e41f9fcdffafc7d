import Authorization.Session.Builder

/-! Requests and overrides. What overrides hold for a session is told by the last change that concerns
it: the values that were entered, or nothing once any request has left. Overlapping requests for one
session therefore take each other's values away. -/

set_option autoImplicit false

namespace Authorization

theorem exists_last {α : Type} (rule : α → Prop) [DecidablePred rule] {list : List α}
    (some : ∃ value ∈ list, rule value) :
    ∃ front value back, list = front ++ value :: back ∧ rule value ∧ ∀ later ∈ back, ¬ rule later := by
  induction list with
  | nil => simp at some
  | cons first rest ih =>
    by_cases later : ∃ value ∈ rest, rule value
    · obtain ⟨front, value, back, rfl, holds, none⟩ := ih later
      exact ⟨first :: front, value, back, rfl, holds, none⟩
    · have none : ∀ value ∈ rest, ¬ rule value := by simpa using later
      obtain ⟨value, member, holds⟩ := some
      rcases List.mem_cons.mp member with rfl | inside
      · exact ⟨[], value, rest, rfl, holds, none⟩
      · exact absurd holds (none value inside)

/-! ## Changes -/

namespace RequestOverrides

variable {overrides : RequestOverrides} {session : SessionId}

theorem values?_empty (session : SessionId) : empty.values? session = none := by
  simp [values?, empty]

theorem values?_apply (overrides : RequestOverrides) (change : OverrideChange)
    (session : SessionId) :
    (overrides.apply change).values? session =
      if change.session = session then change.values? else overrides.values? session := by
  cases change with
  | enter entered values => exact overrides.values?_enter entered session values
  | leave left => exact overrides.values?_leave left session

theorem run_append (overrides : RequestOverrides) (before after : List OverrideChange) :
    overrides.run (before ++ after) = (overrides.run before).run after := by
  rw [run, run, run, List.foldl_append]

theorem values?_run_of_apart {changes : List OverrideChange}
    (apart : ∀ change ∈ changes, change.session ≠ session) :
    (overrides.run changes).values? session = overrides.values? session := by
  induction changes generalizing overrides with
  | nil => rfl
  | cons change rest ih =>
    rw [List.forall_mem_cons] at apart
    show ((overrides.apply change).run rest).values? session = _
    rw [ih apart.2, values?_apply, if_neg apart.1]

theorem values?_run_last (overrides : RequestOverrides) (before : List OverrideChange)
    (last : OverrideChange) {after : List OverrideChange}
    (apart : ∀ change ∈ after, change.session ≠ last.session) :
    (overrides.run (before ++ last :: after)).values? last.session = last.values? := by
  rw [run_append]
  show (((overrides.run before).apply last).run after).values? last.session = _
  rw [values?_run_of_apart apart, values?_apply, if_pos rfl]

theorem values?_run_eq_none (gone : overrides.values? session = none)
    {changes : List OverrideChange} (closed : ∀ values, .enter session values ∉ changes) :
    (overrides.run changes).values? session = none := by
  induction changes generalizing overrides with
  | nil => exact gone
  | cons change rest ih =>
    refine ih ?_ fun values member => closed values (List.mem_cons_of_mem _ member)
    rw [values?_apply]
    split
    · rename_i concerned
      cases change with
      | enter entered values =>
        have same : entered = session := concerned
        subst same
        exact absurd List.mem_cons_self (closed values)
      | leave left => rfl
    · exact gone

theorem values?_run_of_inForce {changes : List OverrideChange} {values : Environment}
    (inForce : OverrideChange.InForce changes session values) :
    (overrides.run changes).values? session = some values := by
  obtain ⟨before, after, rfl, apart⟩ := inForce
  exact overrides.values?_run_last before (.enter session values) apart

theorem values?_run_of_not_inForce {changes : List OverrideChange}
    (lapsed : ∀ values, ¬ OverrideChange.InForce changes session values) :
    (empty.run changes).values? session = none := by
  by_cases concerned : ∃ change ∈ changes, change.session = session
  · obtain ⟨before, last, after, rfl, rfl, apart⟩ :=
      exists_last (fun change : OverrideChange => change.session = session) concerned
    rw [values?_run_last empty before last apart]
    cases last with
    | enter entered values => exact absurd ⟨before, after, rfl, apart⟩ (lapsed values)
    | leave left => rfl
  · have apart : ∀ change ∈ changes, change.session ≠ session := by simpa using concerned
    rw [values?_run_of_apart apart, values?_empty]

end RequestOverrides

namespace Profile

theorem environmentValue_of_overrides {profile : Profile}
    (consults : profile.context.scope = .overrides) (overrides : RequestOverrides)
    (field : EnvironmentField) :
    profile.environmentValue overrides field =
      ((overrides.values? profile.id).bind (·.get field)).or (profile.environment.get field) := by
  rw [environmentValue, consults]
  rfl

end Profile

/-! ## Requests -/

namespace RequestStep

variable {requests : List Request} {session : SessionId} {step : RequestStep}

instance : DecidablePred (Concerns requests session) := fun step =>
  inferInstanceAs (Decidable (∃ request ∈ requests[step.place]?, request.session = session))

theorem session_of_change? {change : OverrideChange} (does : step.change? requests = some change)
    (apart : ¬ step.Concerns requests session) : change.session ≠ session := by
  cases step with
  | enters place | leaves place =>
    obtain ⟨request, found, rfl⟩ := Option.map_eq_some_iff.mp does
    exact fun same => apart ⟨request, found, same⟩

theorem apart_of_filterMap {steps : List RequestStep}
    (apart : ∀ step ∈ steps, ¬ step.Concerns requests session) :
    ∀ change ∈ steps.filterMap (change? requests), change.session ≠ session := by
  intro change member
  obtain ⟨step, present, does⟩ := List.mem_filterMap.mp member
  exact session_of_change? does (apart step present)

end RequestStep

section

variable {requests : List Request} {session : SessionId}

theorem values?_overridesAfter_of_enters (before : List RequestStep) {after : List RequestStep}
    {place : Nat} {request : Request} (found : requests[place]? = some request)
    (apart : ∀ step ∈ after, ¬ step.Concerns requests request.session) :
    (overridesAfter requests (before ++ .enters place :: after)).values? request.session =
      some request.values := by
  have does : RequestStep.change? requests (.enters place) =
      some (.enter request.session request.values) := by
    rw [RequestStep.change?, found, Option.map_some]
  rw [overridesAfter, List.filterMap_append, List.filterMap_cons_some does]
  exact RequestOverrides.empty.values?_run_last _ (.enter request.session request.values)
    (RequestStep.apart_of_filterMap apart)

theorem values?_overridesAfter_of_hasLapsed {past : List RequestStep}
    (lapsed : HasLapsed requests past session) :
    (overridesAfter requests past).values? session = none := by
  obtain ⟨before, place, after, rfl, ⟨request, found, rfl⟩, closed⟩ := lapsed
  have found : requests[place]? = some request := found
  have does : RequestStep.change? requests (.leaves place) = some (.leave request.session) := by
    rw [RequestStep.change?, found, Option.map_some]
  have gone : ((RequestOverrides.empty.run (before.filterMap (RequestStep.change? requests))).apply
      (.leave request.session)).values? request.session = none := by
    rw [RequestOverrides.values?_apply]
    exact if_pos rfl
  have none : ∀ values,
      .enter request.session values ∉ after.filterMap (RequestStep.change? requests) := by
    intro values member
    obtain ⟨step, present, enters⟩ := List.mem_filterMap.mp member
    cases step with
    | enters other =>
      obtain ⟨request', found', same⟩ := Option.map_eq_some_iff.mp enters
      exact closed other present ⟨request', found', by injection same⟩
    | leaves other =>
      obtain ⟨request', -, same⟩ := Option.map_eq_some_iff.mp enters
      cases same
  rw [overridesAfter, List.filterMap_append, List.filterMap_cons_some does,
    RequestOverrides.run_append]
  exact RequestOverrides.values?_run_eq_none gone none

/-- A request that has entered, as the last one to do anything, is still there: it leaves after it has
entered, and so it has not left yet. -/
theorem not_mem_of_serves {schedule front back : List RequestStep} {place : Nat}
    (serves : Serves requests schedule) (split : schedule = front ++ .enters place :: back) :
    .leaves place ∉ front := by
  intro early
  have inside : place < requests.length :=
    serves.2 (.enters place) (by rw [split]; exact List.mem_append_right _ List.mem_cons_self)
  have own := serves.1 place inside
  rw [split, List.filter_append, List.filter_cons_of_pos (by simp [RequestStep.place])] at own
  have left : .leaves place ∈ front.filter (·.place = place) :=
    List.mem_filter.mpr ⟨early, by simp [RequestStep.place]⟩
  -- Two steps are too few for a leaving before the entering.
  cases steps : front.filter (·.place = place) with
  | nil =>
    rw [steps] at left
    cases left
  | cons first rest =>
    rw [steps, List.cons_append] at own
    obtain ⟨rfl, others⟩ := List.cons.inj own
    cases rest with
    | nil => cases (List.cons.inj others).1
    | cons second rest => simp at others

/-- If no request for a session has left since the last one entered, that one is active, and its values
are there. -/
theorem exists_active_of_not_hasLapsed {schedule past future : List RequestStep}
    (serves : Serves requests schedule) (split : schedule = past ++ future)
    (concerned : ∃ step ∈ past, step.Concerns requests session)
    (current : ¬ HasLapsed requests past session) :
    ∃ place request, IsActive requests past session place request ∧
      (overridesAfter requests past).values? session = some request.values := by
  obtain ⟨front, last, back, rfl, concerns, apart⟩ :=
    exists_last (RequestStep.Concerns requests session) concerned
  cases last with
  | leaves place => exact absurd ⟨front, place, back, rfl, concerns, fun _ => apart _⟩ current
  | enters place =>
    obtain ⟨request, found, rfl⟩ := concerns
    have found : requests[place]? = some request := found
    have split' : schedule = front ++ .enters place :: (back ++ future) := by
      rw [split, List.append_assoc, List.cons_append]
    have active : .leaves place ∉ front ++ .enters place :: back := by
      intro left
      rcases List.mem_append.mp left with early | late
      · exact not_mem_of_serves serves split' early
      · rcases List.mem_cons.mp late with same | inside
        · cases same
        · exact apart _ inside ⟨request, found, rfl⟩
    exact ⟨place, request,
      ⟨found, rfl, List.mem_append_right _ List.mem_cons_self, active⟩,
      values?_overridesAfter_of_enters front found apart⟩

end

namespace Profile

/-- While some requests for a session are active, all of which supply a field, the session shows what
one of them supplies, as long as no request for it has left since the last one entered. From then on
until another one enters it shows its stored value. -/
theorem environmentValue_of_overlapping (requests : List Request)
    (schedule past future : List RequestStep) (serves : Serves requests schedule)
    (split : schedule = past ++ future) (profile : Profile)
    (consults : profile.context.scope = .overrides) (field : EnvironmentField)
    (busy : ∃ place request, IsActive requests past profile.id place request)
    (supplied : ∀ place request, IsActive requests past profile.id place request →
      request.values.get field ≠ none) :
    (¬ HasLapsed requests past profile.id →
      ∃ place request, IsActive requests past profile.id place request ∧
        profile.environmentValue (overridesAfter requests past) field = request.values.get field) ∧
    (HasLapsed requests past profile.id →
      profile.environmentValue (overridesAfter requests past) field =
        profile.environment.get field) := by
  rw [profile.environmentValue_of_overrides consults]
  constructor
  · intro current
    obtain ⟨somebody, request, found, own, entered, -⟩ := busy
    obtain ⟨place, request', active, values⟩ :=
      exists_active_of_not_hasLapsed serves split ⟨.enters somebody, entered, request, found, own⟩
        current
    obtain ⟨value, known⟩ := Option.ne_none_iff_exists'.mp (supplied place request' active)
    refine ⟨place, request', active, ?_⟩
    rw [values, Option.bind_some, known, Option.some_or]
  · intro lapsed
    rw [values?_overridesAfter_of_hasLapsed lapsed, Option.bind_none, Option.none_or]

def english : Profile :=
  ({ SessionBuilder.empty with
    environment := { Environment.empty with locale := some "en" }
    context := ⟨staticRules, .overrides⟩ }.sessionFor (.ofNat 1)
      ⟨.ofNat 2, "ada", none, none, none⟩ ⟨⟨2024, 1, 2⟩, 3, 4, 5, 0⟩).toProfile

/-- Of two requests that overlap, one counts until one leaves, and then neither does. -/
theorem environmentValue_of_overlapping_two :
    let requests : List Request := [
      ⟨.ofNat 1, { Environment.empty with locale := some "fr" }⟩,
      ⟨.ofNat 1, { Environment.empty with locale := some "de" }⟩]
    let past : List RequestStep := [.enters 0, .enters 1]
    Serves requests (past ++ [.leaves 0, .leaves 1]) ∧
      (∃ place request, IsActive requests past english.id place request ∧
        english.environmentValue (overridesAfter requests past) .locale =
          request.values.get .locale) ∧
      english.environmentValue (overridesAfter requests (past ++ [.leaves 0])) .locale =
        some "en" := by
  intro requests past
  have serves : Serves requests (past ++ [.leaves 0, .leaves 1]) := by decide
  have localized : ∀ request ∈ requests, request.values.get .locale ≠ none := by decide
  have supplied : ∀ past place request, IsActive requests past english.id place request →
      request.values.get .locale ≠ none :=
    fun _ _ request active => localized request (List.mem_of_getElem? active.1)
  refine ⟨serves, ?_, ?_⟩
  · obtain ⟨current, -⟩ := environmentValue_of_overlapping requests _ past _ serves rfl english rfl
      .locale ⟨1, _, rfl, rfl, by decide, by decide⟩ (supplied past)
    refine current ?_
    rintro ⟨before, place, after, split, -⟩
    have left : .leaves place ∈ past := by
      rw [split]
      exact List.mem_append_right _ List.mem_cons_self
    simp [past] at left
  · obtain ⟨-, lapsed⟩ := environmentValue_of_overlapping requests _ (past ++ [.leaves 0])
      [.leaves 1] serves rfl english rfl .locale ⟨1, _, rfl, rfl, by decide, by decide⟩
      (supplied _)
    exact lapsed ⟨past, 0, [], rfl, ⟨_, rfl, rfl⟩, fun _ member => nomatch member⟩

/-- A request loses its locale to the leaving of another one that had the same. -/
theorem locale_lost_while_active :
    let requests : List Request := [
      ⟨.ofNat 1, { Environment.empty with locale := some "fr" }⟩,
      ⟨.ofNat 1, { Environment.empty with locale := some "fr" }⟩]
    let past : List RequestStep := [.enters 0, .enters 1, .leaves 1]
    Serves requests (past ++ [.leaves 0]) ∧
      (∃ place request, IsActive requests past english.id place request) ∧
      (∀ place request, IsActive requests past english.id place request →
        request.values.get .locale = some "fr") ∧
      english.environmentValue (overridesAfter requests past) .locale =
        english.environment.get .locale ∧
      english.environment.get .locale = some "en" := by
  intro requests past
  have french : ∀ request ∈ requests, request.values.get .locale = some "fr" := by decide
  refine ⟨by decide, ⟨0, _, rfl, rfl, by decide, by decide⟩, ?_, by decide +kernel, rfl⟩
  exact fun _ request active => french request (List.mem_of_getElem? active.1)

end Profile

end Authorization
