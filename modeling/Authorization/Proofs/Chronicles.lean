import Authorization.Proofs.Effects

/-! The changes behind what a session holds. They went through the session and through those that
share its holdings; those of a restored session start with what its snapshot had seen. A chronicle
follows a run of an archive and keeps them for every session and every snapshot. -/

set_option autoImplicit false

namespace Authorization

/-! ## Attributes

Under every name stands the value that was set last, unless it was removed since; the store does not
know that some names are reserved. -/

theorem split_concat_iff {α : Type} {list : List α} {last : α} {clear : α → Prop} (wanted : α) :
    (∃ before after, list ++ [last] = before ++ wanted :: after ∧ ∀ later ∈ after, clear later) ↔
      last = wanted ∨ clear last ∧
        ∃ before after, list = before ++ wanted :: after ∧ ∀ later ∈ after, clear later := by
  constructor
  · rintro ⟨before, after, split, untouched⟩
    rcases List.eq_nil_or_concat after with rfl | ⟨after, last', rfl⟩
    · exact .inl (List.append_singleton_inj.mp split).2
    · rw [List.concat_eq_append] at split untouched
      rw [← List.cons_append, ← List.append_assoc] at split
      obtain ⟨rfl, rfl⟩ := List.append_singleton_inj.mp split
      rw [List.forall_mem_append, List.forall_mem_singleton] at untouched
      exact .inr ⟨untouched.2, before, after, rfl, untouched.1⟩
  · rintro (rfl | ⟨other, before, after, rfl, untouched⟩)
    · exact ⟨list, [], rfl, fun _ member => nomatch member⟩
    · refine ⟨before, after ++ [last], ?_, ?_⟩
      · rw [List.append_assoc, List.cons_append]
      · rw [List.forall_mem_append, List.forall_mem_singleton]
        exact ⟨untouched, other⟩

/-- Some change sets the attribute to the value, and no later one sets or removes it. -/
def LastSet (name : String) (value : Json) (history : List Mutation) : Prop :=
  ∃ before after, history = before ++ .setAttribute name value :: after ∧
    ∀ later ∈ after, later ≠ .removeAttribute name ∧ ∀ other, later ≠ .setAttribute name other

namespace Mutation

theorem attributeWrite?_eq_set_iff (change : Mutation) (name : String) (value : Json) :
    change.attributeWrite? = some (name, some value) ↔ change = .setAttribute name value := by
  cases change <;> simp [attributeWrite?]

theorem attributeWrite?_ne_iff (change : Mutation) (name : String) :
    change.attributeWrite?.map Prod.fst ≠ some name ↔
      change ≠ .removeAttribute name ∧ ∀ value, change ≠ .setAttribute name value := by
  cases change <;> simp [attributeWrite?]

end Mutation

section

variable {name : String} {value : Json} {history : List Mutation}

theorem not_lastSet_nil : ¬ LastSet name value [] := by
  rintro ⟨before, after, split, -⟩
  exact List.append_ne_nil_of_right_ne_nil before (List.cons_ne_nil _ _) split.symm

theorem lastSet_append {last : Mutation} :
    LastSet name value (history ++ [last]) ↔
      last = .setAttribute name value ∨
        (last ≠ .removeAttribute name ∧ ∀ other, last ≠ .setAttribute name other) ∧
          LastSet name value history := by
  simp only [LastSet, split_concat_iff]

end

def DurableAttributes.Records (attributes : DurableAttributes) (history : List Mutation) : Prop :=
  ∀ name value, attributes[name]? = some value ↔ LastSet name value history

namespace DurableAttributes.Records

variable {holdings : Holdings} {history : List Mutation}

theorem empty : DurableAttributes.Records ∅ [] := by
  intro name value
  rw [Std.ExtTreeMap.getElem?_empty]
  exact iff_of_false nofun not_lastSet_nil

theorem apply (records : DurableAttributes.Records holdings.attributes history) (change : Mutation) :
    DurableAttributes.Records (holdings.apply change).attributes (history ++ [change]) := by
  intro name value
  rw [Holdings.getElem?_attributes_apply, lastSet_append, ← records name value,
    ← change.attributeWrite?_eq_set_iff, ← change.attributeWrite?_ne_iff]
  cases write : change.attributeWrite? with
  | none => simp [afterWrite]
  | some written =>
    obtain ⟨other, stored⟩ := written
    by_cases here : other = name
    · simp [afterWrite, here]
    · simp [afterWrite, here]

theorem foldl (records : DurableAttributes.Records holdings.attributes history)
    (changes : List Mutation) :
    DurableAttributes.Records (changes.foldl Holdings.apply holdings).attributes
      (history ++ changes) :=
  Holdings.foldl_apply_of_step
    (P := fun holdings history => DurableAttributes.Records holdings.attributes history)
    (fun records change => records.apply change) records changes

end DurableAttributes.Records

/-! ## Chronicles -/

/-- A family, and the changes that its founder brought along. -/
structure Lineage where
  inherited : List Mutation
  family : Family

structure Chronicle where
  lineages : List Lineage
  /-- For every snapshot taken the history of its session up to then. -/
  captured : List (List Mutation)

def Lineage.history (lineage : Lineage) : List Mutation := lineage.inherited ++ lineage.family.changes

def Lineage.after (lineage : Lineage) (registry : Registry) (command : Command) : Lineage :=
  { lineage with family := lineage.family.after registry command }

namespace Chronicle

def empty : Chronicle := ⟨[], []⟩

/-- The changes that a session or one that shared its holdings went through, the earliest first. -/
def historyOf (chronicle : Chronicle) (handle : Nat) : List Mutation :=
  ((chronicle.lineages.find? fun lineage => lineage.family.handles.contains handle).map
    Lineage.history).getD []

def found {ε : Type} (chronicle : Chronicle) (registry : Registry) (inherited : List Mutation) :
    Except ε Session → Chronicle
  | .ok _ =>
    { chronicle with
      lineages := chronicle.lineages ++ [⟨inherited, .founded registry.nextHandle⟩] }
  | .error _ => chronicle

def advance (chronicle : Chronicle) (registry : Registry) (command : Command) : Chronicle :=
  { chronicle with lineages := chronicle.lineages.map (·.after registry command) }

def after (chronicle : Chronicle) (archive : Archive) : ArchiveCommand → Chronicle
  | .build builder now => chronicle.found archive.registry [] (builder.build now)
  | .derive handle principal roles locale =>
    chronicle.advance archive.registry (.derive handle principal roles locale)
  | .mutate handle mutation => chronicle.advance archive.registry (.mutate handle mutation)
  | .capture handle =>
    match archive.registry.session? handle with
    | some _ => { chronicle with captured := chronicle.captured ++ [chronicle.historyOf handle] }
    | none => chronicle
  | .restore place context =>
    match archive.snapshots[place]?, chronicle.captured[place]? with
    | some snapshot, some history =>
      chronicle.found archive.registry history (snapshot.restore context)
    | _, _ => chronicle

def follow (chronicle : Chronicle) (archive : Archive) : List ArchiveCommand → Chronicle
  | [] => chronicle
  | command :: rest => (chronicle.after archive command).follow (archive.step command) rest

def of (commands : List ArchiveCommand) : Chronicle := empty.follow .empty commands

end Chronicle

structure Holdings.Records (holdings : Holdings) (history : List Mutation) : Prop where
  levels : holdings.permissions.Records history
  attributes : DurableAttributes.Records holdings.attributes history

namespace Holdings.Records

variable {holdings : Holdings} {history : List Mutation}

theorem empty : Holdings.empty.Records [] := ⟨.empty, .empty⟩

theorem foldl (records : holdings.Records history) (changes : List Mutation) :
    (changes.foldl Holdings.apply holdings).Records (history ++ changes) :=
  ⟨records.levels.foldl changes, records.attributes.foldl changes⟩

end Holdings.Records

structure SessionSnapshot.Records (snapshot : SessionSnapshot) (history : List Mutation) : Prop where
  levels : (PermissionTable.ofSnapshot snapshot.permissions).Records history
  attributes : DurableAttributes.Records snapshot.attributes history

theorem SessionSnapshot.Records.restored {snapshot : SessionSnapshot} {history : List Mutation}
    (records : snapshot.Records history) {context : AccessContext} {session : Session}
    (made : snapshot.restore context = .ok session) : session.toHoldings.Records history := by
  obtain ⟨-, -, constraints, -, rfl⟩ := (restore_eq_ok_iff snapshot context session).mp made
  exact ⟨records.levels, records.attributes⟩

def Lineage.Kept (lineage : Lineage) (index : Nat) (registry : Registry) : Prop :=
  ∃ first : Holdings, lineage.family.Held index first registry ∧ first.Records lineage.inherited

namespace Lineage.Kept

variable {lineage : Lineage} {index : Nat} {registry : Registry}

theorem after (kept : lineage.Kept index registry) (command : Command) :
    (lineage.after registry command).Kept index (registry.step command) := by
  obtain ⟨first, held, inherited⟩ := kept
  exact ⟨first, held.step command, inherited⟩

theorem register (kept : lineage.Kept index registry) (session : Session) :
    lineage.Kept index (registry.register session) := by
  obtain ⟨first, held, inherited⟩ := kept
  exact ⟨first, held.register session, inherited⟩

theorem records (kept : lineage.Kept index registry) {handle : Nat} {session : Session}
    (found : registry.session? handle = some session) (related : handle ∈ lineage.family.handles) :
    session.toHoldings.Records lineage.history := by
  obtain ⟨first, held, inherited⟩ := kept
  obtain ⟨session', found', holdings⟩ := held.session related
  rw [found] at found'
  cases found'
  rw [holdings]
  exact inherited.foldl lineage.family.changes

end Lineage.Kept

namespace Chronicle

/-- The chronicle has a lineage for all holdings, and a history for every snapshot. -/
structure Keeps (chronicle : Chronicle) (archive : Archive) : Prop where
  sound : archive.registry.Sound
  count : chronicle.lineages.length = archive.registry.families.length
  lineages : ∀ (index : Nat) (lineage : Lineage), chronicle.lineages[index]? = some lineage →
    lineage.Kept index archive.registry
  snapshots : List.Forall₂ SessionSnapshot.Records archive.snapshots chronicle.captured

theorem keeps_empty : empty.Keeps .empty where
  sound := Registry.sound_empty
  count := rfl
  lineages := fun _ _ known => nomatch known
  snapshots := .nil

namespace Keeps

variable {chronicle : Chronicle} {archive : Archive}

theorem holdings (keeps : chronicle.Keeps archive) {handle : Nat} {session : Session}
    (found : archive.registry.session? handle = some session) :
    session.toHoldings.Records (chronicle.historyOf handle) := by
  rw [historyOf]
  cases search : chronicle.lineages.find? fun lineage => lineage.family.handles.contains handle with
  | none =>
    -- The lineage of the session's holdings would have been found.
    obtain ⟨member, place, -, -⟩ := (Registry.session?_eq_some_iff ..).mp found
    have inside : member.family < chronicle.lineages.length :=
      keeps.count ▸ keeps.sound.linked member (List.mem_of_getElem? place)
    have known := List.getElem?_eq_getElem inside
    obtain ⟨first, held, -⟩ := keeps.lineages _ _ known
    have related := (held.mem_iff_of_member place).mpr rfl
    exact absurd (List.contains_iff_mem.mpr related)
      (List.find?_eq_none.mp search _ (List.mem_of_getElem? known))
  | some lineage =>
    obtain ⟨index, known⟩ := List.mem_iff_getElem?.mp (List.mem_of_find?_eq_some search)
    have related := List.find?_some search
    exact (keeps.lineages index lineage known).records found (List.contains_iff_mem.mp related)

theorem records (keeps : chronicle.Keeps archive) {handle : Nat} {session : Session}
    (found : archive.registry.session? handle = some session) :
    session.permissions.Records (chronicle.historyOf handle) := (keeps.holdings found).levels

theorem found {ε : Type} (keeps : chronicle.Keeps archive) {made : Except ε Session}
    {inherited : List Mutation} (sound : (archive.registry.registerMade made).Sound)
    (brings : ∀ session, made = .ok session → session.toHoldings.Records inherited) :
    (chronicle.found archive.registry inherited made).Keeps
      { archive with registry := archive.registry.registerMade made } := by
  cases made with
  | error fault => exact keeps
  | ok session =>
    refine ⟨sound, ?_, fun index lineage known => ?_, keeps.snapshots⟩
    · show (chronicle.lineages ++ [_]).length = (archive.registry.families ++ [_]).length
      rw [List.length_append, List.length_append, keeps.count]
      rfl
    · change (chronicle.lineages ++ [_])[index]? = some lineage at known
      rw [getElem?_concat] at known
      split at known
      · rename_i last
        cases known
        rw [last, keeps.count]
        exact ⟨session.toHoldings, Family.held_register keeps.sound session, brings session rfl⟩
      · exact (keeps.lineages index lineage known).register session

theorem advance (keeps : chronicle.Keeps archive) (command : Command)
    (count : (archive.registry.step command).families.length = archive.registry.families.length) :
    (chronicle.advance archive.registry command).Keeps (archive.perform command) where
  sound := keeps.sound.step command
  count := by
    rw [Chronicle.advance, List.length_map, keeps.count, Archive.perform, count]
  lineages := by
    intro index lineage known
    rw [Chronicle.advance, List.getElem?_map] at known
    obtain ⟨before, old, rfl⟩ := Option.map_eq_some_iff.mp known
    exact (keeps.lineages index before old).after command
  snapshots := keeps.snapshots

theorem capture (keeps : chronicle.Keeps archive) (handle : Nat) :
    (chronicle.after archive (.capture handle)).Keeps (archive.step (.capture handle)) := by
  rw [after, Archive.step]
  cases found : archive.registry.session? handle with
  | none => exact keeps
  | some session =>
    have holdings := keeps.holdings found
    have records : session.snapshot.Records _ := ⟨holdings.levels.ofSnapshot, holdings.attributes⟩
    exact ⟨keeps.sound, keeps.count, keeps.lineages,
      List.rel_append keeps.snapshots (.cons records .nil)⟩

theorem restore (keeps : chronicle.Keeps archive) (place : Nat) (context : AccessContext) :
    (chronicle.after archive (.restore place context)).Keeps
      (archive.step (.restore place context)) := by
  rw [after, Archive.step]
  rcases Pairs.place_cases keeps.snapshots place with
    ⟨none, none'⟩ | ⟨snapshot, history, known, known', records⟩
  · rw [none, none']
    exact keeps
  · rw [known, known']
    exact keeps.found (keeps.sound.step (.restore snapshot context))
      fun session made => records.restored made

theorem step (keeps : chronicle.Keeps archive) (command : ArchiveCommand) :
    (chronicle.after archive command).Keeps (archive.step command) := by
  cases command with
  | build builder now =>
    refine keeps.found (keeps.sound.step (.build builder now)) fun session made => ?_
    obtain ⟨id, principal, -, -, -, -, rfl⟩ :=
      (SessionBuilder.build_eq_ok_iff builder now session).mp made
    exact .empty
  | derive handle principal roles locale =>
    exact keeps.advance _ (archive.registry.length_families_derive handle principal roles locale)
  | mutate handle mutation =>
    exact keeps.advance _ (archive.registry.length_families_mutate handle mutation)
  | capture handle => exact keeps.capture handle
  | restore place context => exact keeps.restore place context

theorem follow (keeps : chronicle.Keeps archive) (commands : List ArchiveCommand) :
    (chronicle.follow archive commands).Keeps (archive.run commands) := by
  induction commands generalizing chronicle archive with
  | nil => exact keeps
  | cons command rest ih => exact ih (keeps.step command)

end Keeps

/-- Every session of a run holds the levels and attributes that are live in its history. -/
theorem keeps_of (commands : List ArchiveCommand) :
    (of commands).Keeps (Archive.empty.run commands) := keeps_empty.follow commands

end Chronicle

end Authorization
