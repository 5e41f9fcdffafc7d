import Authorization.Proofs.Documents

/-! Forms of a document that differ from it at most in the order of members, such as the one with
all members ordered by name. -/

set_option autoImplicit false

namespace Authorization.Json

variable {α β : Type}

/-- Scalars stay as they are, lists keep their order, and the members of an object, if their names
differ, are permuted. -/
structure Reorders (form : Json → Json) : Prop where
  bool : ∀ value, form (.bool value) = .bool value
  integer : ∀ value, form (.integer value) = .integer value
  text : ∀ value, form (.text value) = .text value
  list : ∀ elements, form (.list elements) = .list (elements.map form)
  object : ∀ {α : Type} (entries : List (String × α)) (write : α → Json),
    (entries.map Prod.fst).Nodup →
      ∃ others : List (String × α), others.Perm entries ∧
        form (.object (entries.map fun (name, value) => (name, write value))) =
          .object (others.map fun (name, value) => (name, form (write value)))

theorem reorders_id : Reorders id where
  bool _ := rfl
  integer _ := rfl
  text _ := rfl
  list elements := by rw [List.map_id, id]
  object entries _ _ := ⟨entries, .refl _, rfl⟩

theorem orderedElements_eq (elements : List Json) :
    orderedElements elements = elements.map ordered := by
  induction elements with
  | nil => rw [orderedElements, List.map_nil]
  | cons first rest ih => rw [orderedElements, List.map_cons, ih]

theorem orderedMembers_eq (members : List (String × Json)) :
    orderedMembers members = members.map fun (name, value) => (name, value.ordered) := by
  induction members with
  | nil => rw [orderedMembers, List.map_nil]
  | cons first rest ih =>
    obtain ⟨name, value⟩ := first
    rw [orderedMembers, List.map_cons, ih]

theorem insertMember_map (f : α → β) (name : String) (value : α) (members : List (String × α)) :
    insertMember name (f value) (members.map fun (other, kept) => (other, f kept)) =
      (insertMember name value members).map fun (other, kept) => (other, f kept) := by
  induction members with
  | nil => rfl
  | cons first rest ih =>
    obtain ⟨other, kept⟩ := first
    simp only [List.map_cons, insertMember]
    cases compare name other with
    | lt => rfl
    | eq => rfl
    | gt => rw [ih, List.map_cons]

theorem insertMember_perm {name : String} {members : List (String × α)} (value : α)
    (fresh : name ∉ members.map Prod.fst) :
    (insertMember name value members).Perm ((name, value) :: members) := by
  induction members with
  | nil => exact .refl _
  | cons first rest ih =>
    obtain ⟨other, kept⟩ := first
    obtain ⟨apart, later⟩ := not_or.mp (mt List.mem_cons.mpr fresh)
    rw [insertMember]
    cases order : compare name other with
    | lt => exact .refl _
    | eq => exact absurd (Std.LawfulEqOrd.eq_of_compare order) apart
    | gt => exact ((ih later).cons (other, kept)).trans (.swap ..)

theorem foldl_insertMember_perm {ordered members : List (String × α)}
    (distinct : ((ordered ++ members).map Prod.fst).Nodup) :
    (members.foldl (fun ordered (name, value) => insertMember name value ordered) ordered).Perm
      (ordered ++ members) := by
  induction members generalizing ordered with
  | nil => rw [List.append_nil, List.foldl_nil]
  | cons first rest ih =>
    obtain ⟨name, value⟩ := first
    have moved : (ordered ++ (name, value) :: rest).Perm ((name, value) :: (ordered ++ rest)) :=
      List.perm_middle
    have distinct' := (moved.map Prod.fst).nodup_iff.mp distinct
    obtain ⟨fresh, -⟩ := List.nodup_cons.mp distinct'
    rw [List.map_append, List.mem_append, not_or] at fresh
    have inserted := (insertMember_perm value fresh.1).append_right rest
    have kept := ih ((inserted.map Prod.fst).nodup_iff.mpr distinct')
    exact (kept.trans inserted).trans moved.symm

theorem orderMembers_perm {members : List (String × α)} (distinct : (members.map Prod.fst).Nodup) :
    (orderMembers members).Perm members := by
  rw [← List.nil_append members] at distinct
  exact foldl_insertMember_perm distinct

def Ascending (members : List (String × α)) : Prop :=
  members.Pairwise fun first second => compare first.1 second.1 = .lt

theorem eq_or_mem_of_mem_insertMember {name : String} {value : α} {members : List (String × α)}
    {entry : String × α} (member : entry ∈ insertMember name value members) :
    entry = (name, value) ∨ entry ∈ members := by
  induction members with
  | nil => exact .inl (List.mem_singleton.mp member)
  | cons first rest ih =>
    obtain ⟨other, kept⟩ := first
    rw [insertMember] at member
    split at member
    · exact List.mem_cons.mp member
    · exact (List.mem_cons.mp member).imp_right (List.mem_cons_of_mem _)
    · rcases List.mem_cons.mp member with rfl | later
      · exact .inr List.mem_cons_self
      · exact (ih later).imp_right (List.mem_cons_of_mem _)

theorem Ascending.insertMember {members : List (String × α)} (ascending : Ascending members)
    (name : String) (value : α) : Ascending (Json.insertMember name value members) := by
  induction members with
  | nil => exact List.pairwise_singleton ..
  | cons first rest ih =>
    obtain ⟨other, kept⟩ := first
    obtain ⟨before, later⟩ := List.pairwise_cons.mp ascending
    rw [Json.insertMember]
    split
    · rename_i less
      refine List.pairwise_cons.mpr ⟨List.forall_mem_cons.mpr ⟨less, ?_⟩, ascending⟩
      exact fun entry member => Std.TransCmp.lt_trans less (before entry member)
    · rename_i equal
      rw [Std.LawfulEqOrd.eq_of_compare equal]
      exact List.pairwise_cons.mpr ⟨before, later⟩
    · rename_i greater
      refine List.pairwise_cons.mpr ⟨fun entry member => ?_, ih later⟩
      rcases eq_or_mem_of_mem_insertMember member with rfl | member
      · exact Std.OrientedCmp.gt_iff_lt.mp greater
      · exact before entry member

theorem ascending_orderMembers (members : List (String × α)) :
    Ascending (orderMembers members) := by
  suffices general : ∀ ordered : List (String × α), Ascending ordered →
      Ascending (members.foldl (fun ordered (name, value) => insertMember name value ordered)
        ordered) from general [] .nil
  induction members with
  | nil => exact fun _ ascending => ascending
  | cons first rest ih => exact fun ordered ascending => ih _ (ascending.insertMember ..)

theorem orderMembers_eq_of_perm {first second : List (String × α)} (same : first.Perm second)
    (distinct : (second.map Prod.fst).Nodup) : orderMembers first = orderMembers second := by
  have distinct' := (same.map Prod.fst).nodup_iff.mpr distinct
  have members : (orderMembers first).Perm (orderMembers second) :=
    ((orderMembers_perm distinct').trans same).trans (orderMembers_perm distinct).symm
  -- There is only one ascending order of the same members.
  refine List.Perm.eq_of_pairwise ?_ (ascending_orderMembers first)
    (ascending_orderMembers second) members
  intro entry other _ _ less more
  rw [Std.OrientedCmp.gt_iff_lt.mpr more] at less
  cases less

theorem orderMembers_map (f : α → β) (members : List (String × α)) :
    orderMembers (members.map fun (name, value) => (name, f value)) =
      (orderMembers members).map fun (name, value) => (name, f value) := by
  -- The induction runs over the members still to be put in place, from any place reached.
  suffices general : ∀ ordered : List (String × α),
      (members.map fun (name, value) => (name, f value)).foldl
          (fun ordered (name, value) => insertMember name value ordered)
          (ordered.map fun (name, value) => (name, f value)) =
        (members.foldl (fun ordered (name, value) => insertMember name value ordered)
          ordered).map fun (name, value) => (name, f value) from general []
  induction members with
  | nil => exact fun _ => rfl
  | cons first rest ih =>
    intro ordered
    rw [List.map_cons, List.foldl_cons, List.foldl_cons]
    dsimp only
    rw [insertMember_map]
    exact ih _

theorem reorders_ordered : Reorders ordered where
  bool _ := by rw [ordered] <;> nofun
  integer _ := by rw [ordered] <;> nofun
  text _ := by rw [ordered] <;> nofun
  list elements := by rw [ordered, orderedElements_eq]
  object entries write distinct := by
    refine ⟨orderMembers entries, orderMembers_perm distinct, ?_⟩
    rw [ordered, orderedMembers_eq, List.map_map]
    exact congrArg Json.object (orderMembers_map (fun value => (write value).ordered) entries)

namespace Reorders

variable {form : Json → Json} {members : List (String × Json)}

/-- A record keeps its lookups, up to the form of what is found. -/
theorem row (reorders : Reorders form) (distinct : (members.map Prod.fst).Nodup) :
    ∃ row : Row, form (.object members) = .object row ∧ (row.map Prod.fst).Nodup ∧
      ∀ name, row.lookup name = (members.lookup name).map form := by
  obtain ⟨others, same, written⟩ := reorders.object members id distinct
  have plain : (members.map fun (name, value) => (name, id value)) = members := List.map_id _
  rw [plain] at written
  have distinct' := (same.map Prod.fst).nodup_iff.mpr distinct
  refine ⟨_, written, ?_, fun name => ?_⟩
  · rw [List.map_map]
    exact distinct'
  · rw [← Entries.lookup_perm same distinct']
    exact Entries.lookup_map_snd form others name

theorem readsAs_table (reorders : Reorders form) {entries : List (String × α)} {write : α → Json}
    {shape : Shape} {read : Json → Except DecodeError α}
    (distinct : (entries.map Prod.fst).Nodup)
    (reads : ∀ entry ∈ entries, (form (write entry.2)).ReadsAs shape read entry.2) :
    ∃ others : List (String × α), others.Perm entries ∧
      ∃ row : Row, row.map Prod.fst = others.map Prod.fst ∧
        (∀ member ∈ row, shape.check member.2 = .ok ()) ∧
        form (.object (entries.map fun (name, value) => (name, write value))) = .object row ∧
        asMembers read (.object row) = .ok others := by
  obtain ⟨others, same, written⟩ := reorders.object entries write distinct
  have reads' : ∀ entry ∈ others, (form (write entry.2)).ReadsAs shape read entry.2 :=
    fun entry member => reads entry (same.mem_iff.mp member)
  refine ⟨others, same, _, ?_, fun member inside => ?_, written, ?_⟩
  · rw [List.map_map]
    rfl
  · obtain ⟨entry, known, rfl⟩ := List.mem_map.mp inside
    exact (reads' entry known).fits
  · have listed : ∀ entry ∈ others, read ((form ∘ write) entry.2) = .ok entry.2 :=
      fun entry member => (reads' entry member).reads
    exact asMembers_map listed

end Reorders

end Authorization.Json
