import Authorization.Proofs.RoleLists

/-! Lists of role names as they are written down: entries between commas, with blanks around them.
Such a list is read back to its entries, so that neither their order nor repetitions, blanks around
entries or blank entries among them make a difference. -/

set_option autoImplicit false

namespace Authorization

namespace Text

theorem IsCore.pad {core chars left right : List Char} (inner : IsCore core chars)
    (blank : ∀ c ∈ left, isBlankChar c = true) (blank' : ∀ c ∈ right, isBlankChar c = true) :
    IsCore core (left ++ chars ++ right) := by
  obtain ⟨⟨before, after, rfl, clear, clear'⟩, first, last⟩ := inner
  refine ⟨⟨left ++ before, after ++ right, by simp only [List.append_assoc], ?_, ?_⟩, first, last⟩
  · rw [List.forall_mem_append]
    exact ⟨blank, clear⟩
  · rw [List.forall_mem_append]
    exact ⟨clear', blank'⟩

theorem isCore_pad_iff {left right : List Char} (blank : ∀ c ∈ left, isBlankChar c = true)
    (blank' : ∀ c ∈ right, isBlankChar c = true) (core chars : List Char) :
    IsCore core (left ++ chars ++ right) ↔ IsCore core chars := by
  have padded := (isCore_trimChars chars).pad blank blank'
  rw [← trimChars_eq_iff] at padded
  rw [← trimChars_eq_iff, ← trimChars_eq_iff, padded]

theorem IsCore.eq_nil {core chars : List Char} (inner : IsCore core chars)
    (blank : chars.all isBlankChar = true) : core = [] := by
  rw [← trimChars_eq_iff] at inner
  rw [← inner, trimChars_eq_nil_iff]
  exact blank

theorem not_mem_of_mem_splitAt {mark : Char} {chars part : List Char}
    (between : part ∈ splitAt mark chars) : mark ∉ part := by
  induction chars generalizing part with
  | nil =>
    rw [splitAt, List.mem_singleton] at between
    exact between ▸ List.not_mem_nil
  | cons c rest ih =>
    rw [splitAt] at between
    split at between
    · rcases List.mem_cons.mp between with rfl | between
      · exact List.not_mem_nil
      · exact ih between
    · rename_i apart
      split at between
      · exact absurd ‹_› (splitAt_ne_nil mark rest)
      · rename_i first others split
        rcases List.mem_cons.mp between with rfl | between
        · have clear : mark ∉ first := ih (split ▸ List.mem_cons_self)
          exact List.not_mem_cons_of_ne_of_not_mem (Ne.symm apart) clear
        · exact ih (split ▸ List.mem_cons_of_mem first between)

/-- No list has a name that cannot stand between commas, or that has a blank at one of its ends. -/
theorem not_lists_of_improper {name : String}
    (improper : name = "" ∨ ',' ∈ name.toList ∨
      (∃ c ∈ name.toList.head?, isBlankChar c = true) ∨
      ∃ c ∈ name.toList.getLast?, isBlankChar c = true) (list : String) : ¬ Lists list name := by
  rintro ⟨full, part, between, ⟨left, right, split, -, -⟩, first, last⟩
  rcases improper with empty | comma | ⟨c, start, blank⟩ | ⟨c, finish, blank⟩
  · exact full empty
  · rw [← splitAt_eq_splitOn] at between
    refine not_mem_of_mem_splitAt between ?_
    rw [split]
    exact List.mem_append_left _ (List.mem_append_right _ comma)
  · exact absurd blank (Bool.eq_false_iff.mp (first c start))
  · exact absurd blank (Bool.eq_false_iff.mp (last c finish))

end Text

/-! ## Entries -/

/-- An entry of a list of role names, with the blanks that are written around it. -/
structure PaddedEntry where
  left : String
  entry : String
  right : String
  blank_left : Text.isBlank left = true
  blank_right : Text.isBlank right = true
  plain : ',' ∉ entry.toList

namespace PaddedEntry

def text (padded : PaddedEntry) : String := padded.left ++ padded.entry ++ padded.right

theorem toList_text (padded : PaddedEntry) :
    padded.text.toList = padded.left.toList ++ padded.entry.toList ++ padded.right.toList := by
  rw [text, String.toList_append, String.toList_append]

theorem plain_text (padded : PaddedEntry) : ',' ∉ padded.text.toList := by
  have clear : ∀ blanks : String, Text.isBlank blanks = true → ',' ∉ blanks.toList :=
    fun blanks blank comma => absurd (List.all_eq_true.mp blank _ comma) (by decide)
  rw [toList_text, List.mem_append, List.mem_append]
  rintro ((inLeft | inside) | inRight)
  · exact clear _ padded.blank_left inLeft
  · exact padded.plain inside
  · exact clear _ padded.blank_right inRight

theorem isCore_text_iff (padded : PaddedEntry) (core : List Char) :
    Text.IsCore core padded.text.toList ↔ Text.IsCore core padded.entry.toList := by
  rw [toList_text]
  exact Text.isCore_pad_iff (List.all_eq_true.mp padded.blank_left)
    (List.all_eq_true.mp padded.blank_right) core padded.entry.toList

end PaddedEntry

def listing (entries : List PaddedEntry) : String := ",".intercalate (entries.map PaddedEntry.text)

/-- The name is not empty, and is what is left of one of the entries without blanks at its ends. -/
def HasEntry (entries : List PaddedEntry) (name : String) : Prop :=
  name ≠ "" ∧ ∃ padded ∈ entries, Text.IsCore name.toList padded.entry.toList

theorem splitOn_listing {entries : List PaddedEntry} (some : entries ≠ []) :
    (listing entries).toList.splitOn ',' = entries.map fun padded => padded.text.toList := by
  have parts : (listing entries).toList =
      [','].intercalate (entries.map fun padded => padded.text.toList) := by
    rw [listing, String.toList_intercalate, List.map_map]
    rfl
  rw [parts]
  refine List.splitOn_intercalate ',' ?_ (mt List.map_eq_nil_iff.mp some)
  intro part between
  obtain ⟨padded, -, rfl⟩ := List.mem_map.mp between
  exact padded.plain_text

theorem lists_listing_iff (entries : List PaddedEntry) (name : String) :
    Text.Lists (listing entries) name ↔ HasEntry entries name := by
  refine and_congr_right fun full => ?_
  cases entries with
  -- Of no entries an empty text is written, and it is read as one part, which is empty.
  | nil =>
    refine iff_of_false ?_ (fun ⟨_, member, _⟩ => nomatch member)
    rintro ⟨part, between, core⟩
    rw [show listing [] = "" from rfl, ← Text.splitAt_eq_splitOn] at between
    cases List.mem_singleton.mp between
    exact full (String.toList_injective (core.eq_nil rfl))
  | cons first rest =>
    rw [splitOn_listing (List.cons_ne_nil first rest)]
    simp only [List.mem_map, ↓existsAndEq, and_true, PaddedEntry.isCore_text_iff]

/-! ## Lists that say the same -/

/-- The entries of one list are those of another in a different order, repeated, with other blanks
around them or with blank ones among them. -/
inductive SameEntries : List PaddedEntry → List PaddedEntry → Prop
  | reordered {first second : List PaddedEntry} : first.Perm second → SameEntries first second
  | repeated {padded : PaddedEntry} {entries : List PaddedEntry} : padded ∈ entries →
      SameEntries entries (padded :: entries)
  | repadded {padded other : PaddedEntry} (entries : List PaddedEntry) :
      padded.entry = other.entry → SameEntries (padded :: entries) (other :: entries)
  | blank {padded : PaddedEntry} (entries : List PaddedEntry) :
      Text.isBlank padded.entry = true → SameEntries entries (padded :: entries)
  | reverse {first second : List PaddedEntry} : SameEntries first second →
      SameEntries second first
  | join {first middle second : List PaddedEntry} : SameEntries first middle →
      SameEntries middle second → SameEntries first second

theorem SameEntries.hasEntry_iff {first second : List PaddedEntry} (same : SameEntries first second)
    (name : String) : HasEntry first name ↔ HasEntry second name := by
  induction same with
  | reordered perm => simp only [HasEntry, perm.mem_iff]
  | repeated member =>
    refine and_congr_right fun _ => ⟨fun ⟨padded, inside, core⟩ => ?_, ?_⟩
    · exact ⟨padded, List.mem_cons_of_mem _ inside, core⟩
    · rintro ⟨padded, inside, core⟩
      rcases List.mem_cons.mp inside with rfl | inside
      · exact ⟨padded, member, core⟩
      · exact ⟨padded, inside, core⟩
  | repadded entries alike => simp only [HasEntry, List.mem_cons, exists_eq_or_imp, alike]
  | blank entries blank =>
    refine and_congr_right fun full => ?_
    simp only [List.mem_cons, exists_eq_or_imp]
    refine (or_iff_right ?_).symm
    exact fun core => full (String.toList_injective (core.eq_nil blank))
  | reverse _ ih => exact ih.symm
  | join _ _ ih ih' => exact ih.trans ih'

namespace RoleMapping

theorem categoryOf_eq_standard_iff (mapping : RoleMapping) (name : String) :
    mapping.categoryOf name = .standard ↔
      ¬ Text.Lists mapping.superRoles name ∧ ¬ Text.Lists mapping.readOnlyRoles name ∧
        ¬ Text.Lists mapping.denyingRoles name := by
  simp only [categoryOf, ← Text.mem_listEntries_iff]
  split_ifs <;> simp [*]

def ofEntries (supers readers deniers : List PaddedEntry) : RoleMapping :=
  ⟨listing supers, listing readers, listing deniers⟩

/-- A name has the category of the first of the three lists one of whose entries it is, and is
standard otherwise. So the category does not depend on how the lists are written; and a name that is
empty, has a comma in it, or begins or ends with a blank is standard whatever the lists are. -/
theorem categoryOf_ofEntries (supers readers deniers : List PaddedEntry) :
    (∀ name,
      let category := (ofEntries supers readers deniers).categoryOf name
      (category = .super ↔ HasEntry supers name) ∧
      (category = .readOnly ↔ HasEntry readers name ∧ ¬ HasEntry supers name) ∧
      (category = .denying ↔
        HasEntry deniers name ∧ ¬ HasEntry readers name ∧ ¬ HasEntry supers name) ∧
      (category = .standard ↔
        ¬ HasEntry supers name ∧ ¬ HasEntry readers name ∧ ¬ HasEntry deniers name)) ∧
    (∀ supers' readers' deniers', SameEntries supers supers' → SameEntries readers readers' →
      SameEntries deniers deniers' → ∀ name,
        (ofEntries supers' readers' deniers').categoryOf name =
          (ofEntries supers readers deniers).categoryOf name) ∧
    ∀ (mapping : RoleMapping) (name : String),
      (name = "" ∨ ',' ∈ name.toList ∨
        (∃ c ∈ name.toList.head?, Text.isBlankChar c = true) ∨
        ∃ c ∈ name.toList.getLast?, Text.isBlankChar c = true) →
      mapping.categoryOf name = .standard := by
  refine ⟨fun name => ?_, ?_, ?_⟩
  · simp only [← lists_listing_iff]
    exact ⟨categoryOf_eq_super_iff .., categoryOf_eq_readOnly_iff .., categoryOf_eq_denying_iff ..,
      categoryOf_eq_standard_iff ..⟩
  · intro supers' readers' deniers' sameSupers sameReaders sameDeniers name
    simp only [categoryOf_eq_iff, ofEntries, lists_listing_iff, sameSupers.hasEntry_iff name,
      sameReaders.hasEntry_iff name, sameDeniers.hasEntry_iff name, implies_true, and_self]
  · intro mapping name improper
    have unlisted := Text.not_lists_of_improper improper
    exact (mapping.categoryOf_eq_standard_iff name).mpr ⟨unlisted _, unlisted _, unlisted _⟩

/-- A padded entry is still read, and so it is when it is repeated among blank ones. -/
theorem categoryOf_ofEntries_padded :
    let padded : PaddedEntry := ⟨"\t", "root", " ", by decide, by decide, by decide⟩
    let plain : PaddedEntry := ⟨"", "root", "", by decide, by decide, by decide⟩
    let gap : PaddedEntry := ⟨"", "\u2003", " ", by decide, by decide, by decide⟩
    (ofEntries [padded] [plain] []).categoryOf "root" = .super ∧
    (ofEntries [gap, plain, plain] [plain, gap] []).categoryOf "root" =
      (ofEntries [padded] [plain] []).categoryOf "root" ∧
    (ofEntries [gap, plain, plain] [plain, gap] []).categoryOf "\u2003" = .standard := by
  intro padded plain gap
  obtain ⟨categories, alike, improper⟩ := categoryOf_ofEntries [padded] [plain] []
  have core : Text.IsCore "root".toList "root".toList :=
    (Text.trimChars_eq_iff _ _).mp (by decide)
  have blank : Text.isBlank gap.entry = true := by decide
  have unpadded : SameEntries [padded] [plain] := .repadded [] rfl
  have sameSupers : SameEntries [padded] [gap, plain, plain] :=
    unpadded.join ((SameEntries.repeated List.mem_cons_self).join (.blank _ blank))
  have sameReaders : SameEntries [plain] [plain, gap] :=
    (SameEntries.blank _ blank).join (.reordered (List.Perm.swap ..))
  refine ⟨(categories "root").1.mpr ⟨by decide, padded, List.mem_cons_self, core⟩, ?_, ?_⟩
  · exact alike _ _ _ sameSupers sameReaders (.reordered .nil) "root"
  · exact improper _ "\u2003" (.inr (.inr (.inl ⟨'\u2003', rfl, by decide⟩)))

end RoleMapping

end Authorization
