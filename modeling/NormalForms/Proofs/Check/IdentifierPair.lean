import NormalForms.Proofs.Check.Grouping
import NormalForms.Proofs.Finding.Reading

/-!
# Which groups let the higher forms be checked

A repeating group does not block if it is a pair of columns that mention `id`. But
what is looked at are the names read back from the finding, and a name with a comma
may be read as several. A group has two columns at least, and of each of them
something is read: so a group does not block if it has two columns, each mentions
`id`, and each is read as one name (`group_passes_iff`). Where no name has a
comma, the last condition holds of itself; a pair of columns that are read as two
names each blocks (`exists_pair_blocking`).
-/

namespace NormalForms

open Text Naming

/-! ## Lists of pieces -/

section Pieces

variable {α β : Type} {f : α → List β} {l : List α}

theorem length_le_length_flatMap (h : ∀ a ∈ l, f a ≠ []) : l.length ≤ (l.flatMap f).length := by
  induction l with
  | nil => exact Nat.le_refl 0
  | cons a l ih =>
    obtain ⟨ha, hl⟩ := List.forall_mem_cons.1 h
    have hpos := List.length_pos_of_ne_nil ha
    have hle := ih hl
    rw [List.flatMap_cons, List.length_append, List.length_cons]
    omega

/-- Elements with a piece each have no more pieces than there are elements if none has
two. -/
theorem length_flatMap_le_iff (h : ∀ a ∈ l, f a ≠ []) :
    (l.flatMap f).length ≤ l.length ↔ ∀ a ∈ l, (f a).length = 1 := by
  induction l with
  | nil => simp
  | cons a l ih =>
    obtain ⟨ha, hl⟩ := List.forall_mem_cons.1 h
    have hpos := List.length_pos_of_ne_nil ha
    have hle := length_le_length_flatMap hl
    rw [List.forall_mem_cons, ← ih hl, List.flatMap_cons, List.length_append, List.length_cons]
    omega

end Pieces

namespace Naming

/-- A numbered name ends in a digit. -/
theorem IsNumberedAfter.exists_getLast? {base name : String} (h : IsNumberedAfter base name) :
    ∃ c, name.toList.getLast? = some c ∧ c.isDigit = true := by
  obtain ⟨number, hne, hdigits, heq⟩ := h
  obtain ⟨d, hd⟩ := Option.isSome_iff_exists.1 (List.getLast?_isSome.2 hne)
  have hlast : (name.toList.map Char.toLower).getLast? = some d := by
    rw [← toList_lower, heq, List.getLast?_append_of_ne_nil _ hne, hd]
  rw [List.getLast?_map] at hlast
  obtain ⟨c, hc, rfl⟩ := Option.map_eq_some_iff.1 hlast
  refine ⟨c, hc, ?_⟩
  rw [← congrFun isDigit_comp_toLower c]
  exact hdigits _ (List.mem_of_getLast? hd)

/-- The name mentions `id`, in any case. -/
def MentionsId (name : String) : Prop := contains (lower name) "id" = true

instance (name : String) : Decidable (MentionsId name) := inferInstanceAs (Decidable (_ = true))

/-- What is read of a name mentions `id` if the name does, and one thing is read of it. -/
theorem forall_mentionsId_iff {name : String} (h : (Finding.namesIn name).length = 1) :
    (∀ n ∈ Finding.namesIn name, MentionsId n) ↔ MentionsId name := by
  obtain ⟨n, hn⟩ := List.length_eq_one_iff.1 h
  have hvisible : ∀ d ∈ "id".toList, d ≠ ',' ∧ isBlank d = false :=
    List.forall_mem_cons.2 ⟨by decide, List.forall_mem_singleton.2 (by decide)⟩
  have hpart := Finding.contains_iff_exists_mem_namesIn (by decide) hvisible (lower name)
  rw [Finding.namesIn_lower, hn] at hpart
  rw [hn, List.forall_mem_singleton, MentionsId, MentionsId, hpart]
  simp

end Naming

namespace Atomicity

variable {t : Table} {base : String}

theorem length_namesIn_eq_one_iff {c : Column} (hc : c ∈ numberedColumns t base) :
    (Finding.namesIn c.name).length = 1 ↔ Finding.ReadsAsOne c.name := by
  have hnumbered : IsNumberedAfter base c.name := of_decide_eq_true (List.mem_filter.1 hc).2
  obtain ⟨d, hlast, hdigit⟩ := hnumbered.exists_getLast?
  refine Finding.length_namesIn_eq_one_iff hlast ?_ (isBlank_of_isDigit hdigit)
  rintro rfl
  cases hdigit

/-- **A group is a pair of identifiers** if it has two columns, which mention `id` and
are read as one name each. -/
theorem isIdentifierPair_iff (h : IsBase base) (hrepeats : Repeats t base) :
    (repeatingGroup t base).isIdentifierPair = true ↔
      (numberedColumns t base).length ≤ 2 ∧
        ∀ c ∈ numberedColumns t base, MentionsId c.name ∧ Finding.ReadsAsOne c.name := by
  have hgroup : isGroup t base = true := (isGroup_iff h).2 hrepeats
  have hcolumns : (repeatingGroup t base).columns =
      (numberedColumns t base).flatMap fun c => Finding.namesIn c.name := by
    rw [columns_repeatingGroup, groupMembers_eq h]
  have hread : ∀ c ∈ numberedColumns t base, Finding.namesIn c.name ≠ [] := by
    intro c hc
    rw [← groupMembers_eq h] at hc
    exact namesIn_ne_nil_of_isNumbered (List.mem_filter.1 hc).2
  have hne := columns_repeatingGroup_ne_nil hgroup
  have htwo := hrepeats.1
  have hle := length_le_length_flatMap hread
  have hpair : (repeatingGroup t base).isIdentifierPair = true ↔
      (repeatingGroup t base).columns.length ≤ 2 ∧
        ∀ n ∈ (repeatingGroup t base).columns, MentionsId n := by
    simp [Finding.isIdentifierPair, hne, MentionsId]
  rw [hpair, hcolumns]
  simp only [List.forall_mem_flatMap]
  constructor
  · rintro ⟨hlen, hid⟩
    have hone := (length_flatMap_le_iff hread).1 (by omega)
    refine ⟨by omega, fun c hc => ⟨?_, (length_namesIn_eq_one_iff hc).1 (hone c hc)⟩⟩
    exact (forall_mentionsId_iff (hone c hc)).1 (hid c hc)
  · rintro ⟨hlen, hid⟩
    have hone : ∀ c ∈ numberedColumns t base, (Finding.namesIn c.name).length = 1 :=
      fun c hc => (length_namesIn_eq_one_iff hc).2 (hid c hc).2
    have hsum := (length_flatMap_le_iff hread).2 hone
    exact ⟨by omega, fun c hc => (forall_mentionsId_iff (hone c hc)).2 (hid c hc).1⟩

/-- A group of a base that repeats is found. -/
theorem mem_tableFindings_of_repeats (h : IsBase base) (hrepeats : Repeats t base) :
    repeatingGroup t base ∈ tableFindings t :=
  List.mem_append_right _ (List.mem_map_of_mem (mem_reportedBases_iff.2 ⟨h, hrepeats⟩))

/-- **Which groups do not block.** Every group that is found has its two columns at
least, numbered after one base. It does not block if there are two, which mention `id`
and are read as one name each. The last is so of itself where no name among them has a comma. -/
theorem group_passes_iff {t : Table} {f : Finding} (hf : f ∈ tableFindings t)
    (hk : f.kind = .repeatingGroup) :
    ∃ base, IsBase base ∧ Repeats t base ∧ f = repeatingGroup t base ∧
      (f.isBlocking = false ↔
        (numberedColumns t base).length ≤ 2 ∧
          (∀ c ∈ numberedColumns t base, MentionsId c.name) ∧
          ∀ c ∈ numberedColumns t base, Finding.ReadsAsOne c.name) ∧
      ((∀ c ∈ numberedColumns t base, ',' ∉ c.name.toList) →
        (f.isBlocking = false ↔
          (numberedColumns t base).length ≤ 2 ∧
            ∀ c ∈ numberedColumns t base, MentionsId c.name)) := by
  have hfound : f ∈ (tableFindings t).filter fun f => f.kind = .repeatingGroup :=
    List.mem_filter.2 ⟨hf, decide_eq_true hk⟩
  rw [filter_kind_tableFindings] at hfound
  obtain ⟨base, hreported, rfl⟩ := List.mem_map.1 hfound
  obtain ⟨hbase, hrepeats⟩ := mem_reportedBases_iff.1 hreported
  have hpasses : (repeatingGroup t base).isBlocking = false ↔
      (numberedColumns t base).length ≤ 2 ∧
        (∀ c ∈ numberedColumns t base, MentionsId c.name) ∧
        ∀ c ∈ numberedColumns t base, Finding.ReadsAsOne c.name := by
    have hblocks : (repeatingGroup t base).isBlocking =
        !(repeatingGroup t base).isIdentifierPair := rfl
    rw [hblocks, Bool.not_eq_false', isIdentifierPair_iff hbase hrepeats]
    exact and_congr_right' forall₂_and
  refine ⟨base, hbase, hrepeats, rfl, hpasses, fun hcomma => ?_⟩
  have hread : ∀ c ∈ numberedColumns t base, Finding.ReadsAsOne c.name := fun c hc =>
    Finding.readsAsOne_of_not_mem (hcomma c hc)
  rw [hpasses]
  exact and_congr_right' (and_iff_left hread)

/-- Two users of one account. -/
def accounts : Table where
  name := "accounts"
  columns := [⟨"account_no", "INT", true, none⟩, ⟨"UserId1", "INT", true, none⟩,
    ⟨"userid2", "INT", true, none⟩]
  constraints := [.primaryKey none ["account_no"]]

theorem group_passes_iff_accounts :
    (repeatingGroup accounts "userid" ∈ tableFindings accounts ∧
      (repeatingGroup accounts "userid").kind = .repeatingGroup ∧
      ∀ c ∈ numberedColumns accounts "userid", ',' ∉ c.name.toList) ∧
    (repeatingGroup accounts "userid").isBlocking = false := by
  have hbase : IsBase "userid" := by decide +kernel
  have hf := mem_tableFindings_of_repeats (t := accounts) hbase (by decide +kernel)
  have hk : (repeatingGroup accounts "userid").kind = .repeatingGroup := rfl
  have hcomma : ∀ c ∈ numberedColumns accounts "userid", ',' ∉ c.name.toList := by decide +kernel
  have hpair : (numberedColumns accounts "userid").length ≤ 2 ∧
      ∀ c ∈ numberedColumns accounts "userid", MentionsId c.name := by decide +kernel
  obtain ⟨base, -, -, heq, -, hpasses⟩ := group_passes_iff hf hk
  obtain rfl : "userid" = base := repeatingGroup_injective accounts heq
  exact ⟨⟨hf, hk, hcomma⟩, (hpasses hcomma).2 hpair⟩

/-- Two columns that mention `id`, with a comma before their numbers. -/
def coordinates : Table where
  name := "t"
  columns := [⟨"k", "INT", true, none⟩, ⟨"id,1", "INT", true, none⟩,
    ⟨"id,2", "INT", true, none⟩]
  constraints := [.primaryKey none ["k"]]

/-- **A pair of columns that mention `id` blocks**: four names are read of it. -/
theorem exists_pair_blocking :
    ∃ f ∈ tableFindings coordinates, f = repeatingGroup coordinates "id," ∧
      (numberedColumns coordinates "id,").map Column.name = ["id,1", "id,2"] ∧
      (∀ c ∈ numberedColumns coordinates "id,", MentionsId c.name) ∧
      f.columns = ["id", "1", "id", "2"] ∧ f.isBlocking = true := by
  have hbase : IsBase "id," := by decide +kernel
  exact ⟨_, mem_tableFindings_of_repeats hbase (by decide +kernel), rfl, by decide +kernel,
    by decide +kernel, by decide +kernel, by decide +kernel⟩

end Atomicity

end NormalForms
