import Mathlib.Data.List.Nodup
import NormalForms.Proofs.Check.Origin
import NormalForms.Proofs.Finding.Columns

/-!
# Which groups repeat

The columns of a group are named by one text, its base, with a number after each.
Bases are found by cutting the numbers off names, and members by what follows the
base. The two agree: a column outside the primary key contributes the base that its
name is numbered after, and nothing else (`groupBase?_eq_some_iff`), and no name is
numbered after two bases. So the groups reported are those of two members with one
outside the key, each where the first such member stands (`repeatingGroups_exact`).
-/

namespace NormalForms

open Text Naming

/-! ## Repeated values -/

section FirstUse

variable {α β : Type} [DecidableEq β]

/-- Where a list is first mapped to a value. -/
def firstUse (f : α → Option β) (l : List α) (b : β) : Nat := l.findIdx fun a => f a = some b

theorem firstUse_cons_self {f : α → Option β} {a : α} {b : β} (h : f a = some b) (l : List α) :
    firstUse f (a :: l) b = 0 := by
  simp [firstUse, List.findIdx_cons, h]

theorem firstUse_cons {f : α → Option β} {a : α} {b : β} (h : f a ≠ some b) (l : List α) :
    firstUse f (a :: l) b = firstUse f l b + 1 := by
  simp [firstUse, List.findIdx_cons, h]

/-- The values that a list is mapped to, without repetitions, stand in the order in
which they are first used. -/
theorem pairwise_firstUse (f : α → Option β) (l : List α) :
    (l.filterMap f).eraseDups.Pairwise fun b b' => firstUse f l b < firstUse f l b' := by
  induction l generalizing f with
  | nil => exact List.Pairwise.nil
  | cons a l ih =>
    cases ha : f a with
    | none =>
      rw [List.filterMap_cons_none ha]
      refine (ih f).imp fun h => ?_
      rw [firstUse_cons (by simp [ha]), firstUse_cons (by simp [ha])]
      exact Nat.succ_lt_succ h
    | some b =>
      -- what follows the first value are the uses of the others
      have hrest : (l.filterMap f).filter (fun b' => !b' == b) =
          l.filterMap fun a => (f a).filter fun b' => !b' == b := List.filter_filterMap
      rw [List.filterMap_cons_some ha, List.eraseDups_cons, hrest]
      have hne : ∀ b' ∈ (l.filterMap fun a => (f a).filter fun b' => !b' == b).eraseDups,
          b' ≠ b := by
        intro b' hb'
        rw [List.mem_eraseDups, ← hrest, List.mem_filter] at hb'
        simpa using hb'.2
      have huse : ∀ b', b' ≠ b →
          firstUse f (a :: l) b' =
            firstUse (fun a => (f a).filter fun b' => !b' == b) l b' + 1 := by
        intro b' hb'
        have hab : f a ≠ some b' := by
          rw [ha]
          exact fun he => hb' (Option.some_inj.1 he).symm
        rw [firstUse_cons hab, firstUse, firstUse]
        congr 2
        funext d
        simp only [Option.filter_eq_some_iff, decide_eq_decide]
        simp [hb']
      refine List.pairwise_cons.2 ⟨fun b' hb' => ?_, (ih _).imp_of_mem fun hb hb' h => ?_⟩
      · rw [firstUse_cons_self ha, huse b' (hne b' hb')]
        exact Nat.succ_pos _
      · rw [huse _ (hne _ hb), huse _ (hne _ hb')]
        exact Nat.succ_lt_succ h

end FirstUse

/-! ## Numbered names -/

namespace Naming

/-- In small letters, the name is the base and then a number, one digit at least. -/
def IsNumberedAfter (base name : String) : Prop :=
  ∃ number : List Char, number ≠ [] ∧ (∀ d ∈ number, d.isDigit = true) ∧
    (lower name).toList = base.toList ++ number

/-- A base of groups: in small letters, three bytes long at least, and not ending in
a digit. -/
structure IsBase (base : String) : Prop where
  lower_eq : lower base = base
  long : 3 ≤ byteLength base
  unnumbered : ∀ c ∈ base.toList.getLast?, c.isDigit = false

instance (base : String) : Decidable (IsBase base) :=
  decidable_of_iff (lower base = base ∧ 3 ≤ byteLength base ∧
      (base.toList.getLast?.all fun c => !c.isDigit) = true) <| by
    simp only [Option.all_eq_true, Bool.not_eq_true']
    constructor
    · rintro ⟨hlower, hlong, hlast⟩
      exact ⟨hlower, hlong, hlast⟩
    · rintro ⟨hlower, hlong, hlast⟩
      exact ⟨hlower, hlong, hlast⟩

theorem isNumbered_eq_true_iff {name base : String} :
    isNumbered name base = true ↔ IsNumberedAfter (lower base) name := by
  unfold isNumbered afterStart? IsNumberedAfter
  constructor
  · intro h
    split at h
    · rename_i number hnumber
      obtain ⟨ds, hds, rfl⟩ := Option.map_eq_some_iff.1 hnumber
      simp only [Bool.and_eq_true, bne_iff_ne, String.toList_ofList, List.all_eq_true] at h
      refine ⟨ds, ?_, h.2, (List.isPrefixOf?_eq_some_iff_append_eq.1 hds).symm⟩
      rintro rfl
      exact h.1 rfl
    · cases h
  · rintro ⟨ds, hne, hdigits, heq⟩
    rw [List.isPrefixOf?_eq_some_iff_append_eq.2 heq.symm]
    simp [List.all_eq_true, hne]
    exact hdigits

instance (base name : String) : Decidable (IsNumberedAfter base name) :=
  decidable_of_iff
    ((base.toList.isPrefixOf? (lower name).toList).any
      (fun ds => !ds.isEmpty && ds.all Char.isDigit) = true) <| by
    simp only [Option.any_eq_true, Bool.and_eq_true, Bool.not_eq_true', List.isEmpty_eq_false_iff,
      List.all_eq_true, List.isPrefixOf?_eq_some_iff_append_eq, IsNumberedAfter]
    refine exists_congr fun ds => ⟨?_, ?_⟩
    · rintro ⟨heq, hne, hdigits⟩
      exact ⟨hne, hdigits, heq.symm⟩
    · rintro ⟨hne, hdigits, heq⟩
      exact ⟨heq.symm, hne, hdigits⟩

/-- A name is what stands before its number, and the number. -/
theorem exists_number (name : String) :
    ∃ number : List Char, (∀ d ∈ number, d.isDigit = true) ∧
      name.toList = (withoutNumber name).toList ++ number := by
  refine ⟨(name.toList.reverse.takeWhile Char.isDigit).reverse, fun d hd => ?_, ?_⟩
  · exact List.all_eq_true.1 List.all_takeWhile d (List.mem_reverse.1 hd)
  · rw [withoutNumber, String.toList_ofList, ← List.reverse_append, List.takeWhile_append_dropWhile,
      List.reverse_reverse]

theorem withoutNumber_unnumbered (name : String) :
    ∀ c ∈ (withoutNumber name).toList.getLast?, c.isDigit = false := by
  intro c hc
  rw [withoutNumber, String.toList_ofList, List.getLast?_reverse] at hc
  have h := List.head?_dropWhile_not Char.isDigit name.toList.reverse
  rw [hc] at h
  exact h

/-- A base is what stands before the number of each name numbered after it. -/
theorem withoutNumber_eq {name base : String} {number : List Char}
    (hbase : ∀ c ∈ base.toList.getLast?, c.isDigit = false)
    (hnumber : ∀ d ∈ number, d.isDigit = true) (h : name.toList = base.toList ++ number) :
    withoutNumber name = base := by
  have hdigits : ∀ d ∈ number.reverse, d.isDigit = true := fun d hd =>
    hnumber d (List.mem_reverse.1 hd)
  have hstop : base.toList.reverse.dropWhile Char.isDigit = base.toList.reverse := by
    cases hb : base.toList.reverse with
    | nil => rfl
    | cons c cs =>
      have hlast : c ∈ base.toList.getLast? := by
        rw [← List.head?_reverse, hb]
        rfl
      rw [List.dropWhile_cons_of_neg (by simp [hbase c hlast])]
  rw [withoutNumber, h, List.reverse_append, List.dropWhile_append_of_pos hdigits, hstop,
    List.reverse_reverse, String.ofList_toList]

/-- **A name is numbered after a base** if the base is left, in small letters, when a
number is cut off the name. -/
theorem isNumberedAfter_iff {base name : String}
    (hbase : ∀ c ∈ base.toList.getLast?, c.isDigit = false) :
    IsNumberedAfter base name ↔ lower (withoutNumber name) = base ∧ withoutNumber name ≠ name := by
  constructor
  · rintro ⟨number, hne, hdigits, h⟩
    have hcut : lower (withoutNumber name) = base := by
      rw [← withoutNumber_lower, withoutNumber_eq hbase hdigits h]
    refine ⟨hcut, fun hname => hne ?_⟩
    rw [← hcut, hname] at h
    exact List.append_right_eq_self.1 h.symm
  · rintro ⟨rfl, hne⟩
    obtain ⟨number, hdigits, h⟩ := exists_number name
    refine ⟨number.map Char.toLower, ?_, fun d hd => ?_, ?_⟩
    · intro hnil
      rw [List.map_eq_nil_iff.1 hnil, List.append_nil] at h
      exact hne (String.toList_injective h).symm
    · obtain ⟨c, hc, rfl⟩ := List.mem_map.1 hd
      exact (congrFun isDigit_comp_toLower c).trans (hdigits c hc)
    · rw [toList_lower, h, List.map_append, toList_lower]

/-- No name is numbered after two bases. -/
theorem IsNumberedAfter.base_unique {base base' name : String} (hbase : IsBase base)
    (hbase' : IsBase base') (h : IsNumberedAfter base name) (h' : IsNumberedAfter base' name) :
    base = base' :=
  ((isNumberedAfter_iff hbase.unnumbered).1 h).1.symm.trans
    ((isNumberedAfter_iff hbase'.unnumbered).1 h').1

end Naming

/-! ## Groups -/

namespace Atomicity

variable {t : Table} {base : String}

/-- The columns named by the base and a number, in the order of their declaration. -/
def numberedColumns (t : Table) (base : String) : List Column :=
  t.columns.filter fun c => IsNumberedAfter base c.name

/-- Two columns at least are numbered after the base, and one of them is outside the
primary key. -/
def Repeats (t : Table) (base : String) : Prop :=
  2 ≤ (numberedColumns t base).length ∧
    ∃ c ∈ numberedColumns t base, t.inPrimaryKey c.name = false

instance (t : Table) (base : String) : Decidable (Repeats t base) :=
  inferInstanceAs (Decidable (_ ∧ _))

/-- The position of the first column outside the primary key that is numbered after
the base. -/
def firstMember (t : Table) (base : String) : Nat :=
  t.columns.findIdx fun c => IsNumberedAfter base c.name ∧ t.inPrimaryKey c.name = false

theorem groupMembers_eq (h : IsBase base) : groupMembers t base = numberedColumns t base := by
  refine List.filter_congr fun c _ => ?_
  rw [Bool.eq_iff_iff, isNumbered_eq_true_iff, h.lower_eq, decide_eq_true_iff]

theorem isGroup_iff (h : IsBase base) : isGroup t base = true ↔ Repeats t base := by
  simp [isGroup, Repeats, groupMembers_eq h]

/-- **What a column contributes** is the base that its name is numbered after, if it
is outside the primary key. -/
theorem groupBase?_eq_some_iff {c : Column} :
    groupBase? t c = some base ↔
      IsBase base ∧ IsNumberedAfter base c.name ∧ t.inPrimaryKey c.name = false := by
  unfold groupBase?
  constructor
  · intro h
    split at h
    · cases h
    · rename_i hcond
      cases h
      simp only [Bool.or_eq_true, decide_eq_true_eq, beq_iff_eq, not_or, Bool.not_eq_true,
        Nat.not_lt] at hcond
      obtain ⟨⟨⟨-, hplain⟩, hnumber⟩, hlong⟩ := hcond
      have hbase : IsBase (lower (withoutNumber c.name)) := by
        refine ⟨lower_lower _, by rwa [byteLength_lower], ?_⟩
        rw [← withoutNumber_lower]
        exact withoutNumber_unnumbered _
      exact ⟨hbase, (isNumberedAfter_iff hbase.unnumbered).2 ⟨rfl, hnumber⟩, hplain⟩
  · rintro ⟨hbase, hnumbered, hplain⟩
    obtain ⟨hcut, hne⟩ := (isNumberedAfter_iff hbase.unnumbered).1 hnumbered
    have hlong : 3 ≤ byteLength (withoutNumber c.name) := by
      rw [← byteLength_lower, hcut]
      exact hbase.long
    have hname : byteLength (withoutNumber c.name) ≤ byteLength c.name := by
      obtain ⟨number, -, h⟩ := exists_number c.name
      have hparts : c.name = withoutNumber c.name ++ String.ofList number :=
        String.toList_injective (by simpa using h)
      rw [byteLength, byteLength, hparts, String.utf8ByteSize_append, ← hparts]
      exact Nat.le_add_right _ _
    have h2 : ¬byteLength c.name ≤ 2 := by omega
    have h3 : ¬byteLength (withoutNumber c.name) < 3 := by omega
    simp [h2, h3, hne, hplain, hcut]

theorem firstUse_groupBase? (h : IsBase base) :
    firstUse (groupBase? t) t.columns base = firstMember t base := by
  unfold firstUse firstMember
  congr 1
  funext c
  simp [groupBase?_eq_some_iff, h]

theorem mem_groupBases_iff :
    base ∈ groupBases t ↔ IsBase base ∧
      ∃ c ∈ t.columns, IsNumberedAfter base c.name ∧ t.inPrimaryKey c.name = false := by
  simp only [groupBases, List.mem_eraseDups, List.mem_filterMap, groupBase?_eq_some_iff]
  constructor
  · rintro ⟨c, hc, hbase, h⟩
    exact ⟨hbase, c, hc, h⟩
  · rintro ⟨hbase, c, hc, h⟩
    exact ⟨c, hc, hbase, h⟩

/-- The bases of the groups that are reported. -/
def reportedBases (t : Table) : List String := (groupBases t).filter (isGroup t)

theorem mem_reportedBases_iff : base ∈ reportedBases t ↔ IsBase base ∧ Repeats t base := by
  rw [reportedBases, List.mem_filter, mem_groupBases_iff]
  constructor
  · rintro ⟨⟨hbase, -⟩, hgroup⟩
    exact ⟨hbase, (isGroup_iff hbase).1 hgroup⟩
  · rintro ⟨hbase, hrepeats⟩
    obtain ⟨c, hc, hplain⟩ := hrepeats.2
    have hc' := List.mem_filter.1 hc
    exact ⟨⟨hbase, c, hc'.1, of_decide_eq_true hc'.2, hplain⟩, (isGroup_iff hbase).2 hrepeats⟩

theorem pairwise_reportedBases (t : Table) :
    (reportedBases t).Pairwise fun b b' => firstMember t b < firstMember t b' := by
  have huse : (reportedBases t).Pairwise fun b b' =>
      firstUse (groupBase? t) t.columns b < firstUse (groupBase? t) t.columns b' :=
    (pairwise_firstUse (groupBase? t) t.columns).filter _
  refine huse.imp_of_mem fun hb hb' h => ?_
  rwa [firstUse_groupBase? (mem_reportedBases_iff.1 hb).1,
    firstUse_groupBase? (mem_reportedBases_iff.1 hb').1] at h

/-! ## What is reported -/

theorem kind_of_mem_compositeValues {f : Finding} (h : f ∈ compositeValues t) :
    f.kind ≠ .repeatingGroup := by
  obtain ⟨c, -, rfl | rfl⟩ := mem_compositeValues h
  · exact Finding.Kind.noConfusion
  · exact Finding.Kind.noConfusion

/-- Groups are reported by one rule of the check alone. -/
theorem filter_kind_tableFindings (t : Table) :
    ((tableFindings t).filter fun f => f.kind = .repeatingGroup) =
      (reportedBases t).map (repeatingGroup t) := by
  have hkey : ((missingKey t).filter fun f => f.kind = .repeatingGroup) = [] := by
    refine List.filter_eq_nil_iff.2 fun f hf => ?_
    simp [(of_mem_missingKey hf).2.2.1]
  have hvalues : ((compositeValues t).filter fun f => f.kind = .repeatingGroup) = [] := by
    refine List.filter_eq_nil_iff.2 fun f hf => ?_
    simpa using kind_of_mem_compositeValues hf
  have hgroups : ((repeatingGroups t).filter fun f => f.kind = .repeatingGroup) =
      repeatingGroups t := by
    refine List.filter_eq_self.2 fun f hf => ?_
    obtain ⟨base, -, rfl⟩ := List.mem_map.1 hf
    exact decide_eq_true rfl
  rw [tableFindings, List.filter_append, List.filter_append, hkey, hvalues, hgroups]
  rfl

/-- A finding tells its base. -/
theorem repeatingGroup_injective (t : Table) : Function.Injective (repeatingGroup t) := by
  intro b b' h
  have htext : (repeatingGroup t b).description = (repeatingGroup t b').description := by rw [h]
  exact (String.append_right_inj _).1 ((String.append_left_inj _).1 htext)

/-- A base is reported once, if at all. -/
theorem count_repeatingGroup (h : IsBase base) :
    (tableFindings t).count (repeatingGroup t base) = if Repeats t base then 1 else 0 := by
  have hnodup : ((reportedBases t).map (repeatingGroup t)).Nodup := by
    refine List.Nodup.map (repeatingGroup_injective t) ?_
    refine (pairwise_reportedBases t).imp fun hlt he => ?_
    rw [he] at hlt
    exact Nat.lt_irrefl _ hlt
  have hcount : (tableFindings t).count (repeatingGroup t base) =
      ((tableFindings t).filter fun f => f.kind = .repeatingGroup).count
        (repeatingGroup t base) :=
    (List.count_filter (p := fun f : Finding => decide (f.kind = .repeatingGroup)) rfl).symm
  rw [hcount, filter_kind_tableFindings, hnodup.count]
  simp [List.mem_map, (repeatingGroup_injective t).eq_iff, mem_reportedBases_iff, h]

/-- **Repeating groups are found exactly.** The findings about groups are one for each
base after which two columns are numbered, one of them outside the primary key, and
none for any other. Each is about the columns numbered after its base, as declared,
and moves these; no column is in two; and they come in the order of their first
members outside the key. -/
theorem repeatingGroups_exact (t : Table) :
    (∀ base, IsBase base →
      (tableFindings t).count (repeatingGroup t base) = if Repeats t base then 1 else 0) ∧
    ∃ bases : List String,
      ((tableFindings t).filter fun f => f.kind = .repeatingGroup) =
        bases.map (repeatingGroup t) ∧
      (∀ base, base ∈ bases ↔ IsBase base ∧ Repeats t base) ∧
      (∀ base ∈ bases,
        (repeatingGroup t base).columnText? =
          some (String.intercalate ", " (Remedy.names (numberedColumns t base))) ∧
        (repeatingGroup t base).remedy? =
          some (Remedy.splitGroup t base (numberedColumns t base)).render) ∧
      bases.Pairwise fun b b' =>
        firstMember t b < firstMember t b' ∧
          ∀ c ∈ numberedColumns t b, c ∉ numberedColumns t b' := by
  refine ⟨fun base h => count_repeatingGroup h, reportedBases t, filter_kind_tableFindings t,
    fun base => mem_reportedBases_iff, fun base hb => ?_, ?_⟩
  · rw [← groupMembers_eq (mem_reportedBases_iff.1 hb).1]
    exact ⟨rfl, rfl⟩
  · refine (pairwise_reportedBases t).imp_of_mem fun {b b'} hb hb' hlt => ⟨hlt, fun c hc hc' => ?_⟩
    have hnumbered := of_decide_eq_true (List.mem_filter.1 hc).2
    have hnumbered' := of_decide_eq_true (List.mem_filter.1 hc').2
    have he : b = b' := hnumbered.base_unique (mem_reportedBases_iff.1 hb).1
      (mem_reportedBases_iff.1 hb').1 hnumbered'
    rw [he] at hlt
    exact Nat.lt_irrefl _ hlt

/-- Two groups that interleave, a key that is numbered like one of them, and a lone
number. -/
def contacts : Table where
  name := "contacts"
  columns := [⟨"phone1", "INT", true, none⟩, ⟨"fax1", "INT", true, none⟩,
    ⟨"PHONE22", "INT", true, none⟩, ⟨"fax2", "INT", true, none⟩, ⟨"room7", "INT", true, none⟩]
  constraints := [.primaryKey none ["phone1"]]

theorem repeatingGroups_exact_contacts :
    (IsBase "phone" ∧ Repeats contacts "phone" ∧ IsBase "room" ∧ ¬Repeats contacts "room") ∧
    (tableFindings contacts).count (repeatingGroup contacts "phone") = 1 ∧
    (tableFindings contacts).count (repeatingGroup contacts "room") = 0 ∧
    (repeatingGroup contacts "phone").columnText? = some "phone1, PHONE22" := by
  have hphone : IsBase "phone" := by decide +kernel
  have hroom : IsBase "room" := by decide +kernel
  have hrepeats : Repeats contacts "phone" := by decide +kernel
  have hlone : ¬Repeats contacts "room" := by decide +kernel
  obtain ⟨hcount, bases, -, hbases, htext, -⟩ := repeatingGroups_exact contacts
  refine ⟨⟨hphone, hrepeats, hroom, hlone⟩, ?_, ?_, ?_⟩
  · rw [hcount _ hphone, if_pos hrepeats]
  · rw [hcount _ hroom, if_neg hlone]
  · rw [(htext "phone" ((hbases _).2 ⟨hphone, hrepeats⟩)).1]
    decide +kernel

end Atomicity

end NormalForms
