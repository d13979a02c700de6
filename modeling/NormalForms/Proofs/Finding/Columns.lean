import Mathlib.Data.List.Basic
import NormalForms.Check.Atomicity
import NormalForms.Proofs.Naming.Case
import NormalForms.Proofs.Text.Trimming

/-!
# The columns a finding names

A finding keeps the names of its columns in one text, and reads them back from
it. Reading goes name by name (`namesIn_intercalate`), and of a name that holds a
visible character other than a comma something is read (`namesIn_ne_nil`). The
members of a repeating group have such names, since they end in a digit.
-/

namespace NormalForms

namespace Finding

open Text

theorem namesIn_empty : namesIn "" = [] := rfl

theorem namesIn_append (s t : String) : namesIn (s ++ ", " ++ t) = namesIn s ++ namesIn t := by
  have hsep : (s ++ ", " ++ t).toList = s.toList ++ ',' :: ' ' :: t.toList := by simp
  obtain ⟨p, ps, hp⟩ := List.exists_cons_of_ne_nil (fields_ne_nil (· == ',') t.toList)
  -- the space after the comma goes when the first field is trimmed
  have hspace : (fields (· == ',') (' ' :: t.toList)).map trim =
      (fields (· == ',') t.toList).map trim := by
    rw [fields, hp]
    rfl
  unfold namesIn
  rw [hsep, fields_append_cons rfl, List.map_append, hspace, List.filter_append, List.map_append]

/-- **Reading back** goes name by name. -/
theorem namesIn_intercalate (names : List String) :
    namesIn (String.intercalate ", " names) = names.flatMap namesIn := by
  induction names with
  | nil => exact namesIn_empty
  | cons name names ih =>
    cases names with
    | nil => simp
    | cons name' names =>
      rw [String.intercalate_cons_cons, namesIn_append, ih]
      rfl

/-- A visible character other than a comma is read back. -/
theorem namesIn_ne_nil {s : String} {c : Char} (hc : c ∈ s.toList) (hcomma : c ≠ ',')
    (hb : isBlank c = false) : namesIn s ≠ [] := by
  have hfields : c ∈ (fields (· == ',') s.toList).flatten := by
    rw [flatten_fields]
    exact List.mem_filter.2 ⟨hc, by simpa using hcomma⟩
  obtain ⟨p, hp, hcp⟩ := List.mem_flatten.1 hfields
  have hne : (trim p).isEmpty = false := List.isEmpty_eq_false_iff.2
    (List.ne_nil_of_mem (mem_trim hcp hb))
  have hmem : String.ofList (trim p) ∈ namesIn s :=
    List.mem_map_of_mem (List.mem_filter.2 ⟨List.mem_map_of_mem hp, by rw [hne]; rfl⟩)
  exact List.ne_nil_of_mem hmem

/-- The case of the letters of a name is read back with it. -/
theorem namesIn_lower (text : String) : namesIn (lower text) = (namesIn text).map lower := by
  have hcut : ∀ c : Char, (c.toLower == ',') = (c == ',') :=
    apply_toLower (f := (· == ',')) (by decide)
  have htrim : trim ∘ List.map Char.toLower = List.map Char.toLower ∘ trim :=
    funext trim_map_toLower
  have hvisible : (fun cs : List Char => !cs.isEmpty) ∘ List.map Char.toLower =
      fun cs => !cs.isEmpty := by
    funext cs
    rw [Function.comp_apply, List.isEmpty_map]
  rw [namesIn, namesIn, toList_lower, fields_map hcut, List.map_map, htrim, ← List.map_map,
    List.filter_map, hvisible, List.map_map, List.map_map]
  exact List.map_congr_left fun cs _ => (lower_ofList cs).symm

end Finding

/-! ## Repeating groups -/

namespace Text

theorem isBlank_of_isDigit {c : Char} (h : c.isDigit = true) : isBlank c = false := by
  simp only [Char.isDigit, ge_iff_le, Bool.and_eq_true, decide_eq_true_eq,
    UInt32.le_iff_toNat_le] at h
  have hval : c.toNat = c.val.toNat := rfl
  simp [isBlank] at h ⊢
  omega

end Text

namespace Atomicity

open Naming Text

/-- A numbered name has a digit. -/
theorem exists_isDigit_of_isNumbered {name base : String} (h : isNumbered name base = true) :
    ∃ c ∈ name.toList, c.isDigit = true := by
  unfold isNumbered at h
  split at h
  · rename_i number hnumber
    obtain ⟨ds, hds, rfl⟩ := Option.map_eq_some_iff.1 hnumber
    have happend := List.append_eq_of_isPrefixOf?_eq_some hds
    rw [Bool.and_eq_true, String.toList_ofList] at h
    cases ds with
    | nil => cases h.1
    | cons d ds =>
      have hd : d ∈ name.toList.map Char.toLower := by
        rw [← toList_lower, ← happend]
        exact List.mem_append_right _ List.mem_cons_self
      obtain ⟨c, hc, rfl⟩ := List.mem_map.1 hd
      have hdigit := List.all_eq_true.1 h.2 _ List.mem_cons_self
      exact ⟨c, hc, (congrFun isDigit_comp_toLower c).symm.trans hdigit⟩
  · cases h

theorem namesIn_ne_nil_of_isNumbered {name base : String} (h : isNumbered name base = true) :
    Finding.namesIn name ≠ [] := by
  obtain ⟨c, hc, hd⟩ := exists_isDigit_of_isNumbered h
  have hcomma : c ≠ ',' := by
    rintro rfl
    cases hd
  exact Finding.namesIn_ne_nil hc hcomma (isBlank_of_isDigit hd)

theorem columns_repeatingGroup (t : Table) (base : String) :
    (repeatingGroup t base).columns =
      (groupMembers t base).flatMap fun c => Finding.namesIn c.name := by
  show Finding.namesIn (String.intercalate ", " (Remedy.names (groupMembers t base))) = _
  rw [Finding.namesIn_intercalate, Remedy.names, List.flatMap_map]

/-- A finding about a group names columns. -/
theorem columns_repeatingGroup_ne_nil {t : Table} {base : String} (h : isGroup t base = true) :
    (repeatingGroup t base).columns ≠ [] := by
  have hlen : 2 ≤ (groupMembers t base).length :=
    of_decide_eq_true (Bool.and_eq_true_iff.1 h).1
  obtain ⟨c, hc⟩ := List.exists_mem_of_length_pos (Nat.lt_of_lt_of_le Nat.zero_lt_two hlen)
  rw [columns_repeatingGroup]
  intro hnil
  exact namesIn_ne_nil_of_isNumbered (List.mem_filter.1 hc).2
    (List.flatMap_eq_nil_iff.1 hnil c hc)

end Atomicity

end NormalForms
