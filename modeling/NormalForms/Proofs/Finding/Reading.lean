import Mathlib.Data.List.TakeWhile
import NormalForms.Proofs.Finding.Columns

/-!
# What is read of a name

A name is read back from a text of names piece by piece: what stands between its
commas, as far as it is visible. So a text without commas and blanks stands in the
name just where it stands in a piece of it (`contains_iff_exists_mem_namesIn`); and a
name that ends visibly is read as one name if nothing visible stands before a comma
(`length_namesIn_eq_one_iff`). What is read has no comma and no blank at its ends, and
names of that kind are read back as they are (`columns_about_eq_iff`).
-/

namespace NormalForms

namespace Text

/-! ## Parts of a text -/

theorem hasPart_iff {part cs : List Char} : hasPart part cs = true ↔ part <:+: cs := by
  induction cs with
  | nil => simp [hasPart]
  | cons c cs ih => simp [hasPart, ih, List.infix_cons_iff]

theorem contains_iff {s part : String} : contains s part = true ↔ part.toList <:+: s.toList :=
  hasPart_iff

section Parts

variable {p : Char → Bool} {part : List Char}

/-- A part that begins outside a class of characters does not begin with one of them. -/
theorem infix_cons_of_class {c : Char} (hne : part ≠ []) (h : ∀ d ∈ part, p d = false)
    (hc : p c = true) (cs : List Char) : part <:+: c :: cs ↔ part <:+: cs := by
  refine List.infix_cons_iff.trans (or_iff_right fun hstart => ?_)
  obtain ⟨d, ds, rfl⟩ := List.exists_cons_of_ne_nil hne
  obtain ⟨rfl, -⟩ := List.cons_prefix_cons.1 hstart
  rw [h d List.mem_cons_self] at hc
  cases hc

theorem infix_dropWhile_iff (hne : part ≠ []) (h : ∀ d ∈ part, p d = false) (cs : List Char) :
    part <:+: cs.dropWhile p ↔ part <:+: cs := by
  induction cs with
  | nil => rfl
  | cons c cs ih =>
    rw [List.dropWhile_cons]
    split
    · rename_i hc
      rw [ih, infix_cons_of_class hne h hc]
    · rfl

/-- Trimming a text leaves its visible parts. -/
theorem infix_trim_iff (hne : part ≠ []) (h : ∀ d ∈ part, isBlank d = false) (cs : List Char) :
    part <:+: trim cs ↔ part <:+: cs := by
  have hreverse : ∀ d ∈ part.reverse, isBlank d = false := fun d hd => h d (List.mem_reverse.1 hd)
  rw [trim, trimEnd, ← List.reverse_infix, List.reverse_reverse,
    infix_dropWhile_iff (mt List.reverse_eq_nil_iff.1 hne) hreverse, List.reverse_infix, trimStart,
    infix_dropWhile_iff hne h]

/-- The first field of a text goes up to the first character that cuts. -/
theorem prefix_first_field_iff {q : List Char} {qs : List (List Char)} {cs : List Char}
    (hfields : fields p cs = q :: qs) (h : ∀ d ∈ part, p d = false) :
    part <+: q ↔ part <+: cs := by
  induction cs generalizing part q qs with
  | nil =>
    cases hfields
    rfl
  | cons c cs ih =>
    cases part with
    | nil => simp
    | cons d ds =>
      obtain ⟨hd, hds⟩ := List.forall_mem_cons.1 h
      rw [fields] at hfields
      split at hfields
      · rename_i hc
        cases hfields
        rw [List.cons_prefix_cons]
        refine iff_of_false (by simp) fun hstart => ?_
        rw [hstart.1, hc] at hd
        cases hd
      · obtain ⟨q', qs', hrest⟩ := List.exists_cons_of_ne_nil (fields_ne_nil p cs)
        rw [hrest] at hfields
        cases hfields
        rw [List.cons_prefix_cons, List.cons_prefix_cons, ih hrest hds]

/-- A part without the characters that cut a text stands in one of its fields. -/
theorem exists_infix_fields_iff (hne : part ≠ []) (h : ∀ d ∈ part, p d = false)
    (cs : List Char) : (∃ q ∈ fields p cs, part <:+: q) ↔ part <:+: cs := by
  induction cs with
  | nil => simp [fields]
  | cons c cs ih =>
    cases hc : p c with
    | true =>
      rw [infix_cons_of_class hne h hc, ← ih]
      simp [fields, hc, hne]
    | false =>
      obtain ⟨q, qs, hrest⟩ := List.exists_cons_of_ne_nil (fields_ne_nil p cs)
      have hfields : fields p (c :: cs) = (c :: q) :: qs := by
        rw [fields, hc, hrest]
        rfl
      rw [List.infix_cons_iff, ← ih, ← prefix_first_field_iff hfields h, hfields, hrest]
      simp only [List.exists_mem_cons_iff, List.infix_cons_iff, or_assoc]

end Parts

end Text

namespace Finding

open Text

/-! ## Names -/

/-- **A visible part of a text** without commas stands in what is read of it. -/
theorem contains_iff_exists_mem_namesIn {part : String} (hne : part.toList ≠ [])
    (h : ∀ d ∈ part.toList, d ≠ ',' ∧ isBlank d = false) (text : String) :
    contains text part = true ↔ ∃ name ∈ namesIn text, contains name part = true := by
  have hcomma : ∀ d ∈ part.toList, (d == ',') = false := fun d hd => by simpa using (h d hd).1
  have hblank : ∀ d ∈ part.toList, isBlank d = false := fun d hd => (h d hd).2
  rw [contains_iff, ← exists_infix_fields_iff hne hcomma]
  constructor
  · rintro ⟨q, hq, hpart⟩
    have htrim := (infix_trim_iff hne hblank q).2 hpart
    have hvisible : trim q ≠ [] := fun hnil => hne (List.infix_nil.1 (hnil ▸ htrim))
    refine ⟨String.ofList (trim q), List.mem_map_of_mem (List.mem_filter.2
      ⟨List.mem_map_of_mem hq, by simpa using hvisible⟩), contains_iff.2 ?_⟩
    rwa [String.toList_ofList]
  · rintro ⟨name, hname, hpart⟩
    obtain ⟨cs, hcs, rfl⟩ := List.mem_map.1 hname
    obtain ⟨q, hq, rfl⟩ := List.mem_map.1 (List.mem_filter.1 hcs).1
    rw [contains_iff, String.toList_ofList] at hpart
    exact ⟨q, hq, (infix_trim_iff hne hblank q).1 hpart⟩

/-- Reading a text goes comma by comma. -/
theorem namesIn_of_comma {text : String} {as bs : List Char}
    (h : text.toList = as ++ ',' :: bs) :
    namesIn text = namesIn (String.ofList as) ++ namesIn (String.ofList bs) := by
  have hcut : fields (· == ',') (as ++ ',' :: bs) =
      fields (· == ',') as ++ fields (· == ',') bs := fields_append_cons rfl as bs
  simp only [namesIn, h, hcut, List.map_append, List.filter_append, String.toList_ofList]

/-- Nothing is read of commas and blanks. -/
theorem namesIn_eq_nil_iff {text : String} :
    namesIn text = [] ↔ ∀ c ∈ text.toList, c = ',' ∨ isBlank c = true := by
  constructor
  · intro h c hc
    by_contra hvisible
    rw [not_or, Bool.not_eq_true] at hvisible
    exact namesIn_ne_nil hc hvisible.1 hvisible.2 h
  · intro h
    refine List.map_eq_nil_iff.2 (List.filter_eq_nil_iff.2 fun cs hcs => ?_)
    obtain ⟨q, hq, rfl⟩ := List.mem_map.1 hcs
    have hblank : ∀ c ∈ q, isBlank c = true := by
      intro c hc
      have hcut := forall_of_mem_fields hq c hc
      have hmem : c ∈ (fields (· == ',') text.toList).flatten := List.mem_flatten.2 ⟨q, hq, hc⟩
      rw [flatten_fields] at hmem
      refine (h c (List.mem_filter.1 hmem).1).resolve_left fun he => ?_
      rw [he] at hcut
      cases hcut
    have htrim : trimStart q = [] := List.dropWhile_eq_nil_iff.2 hblank
    simp [trim, htrim, trimEnd]

/-- Of a text without commas one name is read at most. -/
theorem length_namesIn_le {text : String} (h : ',' ∉ text.toList) :
    (namesIn text).length ≤ 1 := by
  have hfields : fields (· == ',') text.toList = [text.toList] :=
    fields_of_forall fun c hc => beq_eq_false_iff_ne.2 fun he => h (he ▸ hc)
  rw [namesIn, hfields, List.length_map]
  exact List.length_filter_le _ _

/-- Nothing visible stands before a comma. -/
def ReadsAsOne (name : String) : Prop :=
  ∀ before after, name.toList = before ++ ',' :: after →
    ∀ c ∈ before, c = ',' ∨ isBlank c = true

theorem readsAsOne_of_not_mem {name : String} (h : ',' ∉ name.toList) : ReadsAsOne name := by
  intro before after heq
  rw [heq] at h
  exact absurd (List.mem_append_right _ List.mem_cons_self) h

/-- **A name that ends visibly** is read as one name if nothing visible stands before a
comma. -/
theorem length_namesIn_eq_one_iff {name : String} {c : Char}
    (hlast : name.toList.getLast? = some c) (hcomma : c ≠ ',') (hblank : isBlank c = false) :
    (namesIn name).length = 1 ↔ ReadsAsOne name := by
  have hend : ∀ before after, name.toList = before ++ ',' :: after →
      namesIn (String.ofList after) ≠ [] := by
    intro before after heq
    rw [heq, List.getLast?_append_of_ne_nil _ (List.cons_ne_nil _ _), List.getLast?_cons] at hlast
    cases hafter : after.getLast? with
    | none =>
      rw [hafter] at hlast
      exact absurd (Option.some.inj hlast).symm hcomma
    | some d =>
      rw [hafter] at hlast
      have hd : d = c := Option.some.inj hlast
      rw [hd] at hafter
      refine namesIn_ne_nil ?_ hcomma hblank
      rw [String.toList_ofList]
      exact List.mem_of_getLast? hafter
  constructor
  · intro hone before after heq
    have hnil : namesIn (String.ofList before) = [] := by
      have hpos := List.length_pos_of_ne_nil (hend before after heq)
      rw [namesIn_of_comma heq, List.length_append] at hone
      exact List.length_eq_zero_iff.1 (by omega)
    simpa using namesIn_eq_nil_iff.1 hnil
  · intro hreads
    have hne : namesIn name ≠ [] :=
      namesIn_ne_nil (List.mem_of_getLast? hlast) hcomma hblank
    by_cases hmem : ',' ∈ name.toList
    · -- all that is read comes after the last comma
      obtain ⟨as, bs, heq, hbs⟩ := List.eq_append_cons_of_mem (List.mem_reverse.2 hmem)
      have hcut : name.toList = bs.reverse ++ ',' :: as.reverse := by
        rw [← List.reverse_reverse name.toList, heq]
        simp
      have hbefore : namesIn (String.ofList bs.reverse) = [] :=
        namesIn_eq_nil_iff.2 (by simpa using hreads _ _ hcut)
      have hafter : (namesIn (String.ofList as.reverse)).length ≤ 1 :=
        length_namesIn_le (by simpa using hbs)
      have hpos := List.length_pos_of_ne_nil hne
      rw [namesIn_of_comma hcut, hbefore, List.nil_append] at hpos ⊢
      omega
    · have hpos := List.length_pos_of_ne_nil hne
      have hle := length_namesIn_le hmem
      omega

/-! ## Names that are read back -/

/-- The name is not empty, has no comma and no blank at its ends. -/
structure IsClean (name : String) : Prop where
  ne_empty : name ≠ ""
  comma_not_mem : ',' ∉ name.toList
  trimmed : IsTrimmed name.toList

/-- All that is read is clean. -/
theorem isClean_of_mem_namesIn {name text : String} (h : name ∈ namesIn text) : IsClean name := by
  obtain ⟨cs, hcs, rfl⟩ := List.mem_map.1 h
  obtain ⟨hcs, hne⟩ := List.mem_filter.1 hcs
  obtain ⟨q, hq, rfl⟩ := List.mem_map.1 hcs
  have hcomma : ',' ∉ q := fun hmem => absurd (forall_of_mem_fields hq ',' hmem) (by decide)
  constructor
  · intro hempty
    rw [String.ofList_eq_empty_iff.1 hempty] at hne
    cases hne
  · rw [String.toList_ofList]
    exact fun hmem => hcomma ((trim_sublist q).subset hmem)
  · rw [String.toList_ofList]
    exact isTrimmed_trim q

/-- A clean name is read as it is. -/
theorem IsClean.namesIn_eq {name : String} (h : IsClean name) : namesIn name = [name] := by
  have hfields : fields (· == ',') name.toList = [name.toList] :=
    fields_of_forall fun c hc => beq_eq_false_iff_ne.2 fun he => h.comma_not_mem (he ▸ hc)
  have hne : name.toList ≠ [] := mt String.toList_eq_nil_iff.1 h.ne_empty
  rw [namesIn, hfields, List.map_singleton, h.trimmed.trim_eq,
    List.filter_cons_of_pos (by simpa using hne), List.filter_nil, List.map_singleton,
    String.ofList_toList]

theorem columns_about (f : Finding) (names : List String) :
    (f.about names).columns = names.flatMap namesIn :=
  namesIn_intercalate names

/-- **Names are read back from a finding about them** if they are clean, and only then. -/
theorem columns_about_eq_iff (f : Finding) (names : List String) :
    (f.about names).columns = names ↔ ∀ name ∈ names, IsClean name := by
  rw [columns_about]
  constructor
  · intro hread name hname
    rw [← hread] at hname
    obtain ⟨piece, -, hname⟩ := List.mem_flatMap.1 hname
    exact isClean_of_mem_namesIn hname
  · intro hclean
    have hread : ∀ name ∈ names, namesIn name = [name] := fun name hname =>
      (hclean name hname).namesIn_eq
    rw [List.flatMap_congr hread, List.flatMap_singleton']

end Finding

end NormalForms
