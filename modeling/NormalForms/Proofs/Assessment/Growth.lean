import Mathlib.Data.List.Flatten
import Mathlib.Data.List.Perm.Subperm
import NormalForms.Proofs.Assessment.Tablewise
import NormalForms.Proofs.Check.Presence
import NormalForms.Proofs.Finding.Columns

/-!
# Assessments of tables that grow

A table grows if it gains columns outside its primary key and keeps its
constraints, in whatever order they come (`Table.Grows`). What is found of a
table before it grows has its like afterwards: a group that blocks has at least
the members it had, and the conditions of the other rules ask for columns to be
there, never for columns not to be there. So a table that grows achieves no more,
and neither does its schema.
-/

namespace NormalForms

open Naming Identifier

/-- `t'` has the columns of `t`, the same primary key and the same foreign keys,
and its primary key names none of its further columns. -/
structure Table.Grows (t t' : Table) : Prop where
  primaryKey?_eq : t'.primaryKey? = t.primaryKey?
  mem_foreignKeys_iff : ∀ fk, fk ∈ t'.foreignKeys ↔ fk ∈ t.foreignKeys
  columns : t.columns.Subperm t'.columns
  keyColumns : t'.keyColumns = t.keyColumns

namespace Table.Grows

variable {t t' : Table}

/-- A column outside the key is such a gain. -/
theorem of_addColumn {c : Column} (hc : t.addColumn c = .ok t')
    (hkey : t.inPrimaryKey c.name = false) : t.Grows t' := by
  obtain ⟨-, rfl⟩ := addColumn_eq_ok_iff.1 hc
  refine ⟨rfl, fun _ => Iff.rfl, (List.sublist_append_left _ _).subperm,
    List.filterMap_congr fun name hname => ?_⟩
  have hno : c.hasName name = false := by
    have := List.any_eq_false.1 hkey name hname
    exact Bool.eq_false_iff.2 fun hs => this (same_symm hs)
  show List.find? _ (t.columns ++ [c]) = List.find? _ t.columns
  rw [List.find?_append, List.find?_singleton, hno]
  simp

theorem inPrimaryKey_eq (h : t.Grows t') : t'.inPrimaryKey = t.inPrimaryKey := by
  funext name
  rw [inPrimaryKey, keyNames, h.primaryKey?_eq, ← keyNames, ← inPrimaryKey]

theorem inForeignKey_eq (h : t.Grows t') : t'.inForeignKey = t.inForeignKey := by
  funext name
  rw [Bool.eq_iff_iff, inForeignKey, inForeignKey, List.any_eq_true, List.any_eq_true]
  simp only [h.mem_foreignKeys_iff]

theorem plainColumns (h : t.Grows t') : t.plainColumns.Subperm t'.plainColumns := by
  rw [Table.plainColumns, Table.plainColumns, h.inPrimaryKey_eq]
  exact h.columns.filter _

end Table.Grows

theorem ne_nil_of_subperm {α : Type} {l l' : List α} (h : l.Subperm l') (hl : l ≠ []) :
    l' ≠ [] := by
  rintro rfl
  exact hl (List.subperm_nil.1 h)

theorem subperm_flatMap {α β : Type} {l l' : List α} (h : l.Subperm l') (f : α → List β) :
    (l.flatMap f).Subperm (l'.flatMap f) := by
  obtain ⟨m, hperm, hsub⟩ := h
  exact ⟨m.flatMap f, hperm.flatMap_right f, hsub.flatMap f⟩

/-! ## The first form -/

/-- Fewer columns are a pair of identifiers all the more. -/
theorem Finding.isIdentifierPair_of_subperm {f f' : Finding} (hne : f.columns ≠ [])
    (hs : f.columns.Subperm f'.columns) (h : f'.isIdentifierPair = true) :
    f.isIdentifierPair = true := by
  simp only [isIdentifierPair, Bool.and_eq_true, Bool.not_eq_true', List.isEmpty_eq_false_iff,
    decide_eq_true_eq, List.all_eq_true] at h ⊢
  obtain ⟨⟨-, hlen⟩, hall⟩ := h
  exact ⟨⟨hne, Nat.le_trans hs.length_le hlen⟩, fun name hname => hall name (hs.subset hname)⟩

namespace Atomicity

variable {t t' : Table}

theorem groupMembers_subperm (h : t.Grows t') (base : String) :
    (groupMembers t base).Subperm (groupMembers t' base) :=
  h.columns.filter _

theorem mem_groupBases_of_grows (h : t.Grows t') {base : String} (hb : base ∈ groupBases t) :
    base ∈ groupBases t' := by
  have hbase : groupBase? t' = groupBase? t := by
    funext c
    rw [groupBase?, h.inPrimaryKey_eq, ← groupBase?]
  rw [groupBases, List.mem_eraseDups, List.mem_filterMap] at hb ⊢
  obtain ⟨c, hc, hcb⟩ := hb
  exact ⟨c, h.columns.subset hc, hbase.symm ▸ hcb⟩

theorem isGroup_of_grows (h : t.Grows t') {base : String} (hg : isGroup t base = true) :
    isGroup t' base = true := by
  have hm := groupMembers_subperm h base
  simp only [isGroup, Bool.and_eq_true, decide_eq_true_eq, List.any_eq_true] at hg ⊢
  obtain ⟨hlen, c, hc, hplain⟩ := hg
  exact ⟨Nat.le_trans hlen hm.length_le, c, hm.subset hc, by rwa [h.inPrimaryKey_eq]⟩

theorem isBlocking_repeatingGroup_iff {base : String} :
    (repeatingGroup t base).isBlocking = true ↔
      (repeatingGroup t base).isIdentifierPair = false := by
  show (!(repeatingGroup t base).isIdentifierPair) = true ↔ _
  rw [Bool.not_eq_true']

/-- A group that blocks goes on blocking. -/
theorem isBlocking_repeatingGroup_of_grows (h : t.Grows t') {base : String}
    (hg : isGroup t base = true) (hb : (repeatingGroup t base).isBlocking = true) :
    (repeatingGroup t' base).isBlocking = true := by
  have hs : (repeatingGroup t base).columns.Subperm (repeatingGroup t' base).columns := by
    rw [columns_repeatingGroup, columns_repeatingGroup]
    exact subperm_flatMap (groupMembers_subperm h base) _
  rw [isBlocking_repeatingGroup_iff] at hb ⊢
  rw [← Bool.not_eq_true] at hb ⊢
  exact fun hpair =>
    hb (Finding.isIdentifierPair_of_subperm (columns_repeatingGroup_ne_nil hg) hs hpair)

theorem isBlocking_of_grows (h : t.Grows t')
    (hb : (tableFindings t).any Finding.isBlocking = true) :
    (tableFindings t').any Finding.isBlocking = true := by
  rw [any_isBlocking_iff] at hb ⊢
  rcases hb with hkey | ⟨c, hc, hm⟩ | ⟨base, hbase, hg, hb⟩
  · exact .inl (h.primaryKey?_eq.trans hkey)
  · exact .inr (.inl ⟨c, h.columns.subset hc, hm⟩)
  · exact .inr (.inr ⟨base, mem_groupBases_of_grows h hbase, isGroup_of_grows h hg,
      isBlocking_repeatingGroup_of_grows h hg hb⟩)

end Atomicity

/-! ## The second form -/

namespace PartialDependency

variable {t t' : Table}

theorem foreignKeyDependents_subperm (h : t.Grows t') (fk : ForeignKey) :
    (foreignKeyDependents t fk).Subperm (foreignKeyDependents t' fk) := by
  rw [foreignKeyDependents, foreignKeyDependents, h.inForeignKey_eq]
  exact h.plainColumns.filter _

theorem mentioning_subperm (h : t.Grows t') (entity : String) :
    (mentioning t entity).Subperm (mentioning t' entity) :=
  h.plainColumns.filter _

theorem compositeFindings_ne_nil_of_grows (h : t.Grows t') (hne : compositeFindings t ≠ []) :
    compositeFindings t' ≠ [] := by
  rw [compositeFindings_ne_nil_iff] at hne ⊢
  rw [h.keyColumns]
  rcases hne with ⟨fk, hfk, hd⟩ | ⟨key, hkey, base, hbase, hlen, hm⟩ | ⟨c, hc, hkey⟩
  · rw [keyForeignKeys, List.mem_filter] at hfk
    have hfk' : fk ∈ keyForeignKeys t' := by
      rw [keyForeignKeys, h.inPrimaryKey_eq]
      exact List.mem_filter.2 ⟨(h.mem_foreignKeys_iff fk).2 hfk.1, hfk.2⟩
    exact .inl ⟨fk, hfk', ne_nil_of_subperm (foreignKeyDependents_subperm h fk) hd⟩
  · exact .inr (.inl ⟨key, hkey, base, hbase, hlen,
      ne_nil_of_subperm (mentioning_subperm h base) hm⟩)
  · exact .inr (.inr ⟨c, h.plainColumns.subset hc, hkey⟩)

theorem tableFindings_ne_nil_of_grows (h : t.Grows t') (hne : tableFindings t ≠ []) :
    tableFindings t' ≠ [] := by
  have hcomposite : isComposite t' = isComposite t := by
    rw [isComposite, h.keyColumns, isComposite]
  rw [tableFindings_ne_nil_iff] at hne ⊢
  rw [hcomposite]
  by_cases hc : isComposite t = true
  · rw [if_pos hc] at hne ⊢
    exact compositeFindings_ne_nil_of_grows h hne
  · rw [if_neg hc] at hne ⊢
    obtain ⟨fk, hfk, hd⟩ := hne
    exact ⟨fk, (h.mem_foreignKeys_iff fk).2 hfk,
      ne_nil_of_subperm (foreignKeyDependents_subperm h fk) hd⟩

end PartialDependency

/-! ## The third form -/

namespace TransitiveDependency

variable {t t' : Table}

theorem others_subset (h : t.Grows t') (c : Column) :
    others c t.plainColumns ⊆ others c t'.plainColumns :=
  (h.plainColumns.filter _).subset

theorem entityMembers_subperm (h : t.Grows t') (entity : String) :
    (entityMembers t entity).Subperm (entityMembers t' entity) :=
  h.plainColumns.filter _

theorem entityFindings_ne_nil_of_grows (h : t.Grows t') (hne : entityFindings t ≠ []) :
    entityFindings t' ≠ [] := by
  rw [entityFindings_ne_nil_iff] at hne ⊢
  obtain ⟨entity, hlen, c, hc, hi⟩ := hne
  have hm := entityMembers_subperm h entity
  exact ⟨entity, Nat.le_trans hlen hm.length_le, c, hm.subset hc, hi⟩

theorem isSome_labelFinding?_of_grows (h : t.Grows t') {code : Column}
    (hs : (labelFinding? t code).isSome = true) : (labelFinding? t' code).isSome = true := by
  rw [isSome_labelFinding?_iff] at hs ⊢
  obtain ⟨base, hbase, hne, c, hc, hl⟩ := hs
  exact ⟨base, hbase, hne, c, others_subset h code hc, hl⟩

theorem addressFindings_ne_nil_of_grows (h : t.Grows t') (hne : addressFindings t ≠ []) :
    addressFindings t' ≠ [] := by
  rw [addressFindings_ne_nil_iff] at hne ⊢
  exact Nat.le_trans hne (h.plainColumns.filter _).length_le

theorem derivedAmounts_ne_nil_of_grows (h : t.Grows t') (hne : derivedAmounts t ≠ []) :
    derivedAmounts t' ≠ [] := by
  have hm : (monetaryColumns t).Subperm (monetaryColumns t') := h.plainColumns.filter _
  rw [derivedAmounts_ne_nil_iff] at hne ⊢
  exact ⟨Nat.le_trans hne.1 hm.length_le, ne_nil_of_subperm (hm.filter _) hne.2⟩

theorem isSome_referenceFinding?_of_grows (h : t.Grows t') {c : Column}
    (hs : (referenceFinding? t c).isSome = true) : (referenceFinding? t' c).isSome = true := by
  rw [isSome_referenceFinding?_iff] at hs ⊢
  obtain ⟨base, hbase, hne, hfk, d, hd, hstart⟩ := hs
  rw [h.inForeignKey_eq]
  exact ⟨base, hbase, hne, hfk, d, others_subset h c hd, hstart⟩

theorem tableFindings_ne_nil_of_grows (h : t.Grows t') (hne : tableFindings t ≠ []) :
    tableFindings t' ≠ [] := by
  rw [tableFindings_ne_nil_iff] at hne ⊢
  have hplain := h.plainColumns.subset
  rcases hne with he | ⟨c, hc, hl⟩ | ha | hd | ⟨c, hc, hr⟩
  · exact .inl (entityFindings_ne_nil_of_grows h he)
  · exact .inr (.inl ⟨c, hplain hc, isSome_labelFinding?_of_grows h hl⟩)
  · exact .inr (.inr (.inl (addressFindings_ne_nil_of_grows h ha)))
  · exact .inr (.inr (.inr (.inl (derivedAmounts_ne_nil_of_grows h hd))))
  · exact .inr (.inr (.inr (.inr ⟨c, hplain hc, isSome_referenceFinding?_of_grows h hr⟩)))

end TransitiveDependency

/-! ## The form achieved -/

/-- Shut gates stay shut. -/
theorem level_anti {b b' : Bool} {p p' q q' : List Finding} (hb : b = true → b' = true)
    (hp : p ≠ [] → p' ≠ []) (hq : q ≠ [] → q' ≠ []) : level b' p' q' ≤ level b p q := by
  unfold level
  split_ifs <;> simp_all

/-- **A table that grows achieves no more.** -/
theorem Table.Grows.level_le {t t' : Table} (h : t.Grows t') : t'.level ≤ t.level :=
  level_anti (Atomicity.isBlocking_of_grows h) (PartialDependency.tableFindings_ne_nil_of_grows h)
    (TransitiveDependency.tableFindings_ne_nil_of_grows h)

namespace Schema

/-- **A further column achieves no more.** Let a schema be built of some tables,
and a column be accepted by one of them that its primary key does not name. The
tables with the column added build the same schema with the column added, and it
achieves at most the same form; whether a foreign key names the column does not
matter. -/
theorem rank_achieved_addColumn_le {name : String} {ts : List Table} {s : Schema}
    (h : ofTables name ts = .ok s) {i : Nat} {t t' : Table} (ht : s.tables[i]? = some t)
    {c : Column} (hc : t.addColumn c = .ok t') (hkey : t.inPrimaryKey c.name = false) :
    ∃ u u', ts[i]? = some u ∧ u.addColumn c = .ok u' ∧
      ofTables name (ts.set i u') = .ok { name := s.name, tables := s.tables.set i t' } ∧
      Form.rank (achieved { name := s.name, tables := s.tables.set i t' }) ≤
        Form.rank s.achieved := by
  obtain ⟨hapart, rfl⟩ := ofTables_eq_ok_iff.1 h
  have hi : (ts.map (resolveTable { name, tables := ts }))[i]? = some t := ht
  rw [List.getElem?_map] at hi
  obtain ⟨u, hu, rfl⟩ := Option.map_eq_some_iff.1 hi
  obtain ⟨hnew, rfl⟩ := Table.addColumn_eq_ok_iff.1 hc
  have hadd : u.addColumn c = .ok { u with columns := u.columns ++ [c] } :=
    Table.addColumn_eq_ok_iff.2 ⟨hnew, rfl⟩
  have hok : ofTables name (ts.set i { u with columns := u.columns ++ [c] }) = .ok _ :=
    ofTables_set h hu rfl rfl
  have hgrows : u.Grows { u with columns := u.columns ++ [c] } := by
    rw [apply_resolveTable Table.inPrimaryKey_withoutReferences] at hkey
    exact .of_addColumn hadd hkey
  have hlevel : ∀ v ∈ ts, ∃ v' ∈ ts.set i { u with columns := u.columns ++ [c] },
      v'.level ≤ v.level := by
    intro v hv
    obtain ⟨j, hj⟩ := List.getElem?_of_mem hv
    by_cases hij : i = j
    · subst hij
      cases hu.symm.trans hj
      exact ⟨_, List.mem_of_getElem? (List.getElem?_set_self (List.getElem?_eq_some_iff.1 hu).1),
        hgrows.level_le⟩
    · exact ⟨v, List.mem_of_getElem? ((List.getElem?_set_ne hij).trans hj), Nat.le_refl _⟩
  have hle := rank_achieved_le hlevel name name
  rw [← eq_resolve_of_ofTables hok] at hle
  exact ⟨u, _, hu, hadd, hok, hle⟩

/-- Customers that gain a list of telephone numbers lose the first form, which
their shop achieved without it. -/
theorem rank_achieved_addColumn_le_phones :
    let shop := resolve { name := "shop", tables := [orders, customers] }
    let phones : Column := ⟨"phones", "JSON", true, none⟩
    let reachable : Table := { customers with columns := customers.columns ++ [phones] }
    let more : Schema := { name := shop.name, tables := shop.tables.set 1 reachable }
    (ofTables "shop" [orders, customers] = .ok shop ∧ shop.tables[1]? = some customers ∧
      customers.addColumn phones = .ok reachable ∧
      customers.inPrimaryKey phones.name = false) ∧
    (∃ u u', [orders, customers][1]? = some u ∧ u.addColumn phones = .ok u' ∧
      ofTables "shop" ([orders, customers].set 1 u') = .ok more ∧
      Form.rank more.achieved ≤ Form.rank shop.achieved) ∧
    Form.rank shop.achieved = 1 ∧ Form.rank more.achieved = 0 := by
  intro shop phones reachable more
  have h : ofTables "shop" [orders, customers] = .ok shop := by decide +kernel
  have ht : shop.tables[1]? = some customers := by decide +kernel
  have hc : customers.addColumn phones = .ok reachable := by decide +kernel
  have hkey : customers.inPrimaryKey phones.name = false := by decide +kernel
  have hranks : Form.rank shop.achieved = 1 ∧ Form.rank more.achieved = 0 := by decide +kernel
  exact ⟨⟨h, ht, hc, hkey⟩, rank_achieved_addColumn_le h ht hc hkey, hranks⟩

end Schema

end NormalForms
