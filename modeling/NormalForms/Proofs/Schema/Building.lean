import Mathlib.Data.List.Forall2
import NormalForms.Proofs.Schema.Lookup

/-!
# What can be built

A table is built of its columns and then its constraints, each accepted or
refused in view of those before it. The elements of a well-formed table are all
accepted, and nothing but well-formed tables can be built of any elements
(`Table.wellFormed_iff_ofParts`).

A schema is built of tables whose keys are different, whatever else the tables
hold. So tables with the same keys one by one are accepted alike
(`Schema.ofTables_of_keys_eq`).
-/

namespace NormalForms

open Identifier

/-- Names are apart if their keys are different. -/
theorem namedApart_iff_nodup {α : Type} {name : α → String} {l : List α} :
    NamedApart name l ↔ (l.map fun a => key (name a)).Nodup := by
  have hne : ∀ a b, same (name a) (name b) = false ↔ key (name a) ≠ key (name b) := by
    intro a b
    rw [← Bool.not_eq_true, same_iff]
  rw [List.Nodup, List.pairwise_map, NamedApart]
  simp only [hne]

/-- Where lists agree one by one, so do what is read off their elements. -/
theorem map_eq_of_forall₂ {α β γ : Type} {R : α → β → Prop} {f : α → γ} {g : β → γ}
    (hR : ∀ {a b}, R a b → g b = f a) {l : List α} {l' : List β} (h : List.Forall₂ R l l') :
    l'.map g = l.map f := by
  induction h with
  | nil => rfl
  | cons hab _ ih => rw [List.map_cons, List.map_cons, hR hab, ih]

theorem exists_of_forall₂ {α β : Type} {R : α → β → Prop} {l : List α} {l' : List β}
    (h : List.Forall₂ R l l') {b : β} (hb : b ∈ l') : ∃ a ∈ l, R a b := by
  induction h with
  | nil => cases hb
  | cons hab _ ih =>
    rcases List.mem_cons.1 hb with rfl | hb
    · exact ⟨_, List.mem_cons_self, hab⟩
    · obtain ⟨a, ha, hR⟩ := ih hb
      exact ⟨a, List.mem_cons_of_mem _ ha, hR⟩

namespace Table

theorem foldlM_addColumn {t : Table} {cs : List Column}
    (h : NamedApart Column.name (t.columns ++ cs)) :
    cs.foldlM addColumn t = .ok { t with columns := t.columns ++ cs } := by
  induction cs generalizing t with
  | nil => rw [List.append_nil]; rfl
  | cons c cs ih =>
    have hnew : t.column? c.name = none := List.find?_eq_none.2 fun d hd => by
      rw [Column.hasName, (List.pairwise_append.1 h).2.2 d hd c List.mem_cons_self]
      exact Bool.false_ne_true
    have hrest : NamedApart Column.name ((t.columns ++ [c]) ++ cs) := by
      rwa [List.append_assoc]
    have hfold := ih (t := { t with columns := t.columns ++ [c] }) hrest
    rw [List.append_assoc] at hfold
    rw [List.foldlM_cons, addColumn_eq_ok_iff.2 ⟨hnew, rfl⟩]
    exact hfold

/-- A primary key is the first of its table, and a foreign key is paired. -/
theorem objection?_eq_none {t : Table} {c : Constraint} {cs : List Constraint}
    (hkey : ((t.constraints ++ c :: cs).filterMap Constraint.primaryKey?).length ≤ 1)
    (hpaired : ∀ fk, c.foreignKey? = some fk → fk.IsPaired) : t.objection? c = none := by
  cases c with
  | primaryKey name columns =>
    rw [WellFormed.objection?_primaryKey_eq_none_iff, primaryKey?, ← List.head?_filterMap,
      List.head?_eq_none_iff, ← List.length_eq_zero_iff]
    have hcons : (Constraint.primaryKey name columns :: cs).filterMap Constraint.primaryKey? =
        columns :: cs.filterMap Constraint.primaryKey? := rfl
    rw [List.filterMap_append, List.length_append, hcons, List.length_cons] at hkey
    omega
  | foreignKey fk => exact WellFormed.objection?_foreignKey_eq_none_iff.2 (hpaired fk rfl)
  | unique name columns => rfl
  | check name columns expression => rfl

theorem foldlM_addConstraint {t : Table} {cs : List Constraint}
    (hkey : ((t.constraints ++ cs).filterMap Constraint.primaryKey?).length ≤ 1)
    (hpaired : ∀ fk ∈ cs.filterMap Constraint.foreignKey?, fk.IsPaired) :
    cs.foldlM addConstraint t = .ok { t with constraints := t.constraints ++ cs } := by
  induction cs generalizing t with
  | nil => rw [List.append_nil]; rfl
  | cons c cs ih =>
    have hno : t.objection? c = none := objection?_eq_none hkey fun fk hfk =>
      hpaired fk (List.mem_filterMap.2 ⟨c, List.mem_cons_self, hfk⟩)
    have hrest : (((t.constraints ++ [c]) ++ cs).filterMap Constraint.primaryKey?).length ≤ 1 := by
      rwa [List.append_assoc]
    have hfold := ih (t := { t with constraints := t.constraints ++ [c] }) hrest fun fk hfk =>
      hpaired fk (((List.sublist_cons_self c cs).filterMap _).subset hfk)
    rw [List.append_assoc] at hfold
    rw [List.foldlM_cons, addConstraint_eq_ok_iff.2 ⟨hno, rfl⟩]
    exact hfold

/-- What is kept by each step that succeeds is kept by all. -/
theorem of_foldlM_eq_ok {α : Type} {add : Table → α → Except Rejection Table} {l : List α}
    {t t' : Table} (hadd : ∀ {t t' a}, t.WellFormed → add t a = .ok t' → t'.WellFormed)
    (h : t.WellFormed) (hok : l.foldlM add t = .ok t') : t'.WellFormed := by
  induction l generalizing t with
  | nil =>
    cases hok
    exact h
  | cons a l ih =>
    rw [List.foldlM_cons] at hok
    cases ha : add t a with
    | ok u =>
      rw [ha] at hok
      exact ih (hadd h ha) hok
    | error r =>
      rw [ha] at hok
      cases hok

theorem wellFormed_of_ofParts {name : String} {columns : List Column}
    {constraints : List Constraint} {t : Table} (h : ofParts name columns constraints = .ok t) :
    t.WellFormed := by
  unfold ofParts at h
  cases hc : columns.foldlM addColumn { name } with
  | ok u =>
    rw [hc] at h
    have hu : u.WellFormed := of_foldlM_eq_ok (fun ht hok => ht.addColumn hok) (.empty name) hc
    exact of_foldlM_eq_ok (fun ht hok => ht.addConstraint hok) hu h
  | error r =>
    rw [hc] at h
    cases h

/-- **The well-formed tables are those that can be built** of their elements. -/
theorem wellFormed_iff_ofParts {t : Table} :
    t.WellFormed ↔
      ofParts t.name t.columns t.constraints = .ok { t with relationships := [] } := by
  constructor
  · intro h
    have hcolumns : t.columns.foldlM addColumn { name := t.name } =
        .ok { name := t.name, columns := t.columns } := foldlM_addColumn h.columns
    unfold ofParts
    rw [hcolumns]
    exact foldlM_addConstraint h.key h.paired
  · intro h
    have hw := wellFormed_of_ofParts h
    exact ⟨hw.columns, hw.key, hw.paired⟩

end Table

namespace Schema

theorem ofTables_of_keys_eq {name : String} {ts ts' : List Table} {s : Schema}
    (h : ofTables name ts = .ok s)
    (hkeys : (ts'.map fun t => key t.name) = ts.map fun t => key t.name) (name' : String) :
    ofTables name' ts' = .ok (resolve { name := name', tables := ts' }) := by
  have hapart := namedApart_iff_nodup.1 (ofTables_eq_ok_iff.1 h).1
  rw [← hkeys] at hapart
  exact ofTables_eq_ok_iff.2 ⟨namedApart_iff_nodup.2 hapart, rfl⟩

end Schema

end NormalForms
