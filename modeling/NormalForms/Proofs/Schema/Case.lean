import NormalForms.Proofs.Naming.Case
import NormalForms.Proofs.Schema.Building

/-!
# Tables in small letters

`Table.folded` is a table with all its names and types in small letters. Tables
that differ in letter case alone are those with the same folded table. Looking up
in the folded table finds the folded elements, in the same order, whatever the
case of the name that is looked up; and the table can be built if the folded one
can be.
-/

namespace NormalForms

open Text Identifier

/-! ## Folding -/

def Column.folded (c : Column) : Column :=
  { c with name := lower c.name, dataType := lower c.dataType }

def ForeignKey.folded (fk : ForeignKey) : ForeignKey where
  name := fk.name.map lower
  columns := fk.columns.map lower
  target := lower fk.target
  targetColumns := fk.targetColumns.map lower

def Constraint.folded : Constraint → Constraint
  | primaryKey name columns => primaryKey (name.map lower) (columns.map lower)
  | foreignKey fk => foreignKey fk.folded
  | unique name columns => unique (name.map lower) (columns.map lower)
  | check name columns expression => check (name.map lower) (columns.map lower) expression

/-- The table in small letters. Relationships are left out: they are found by the
schema. -/
def Table.folded (t : Table) : Table where
  name := lower t.name
  columns := t.columns.map Column.folded
  constraints := t.constraints.map Constraint.folded

/-- `t'` differs from `t` in the case of letters alone, which may be another at
each place. -/
def Table.IsCaseVariant (t t' : Table) : Prop := t'.folded = t.folded

theorem Constraint.primaryKey?_folded (c : Constraint) :
    c.folded.primaryKey? = c.primaryKey?.map (List.map lower) := by
  cases c <;> rfl

theorem Constraint.foreignKey?_folded (c : Constraint) :
    c.folded.foreignKey? = c.foreignKey?.map ForeignKey.folded := by
  cases c <;> rfl

/-! ## Looking up in a folded table -/

section Lists

variable {α β : Type} {f : α → β} {p : α → Bool} {q : β → Bool} (h : ∀ a, q (f a) = p a)
include h

theorem filter_map_of_comp (l : List α) : (l.map f).filter q = (l.filter p).map f := by
  rw [List.filter_map]
  exact congrArg (List.map f) (List.filter_congr fun a _ => h a)

theorem find?_map_of_comp (l : List α) : (l.map f).find? q = (l.find? p).map f := by
  rw [List.find?_map]
  exact congrArg (Option.map f) (congrArg (List.find? · l) (funext h))

end Lists

namespace Table

variable (t : Table)

@[simp] theorem name_folded : t.folded.name = lower t.name := rfl

@[simp] theorem columns_folded : t.folded.columns = t.columns.map Column.folded := rfl

@[simp] theorem primaryKey?_folded :
    t.folded.primaryKey? = t.primaryKey?.map (List.map lower) := by
  rw [primaryKey?, primaryKey?, ← List.head?_filterMap, ← List.head?_filterMap, ← List.head?_map,
    List.map_filterMap, folded, List.filterMap_map]
  exact congrArg List.head? (List.filterMap_congr fun c _ => c.primaryKey?_folded)

@[simp] theorem keyNames_folded : t.folded.keyNames = t.keyNames.map lower := by
  rw [keyNames, keyNames, primaryKey?_folded]
  cases t.primaryKey? <;> rfl

theorem column?_folded (name : String) :
    t.folded.column? (lower name) = (t.column? name).map Column.folded := by
  refine find?_map_of_comp (fun c => ?_) t.columns
  rw [Column.hasName, Column.folded, same_lower_left, same_lower_right, Column.hasName]

@[simp] theorem inPrimaryKey_folded : t.folded.inPrimaryKey = t.inPrimaryKey := by
  funext name
  rw [inPrimaryKey, inPrimaryKey, keyNames_folded, List.any_map]
  refine congrArg (List.any t.keyNames) (funext fun n => ?_)
  rw [Function.comp_apply, same_lower_left]

@[simp] theorem inPrimaryKey_lower (name : String) :
    t.inPrimaryKey (lower name) = t.inPrimaryKey name := by
  simp only [inPrimaryKey, same_lower_right]

@[simp] theorem keyColumns_folded : t.folded.keyColumns = t.keyColumns.map Column.folded := by
  rw [keyColumns, keyColumns, keyNames_folded, List.filterMap_map, List.map_filterMap]
  exact List.filterMap_congr fun name _ => t.column?_folded name

@[simp] theorem plainColumns_folded :
    t.folded.plainColumns = t.plainColumns.map Column.folded := by
  refine filter_map_of_comp (fun c => ?_) t.columns
  rw [inPrimaryKey_folded, Column.folded, inPrimaryKey_lower]

@[simp] theorem foreignKeys_folded :
    t.folded.foreignKeys = t.foreignKeys.map ForeignKey.folded := by
  rw [foreignKeys, foreignKeys, folded, List.filterMap_map, List.map_filterMap]
  exact List.filterMap_congr fun c _ => c.foreignKey?_folded

@[simp] theorem inForeignKey_folded : t.folded.inForeignKey = t.inForeignKey := by
  funext name
  rw [inForeignKey, inForeignKey, foreignKeys_folded, List.any_map]
  refine congrArg (List.any t.foreignKeys) (funext fun fk => ?_)
  rw [Function.comp_apply, ForeignKey.covers, ForeignKey.folded, List.any_map]
  simp only [Function.comp_def, same_lower_left]
  rfl

@[simp] theorem inForeignKey_lower (name : String) :
    t.inForeignKey (lower name) = t.inForeignKey name := by
  simp only [inForeignKey, ForeignKey.covers, same_lower_right]

/-- A table can be built if it can be built in small letters. -/
theorem wellFormed_folded_iff : t.folded.WellFormed ↔ t.WellFormed := by
  have hkeys : (t.folded.columns.map fun c => key c.name) = t.columns.map fun c => key c.name := by
    rw [columns_folded, List.map_map]
    exact List.map_congr_left fun c _ => key_lower c.name
  have hlength : (t.folded.constraints.filterMap Constraint.primaryKey?).length =
      (t.constraints.filterMap Constraint.primaryKey?).length := by
    rw [folded, List.filterMap_map, List.filterMap_congr fun c _ => c.primaryKey?_folded,
      ← List.map_filterMap, List.length_map]
  have hpaired : ∀ fk : ForeignKey, fk.folded.IsPaired ↔ fk.IsPaired := by
    intro fk
    simp only [ForeignKey.IsPaired, ForeignKey.folded, List.map_eq_nil_iff, List.length_map]
  have hall : (∀ fk ∈ t.folded.foreignKeys, fk.IsPaired) ↔ ∀ fk ∈ t.foreignKeys, fk.IsPaired := by
    rw [foreignKeys_folded, List.forall_mem_map]
    simp only [hpaired]
  constructor
  · intro h
    refine ⟨?_, hlength ▸ h.key, hall.1 h.paired⟩
    rw [namedApart_iff_nodup, ← hkeys, ← namedApart_iff_nodup]
    exact h.columns
  · intro h
    refine ⟨?_, hlength ▸ h.key, hall.2 h.paired⟩
    rw [namedApart_iff_nodup, hkeys, ← namedApart_iff_nodup]
    exact h.columns

theorem IsCaseVariant.wellFormed {t t' : Table} (h : t.IsCaseVariant t') (ht : t.WellFormed) :
    t'.WellFormed := by
  rw [← wellFormed_folded_iff, IsCaseVariant] at *
  rw [h]
  exact ht

end Table

end NormalForms
