import NormalForms.Proofs.Assessment.Growth
import NormalForms.Proofs.Schema.Building

/-!
# Tables in another order

The columns of a table may be declared in another order, and so may its
constraints (`Table.Rearranged`). Of a well-formed table this changes nothing that
can be looked up: it has one primary key at most, which is found wherever it
stands, and one column under each name. So either of the two tables grows into
the other (`Rearranged.grows`), and they achieve the same, though what is found of
them may be another column of a group, or come in another order.
-/

namespace NormalForms

open Identifier

/-- `t'` has the columns of `t` and its constraints, in some order. -/
structure Table.Rearranged (t t' : Table) : Prop where
  name_eq : t'.name = t.name
  columns : t.columns.Perm t'.columns
  constraints : t.constraints.Perm t'.constraints

theorem eq_of_perm_of_length_le_one {α : Type} {l l' : List α} (h : l.Perm l')
    (hlen : l.length ≤ 1) : l = l' := by
  match l, hlen with
  | [], _ => exact h.nil_eq
  | [a], _ => exact List.singleton_perm.1 h

namespace Table.Rearranged

variable {t t' : Table}

theorem symm (h : t.Rearranged t') : t'.Rearranged t :=
  ⟨h.name_eq.symm, h.columns.symm, h.constraints.symm⟩

theorem mem_foreignKeys_iff (h : t.Rearranged t') (fk : ForeignKey) :
    fk ∈ t'.foreignKeys ↔ fk ∈ t.foreignKeys :=
  (h.constraints.filterMap _).mem_iff.symm

/-- A table that is rearranged can be built again. -/
theorem wellFormed (h : t.Rearranged t') (ht : t.WellFormed) : t'.WellFormed where
  columns := namedApart_iff_nodup.2
    ((h.columns.map _).nodup_iff.1 (namedApart_iff_nodup.1 ht.columns))
  key := by
    rw [← (h.constraints.filterMap Constraint.primaryKey?).length_eq]
    exact ht.key
  paired := fun fk hfk => ht.paired fk ((h.mem_foreignKeys_iff fk).1 hfk)

theorem primaryKey?_eq (h : t.Rearranged t') (ht : t.WellFormed) :
    t'.primaryKey? = t.primaryKey? := by
  rw [primaryKey?, primaryKey?, ← List.head?_filterMap, ← List.head?_filterMap,
    eq_of_perm_of_length_le_one (h.constraints.filterMap Constraint.primaryKey?) ht.key]

/-- A name finds the same column wherever it stands. -/
theorem column?_eq (h : t.Rearranged t') (ht : t.WellFormed) : t'.column? = t.column? := by
  funext name
  refine Option.ext fun c => ?_
  rw [(h.wellFormed ht).column?_eq_some_iff, ht.column?_eq_some_iff, h.columns.mem_iff]

theorem grows (h : t.Rearranged t') (ht : t.WellFormed) : t.Grows t' where
  primaryKey?_eq := h.primaryKey?_eq ht
  mem_foreignKeys_iff := h.mem_foreignKeys_iff
  columns := h.columns.subperm
  keyColumns := by
    rw [keyColumns, keyColumns, keyNames, keyNames, h.primaryKey?_eq ht, h.column?_eq ht]

theorem level_eq (h : t.Rearranged t') (ht : t.WellFormed) : t'.level = t.level :=
  Nat.le_antisymm (h.grows ht).level_le (h.symm.grows (h.wellFormed ht)).level_le

end Table.Rearranged

namespace Schema

/-- **The order inside tables does not count.** Let a schema be accepted of some
tables that can be built. If the columns and the constraints of any of them are
put into another order, the tables can be built as well and are accepted, and
their schema achieves the same form. -/
theorem achieved_rearranged {name : String} {ts ts' : List Table} {s : Schema}
    (h : ofTables name ts = .ok s) (hts : ∀ t ∈ ts, t.WellFormed)
    (harranged : List.Forall₂ Table.Rearranged ts ts') :
    (∀ t' ∈ ts', t'.WellFormed) ∧
      ∃ s', ofTables name ts' = .ok s' ∧ s'.achieved = s.achieved := by
  have hboth : List.Forall₂ (fun t t' => t.WellFormed ∧ t.Rearranged t') ts ts' :=
    (List.forall₂_and_left ts ts').2 ⟨hts, harranged⟩
  have hwellFormed : ∀ t' ∈ ts', t'.WellFormed := by
    intro t' ht'
    obtain ⟨t, -, ht, harr⟩ := exists_of_forall₂ hboth ht'
    exact harr.wellFormed ht
  have hkeys : (ts'.map fun t => key t.name) = ts.map fun t => key t.name :=
    map_eq_of_forall₂ (fun harr => congrArg key harr.name_eq) harranged
  have hlevels : ts'.map Table.level = ts.map Table.level :=
    map_eq_of_forall₂ (fun harr => harr.2.level_eq harr.1) hboth
  refine ⟨hwellFormed, _, ofTables_of_keys_eq h hkeys name, Form.rank_injective ?_⟩
  rw [eq_resolve_of_ofTables h, rank_achieved_resolve, rank_achieved_resolve]
  exact congrArg (List.foldr min 3) hlevels

/-- The columns and the constraints of a table in the opposite order. -/
theorem achieved_rearranged_orders :
    let shop := resolve { name := "shop", tables := [orders, customers] }
    let turned : Table := { orders with
      columns := orders.columns.reverse
      constraints := orders.constraints.reverse }
    (ofTables "shop" [orders, customers] = .ok shop ∧
      (∀ t ∈ [orders, customers], t.WellFormed) ∧
      List.Forall₂ Table.Rearranged [orders, customers] [turned, customers]) ∧
    turned ≠ orders ∧ Form.rank shop.achieved = 1 ∧
    (∀ t' ∈ [turned, customers], t'.WellFormed) ∧
      ∃ s', ofTables "shop" [turned, customers] = .ok s' ∧ s'.achieved = shop.achieved := by
  intro shop turned
  have h : ofTables "shop" [orders, customers] = .ok shop := by decide +kernel
  have hts : ∀ t ∈ [orders, customers], t.WellFormed := by
    simp only [List.forall_mem_cons, Table.wellFormed_iff_ofParts]
    exact ⟨by decide +kernel, by decide +kernel, List.forall_mem_nil _⟩
  have hturned : orders.Rearranged turned :=
    ⟨rfl, (List.reverse_perm _).symm, (List.reverse_perm _).symm⟩
  have harranged : List.Forall₂ Table.Rearranged [orders, customers] [turned, customers] :=
    .cons hturned (.cons ⟨rfl, .refl _, .refl _⟩ .nil)
  have hne : turned ≠ orders := by decide +kernel
  have hrank : Form.rank shop.achieved = 1 := by decide +kernel
  exact ⟨⟨h, hts, harranged⟩, hne, hrank, achieved_rearranged h hts harranged⟩

end Schema

end NormalForms
