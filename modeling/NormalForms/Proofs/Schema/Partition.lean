import Mathlib.Data.List.Dedup
import NormalForms.Check.PartialDependency
import NormalForms.Proofs.Schema.Session

/-!
# Columns of the key and columns outside it

The primary key is a list of names, and of these neither that they are declared nor
that they are different is asked. Each declared column is found by every name in the
key that means it (`count_keyColumns`), and stands outside the key if there is none. So
the columns of the key and those outside it are all columns of the table, each listed
once, unless the key names one of them again (`WellFormed.perm_columns_iff`); and it is
such a repetition alone by which a key of one column passes for a composite one
(`WellFormed.isComposite_iff`).
-/

namespace NormalForms

open Identifier

/-- A list is longer than one element if two of them differ, or one comes twice. -/
theorem one_lt_length_iff {α : Type} [DecidableEq α] {l : List α} :
    1 < l.length ↔ (∃ a ∈ l, ∃ b ∈ l, a ≠ b) ∨ ∃ a ∈ l, 2 ≤ l.count a := by
  match l with
  | [] => simp
  | [a] => simp
  | a :: b :: l =>
    refine iff_of_true (by simp) ?_
    by_cases hab : a = b
    · subst hab
      exact .inr ⟨a, List.mem_cons_self, by simp⟩
    · exact .inl ⟨a, by simp, b, by simp, hab⟩

namespace Table

variable {t : Table} {c : Column}

/-- How many names in the primary key mean the column. -/
def timesInKey (t : Table) (c : Column) : Nat := t.keyNames.countP fun n => same n c.name

theorem inPrimaryKey_iff_pos : t.inPrimaryKey c.name = true ↔ 0 < t.timesInKey c := by
  rw [inPrimaryKey, List.any_eq_true, timesInKey, List.countP_pos_iff]

/-- The primary key covers two different columns of the table. -/
def KeyCoversTwo (t : Table) : Prop :=
  ∃ a ∈ t.columns, ∃ b ∈ t.columns,
    a ≠ b ∧ t.inPrimaryKey a.name = true ∧ t.inPrimaryKey b.name = true

instance (t : Table) : Decidable t.KeyCoversTwo :=
  inferInstanceAs (Decidable (∃ a ∈ t.columns, ∃ b ∈ t.columns, _))

namespace WellFormed

theorem nodup_columns (h : t.WellFormed) : t.columns.Nodup := by
  refine h.columns.imp fun hab => ?_
  rintro rfl
  rw [same_refl] at hab
  cases hab

/-- **A column of the key** is listed once for each name that means it. -/
theorem count_keyColumns (h : t.WellFormed) (hc : c ∈ t.columns) :
    t.keyColumns.count c = t.timesInKey c := by
  rw [keyColumns, List.count_filterMap, timesInKey]
  refine List.countP_congr fun n _ => ?_
  rw [beq_iff_eq, h.column?_eq_some_iff]
  exact ⟨fun hn => same_symm hn.2, fun hn => ⟨hc, same_symm hn⟩⟩

/-- A column outside the key is listed once. -/
theorem count_plainColumns (h : t.WellFormed) (hc : c ∈ t.columns) :
    t.plainColumns.count c = if t.inPrimaryKey c.name then 0 else 1 := by
  cases hkey : t.inPrimaryKey c.name with
  | true =>
    refine List.count_eq_zero.2 fun hm => ?_
    have hout := (List.mem_filter.1 hm).2
    rw [hkey] at hout
    cases hout
  | false =>
    have hplain : c ∈ t.plainColumns := List.mem_filter.2 ⟨hc, by rw [hkey]; rfl⟩
    exact List.count_eq_one_of_mem (h.nodup_columns.filter _) hplain

theorem mem_keyColumns_iff (h : t.WellFormed) :
    c ∈ t.keyColumns ↔ c ∈ t.columns ∧ t.inPrimaryKey c.name = true := by
  rw [keyColumns, List.mem_filterMap, inPrimaryKey, List.any_eq_true]
  constructor
  · rintro ⟨n, hn, hc⟩
    obtain ⟨hm, hs⟩ := h.column?_eq_some_iff.1 hc
    exact ⟨hm, n, hn, same_symm hs⟩
  · rintro ⟨hm, n, hn, hs⟩
    exact ⟨n, hn, h.column?_eq_some_iff.2 ⟨hm, same_symm hs⟩⟩

/-- **Every column is listed**, and again only where the key names it again. -/
theorem count_key_append_plain (h : t.WellFormed) (c : Column) :
    (t.keyColumns ++ t.plainColumns).count c =
      if c ∈ t.columns then max 1 (t.timesInKey c) else 0 := by
  rw [List.count_append]
  split
  · rename_i hc
    rw [h.count_keyColumns hc, h.count_plainColumns hc]
    simp only [inPrimaryKey_iff_pos]
    split <;> omega
  · rename_i hc
    have hkey : c ∉ t.keyColumns := fun hm => hc (h.mem_keyColumns_iff.1 hm).1
    have hplain : c ∉ t.plainColumns := fun hm => hc (List.mem_filter.1 hm).1
    rw [List.count_eq_zero.2 hkey, List.count_eq_zero.2 hplain]

theorem perm_columns_iff (h : t.WellFormed) :
    (t.keyColumns ++ t.plainColumns).Perm t.columns ↔ ∀ c ∈ t.columns, t.timesInKey c ≤ 1 := by
  rw [List.perm_iff_count]
  constructor
  · intro hcount c hc
    have hone := hcount c
    rw [h.count_key_append_plain, if_pos hc, List.count_eq_one_of_mem h.nodup_columns hc] at hone
    omega
  · intro honce c
    rw [h.count_key_append_plain]
    split
    · rename_i hc
      have hle := honce c hc
      rw [List.count_eq_one_of_mem h.nodup_columns hc]
      omega
    · rename_i hc
      exact (List.count_eq_zero.2 hc).symm

/-- The columns of the key, each once, and those outside it are those of the table. -/
theorem perm_dedup_columns (h : t.WellFormed) :
    (t.keyColumns.dedup ++ t.plainColumns).Perm t.columns := by
  have hapart : t.keyColumns.dedup.Disjoint t.plainColumns := by
    intro c hkey hplain
    have hin := (h.mem_keyColumns_iff.1 (List.mem_dedup.1 hkey)).2
    have hout := (List.mem_filter.1 hplain).2
    rw [hin] at hout
    cases hout
  have hnodup : (t.keyColumns.dedup ++ t.plainColumns).Nodup :=
    List.Nodup.append (List.nodup_dedup _) (h.nodup_columns.filter _) hapart
  refine (List.perm_ext_iff_of_nodup hnodup h.nodup_columns).2 fun c => ?_
  rw [List.mem_append, List.mem_dedup, h.mem_keyColumns_iff, plainColumns, List.mem_filter]
  cases t.inPrimaryKey c.name <;> simp

/-- **A key passes for a composite one** if it covers two columns, or names one twice. -/
theorem isComposite_iff (h : t.WellFormed) : PartialDependency.isComposite t = true ↔
    t.KeyCoversTwo ∨ ∃ c ∈ t.columns, 2 ≤ t.timesInKey c := by
  rw [PartialDependency.isComposite, decide_eq_true_iff, one_lt_length_iff]
  refine or_congr ?_ ?_
  · constructor
    · rintro ⟨a, ha, b, hb, hab⟩
      rw [h.mem_keyColumns_iff] at ha hb
      exact ⟨a, ha.1, b, hb.1, hab, ha.2, hb.2⟩
    · rintro ⟨a, ha, b, hb, hab, hakey, hbkey⟩
      exact ⟨a, h.mem_keyColumns_iff.2 ⟨ha, hakey⟩, b, h.mem_keyColumns_iff.2 ⟨hb, hbkey⟩, hab⟩
  · constructor
    · rintro ⟨c, hc, htwice⟩
      have hm := (h.mem_keyColumns_iff.1 hc).1
      exact ⟨c, hm, h.count_keyColumns hm ▸ htwice⟩
    · rintro ⟨c, hc, htwice⟩
      rw [← h.count_keyColumns hc] at htwice
      exact ⟨c, List.count_pos_iff.1 (by omega), htwice⟩

end WellFormed

end Table

namespace Session

/-- **The primary key parts the columns** of every table in hand, whatever the calls.
Each column is of the key or outside it and not both; a column outside the key is
listed once, and a column of the key as often as the key names it. So the two lists are
the columns of the table just if the key names no column twice, and then the key is
composite just if it covers two columns. -/
theorem columns_parted_by_key (calls : List Call) {t : Table} (ht : t ∈ (run calls).allTables) :
    (∀ c, (t.keyColumns ++ t.plainColumns).count c =
      if c ∈ t.columns then max 1 (t.timesInKey c) else 0) ∧
    (t.keyColumns.dedup ++ t.plainColumns).Perm t.columns ∧
    ((t.keyColumns ++ t.plainColumns).Perm t.columns ↔ ∀ c ∈ t.columns, t.timesInKey c ≤ 1) ∧
    (PartialDependency.isComposite t = true ↔
      t.KeyCoversTwo ∨ ∃ c ∈ t.columns, 2 ≤ t.timesInKey c) ∧
    ((∀ c ∈ t.columns, t.timesInKey c ≤ 1) →
      (PartialDependency.isComposite t = true ↔ t.KeyCoversTwo)) := by
  have h := (sound_run calls).allTables ht
  refine ⟨h.count_key_append_plain, h.perm_dedup_columns, h.perm_columns_iff, h.isComposite_iff,
    fun honce => h.isComposite_iff.trans (or_iff_left ?_)⟩
  rintro ⟨c, hc, htwice⟩
  have hle := honce c hc
  omega

def orderId : Column := { name := "order_id", dataType := "INT" }

def productId : Column := { name := "product_id", dataType := "INT" }

def quantity : Column := { name := "quantity", dataType := "INT" }

/-- A table with a key of two columns, one of them named in brackets. -/
def orderItems : List Call :=
  [.newTable "order_items", .addColumn 0 orderId, .addColumn 0 productId, .addColumn 0 quantity,
    .addConstraint 0 (.primaryKey none ["[product_id]", "order_id"])]

theorem columns_parted_by_key_orderItems :
    let t : Table :=
      { name := "order_items"
        columns := [orderId, productId, quantity]
        constraints := [.primaryKey none ["[product_id]", "order_id"]] }
    (t ∈ (run orderItems).allTables ∧ ∀ c ∈ t.columns, t.timesInKey c ≤ 1) ∧
    ([productId, orderId] ++ [quantity]).Perm t.columns ∧
    (PartialDependency.isComposite t = true ↔ t.KeyCoversTwo) ∧ t.KeyCoversTwo := by
  intro t
  have ht : t ∈ (run orderItems).allTables := by decide +kernel
  have honce : ∀ c ∈ t.columns, t.timesInKey c ≤ 1 := by decide +kernel
  have hkey : t.keyColumns = [productId, orderId] := by decide +kernel
  have hplain : t.plainColumns = [quantity] := by decide +kernel
  obtain ⟨-, -, hperm, -, hcomposite⟩ := columns_parted_by_key orderItems ht
  rw [hkey, hplain] at hperm
  exact ⟨⟨ht, honce⟩, hperm.2 honce, hcomposite honce, by decide +kernel⟩

def orderDate : Column := { name := "order_date", dataType := "DATE" }

/-- A table with a key of one column, named twice. -/
def ordersKeyedTwice : List Call :=
  [.newTable "orders", .addColumn 0 orderId, .addColumn 0 orderDate,
    .addConstraint 0 (.primaryKey none ["order_id", "order_id"])]

/-- **A column that the key names twice is listed twice**, and makes its key pass for a
composite one: another column is then said to depend on a part of the key. -/
theorem exists_key_named_twice :
    ∃ t ∈ (run ordersKeyedTwice).allTables,
      t.keyColumns = [orderId, orderId] ∧ t.plainColumns = [orderDate] ∧
      ¬ (t.keyColumns ++ t.plainColumns).Perm t.columns ∧
      PartialDependency.isComposite t = true ∧ ¬ t.KeyCoversTwo ∧
      (PartialDependency.tableFindings t).map Finding.columns =
        [["order_date"], ["order_date"], ["order_date"]] := by
  refine ⟨⟨"orders", [orderId, orderDate], [.primaryKey none ["order_id", "order_id"]], []⟩, ?_⟩
  decide +kernel

end Session

end NormalForms
