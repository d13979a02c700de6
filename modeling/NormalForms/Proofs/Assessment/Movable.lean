import Mathlib.Data.List.Nodup
import NormalForms.Proofs.Assessment.Gate
import NormalForms.Proofs.Schema.Session

/-!
# Columns that could be moved

A finding against the second or the third form advises to move columns into
another table. Of whatever table it is raised, these are declared columns outside
the primary key, and there is one at least (`Table.Movable`); and what they are
said to depend on, a foreign key or another column, is not among them
(`Finding.Concerns`). All that is needed for it is that columns of one table have
different names: two members of a group are then two columns, and one is left
when the column that identifies the group is taken away.

The findings of a form come in the order of the tables they are raised of.
-/

namespace NormalForms

open Identifier

/-! ## Columns and what they depend on -/

/-- Columns of the table outside its primary key, of different names and in the
order in which they are declared, one at least. -/
structure Table.Movable (t : Table) (cs : List Column) : Prop where
  ne_nil : cs ≠ []
  sublist : cs.Sublist t.columns
  apart : NamedApart Column.name cs
  plain : ∀ c ∈ cs, t.inPrimaryKey c.name = false

/-- What columns may depend on. -/
inductive Determinant where
  | foreignKey (fk : ForeignKey)
  | column (c : Column)

namespace Determinant

def names : Determinant → List String
  | foreignKey fk => fk.columns
  | column c => [c.name]

/-- The texts and the remedy of a finding about the columns `cs` of the table are
keyed by the determinant: a foreign key, a column of the primary key, or a column
outside it. -/
inductive Keys (t : Table) (cs : List Column) : Determinant → Finding → Prop
  | foreignKey {fk : ForeignKey} (scope : String) (mem : fk ∈ t.foreignKeys)
      (dependents : cs = PartialDependency.foreignKeyDependents t fk) :
      Keys t cs (.foreignKey fk) (PartialDependency.foreignKeyFinding t scope fk)
  | keyColumn {c : Column} (subject base : String) (mem : c ∈ t.keyColumns) :
      Keys t cs (.column c) (PartialDependency.keyColumnFinding t c cs subject base)
  | plainColumn {c : Column} (mem : c ∈ t.plainColumns) :
      Keys t cs (.column c) (TransitiveDependency.dependencyFinding t c cs)

/-- No column of `cs` is one that the determinant names, and none takes part in a
foreign key if the determinant is one. -/
structure Apart (t : Table) (cs : List Column) (d : Determinant) : Prop where
  names : ∀ n ∈ d.names, ∀ c ∈ cs, same c.name n = false
  references : ∀ fk, d = .foreignKey fk → ∀ c ∈ cs, t.inForeignKey c.name = false

end Determinant

/-- The finding is about the movable columns `cs` of the table. If it says that
they depend on something, then on something apart from them. -/
structure Finding.Concerns (f : Finding) (t : Table) (cs : List Column) : Prop where
  table_eq : f.table = t.name
  columnText?_eq : f.columnText? = some (String.intercalate ", " (cs.map Column.name))
  movable : t.Movable cs
  keyed : f.kind = .partialDependency ∨ f.kind = .transitiveDependency →
    ∃ d : Determinant, d.Keys t cs f ∧ d.Apart t cs

/-! ## Tables -/

namespace Table

variable {t : Table} {cs : List Column}

theorem inPrimaryKey_of_mem_keyColumns {c : Column} (hc : c ∈ t.keyColumns) :
    t.inPrimaryKey c.name = true := by
  obtain ⟨name, hname, hc⟩ := List.mem_filterMap.1 hc
  rw [column?] at hc
  have hsame : c.hasName name = true := by simpa using List.find?_some hc
  exact List.any_eq_true.2 ⟨name, hname, same_symm hsame⟩

/-- Names in the primary key are told by their keys alone. -/
theorem inPrimaryKey_congr {a b : String} (h : same a b = true) :
    t.inPrimaryKey a = t.inPrimaryKey b := by
  have hkey : ∀ n, same n a = same n b := by
    intro n
    rw [same, same, same_iff.1 h]
  rw [inPrimaryKey, inPrimaryKey]
  simp only [hkey]

theorem WellFormed.movable (h : t.WellFormed) (hne : cs ≠ []) (hs : cs.Sublist t.plainColumns) :
    t.Movable cs where
  ne_nil := hne
  sublist := hs.trans List.filter_sublist
  apart := h.columns.sublist (hs.trans List.filter_sublist)
  plain := fun _ hc => inPrimaryKey_of_mem_plainColumns (hs.subset hc)

end Table

/-! ## The second form -/

namespace PartialDependency

variable {t : Table} {f : Finding}

theorem concerns_foreignKeyFinding (h : t.WellFormed) (scope : String) {fk : ForeignKey}
    (hfk : fk ∈ t.foreignKeys) (hne : foreignKeyDependents t fk ≠ []) :
    (foreignKeyFinding t scope fk).Concerns t (foreignKeyDependents t fk) where
  table_eq := rfl
  columnText?_eq := rfl
  movable := h.movable hne List.filter_sublist
  keyed := fun _ => by
    have houtside : ∀ c ∈ foreignKeyDependents t fk, t.inForeignKey c.name = false := by
      intro c hc
      have hp := (List.mem_filter.1 hc).2
      rw [Bool.and_eq_true, Bool.not_eq_true'] at hp
      exact hp.1
    refine ⟨.foreignKey fk, .foreignKey scope hfk rfl, ⟨fun n hn c hc => ?_, fun _ _ => houtside⟩⟩
    have hcovers := List.any_eq_false.1 (houtside c hc) fk hfk
    exact Bool.eq_false_iff.2 fun hs => hcovers (List.any_eq_true.2 ⟨n, hn, same_symm hs⟩)

theorem concerns_keyColumnFinding (h : t.WellFormed) {key : Column} (hkey : key ∈ t.keyColumns)
    {cs : List Column} (hne : cs ≠ []) (hs : cs.Sublist t.plainColumns) (subject base : String) :
    (keyColumnFinding t key cs subject base).Concerns t cs where
  table_eq := rfl
  columnText?_eq := rfl
  movable := h.movable hne hs
  keyed := fun _ => by
    refine ⟨.column key, .keyColumn subject base hkey, ⟨fun n hn c hc => ?_, fun fk he => ?_⟩⟩
    · cases List.mem_singleton.1 hn
      -- a column outside the primary key has no name that is in it
      have hplain := Table.inPrimaryKey_of_mem_plainColumns (hs.subset hc)
      refine Bool.eq_false_iff.2 fun hsame => ?_
      rw [Table.inPrimaryKey_congr hsame, Table.inPrimaryKey_of_mem_keyColumns hkey] at hplain
      cases hplain
    · cases he

theorem exists_concerns (h : t.WellFormed) (hf : f ∈ tableFindings t) :
    ∃ cs, f.Concerns t cs := by
  rcases mem_tableFindings hf with ⟨scope, fk, hfk, hne, rfl⟩ |
    ⟨key, hkey, cs, subject, base, hne, hs, rfl⟩
  · exact ⟨_, concerns_foreignKeyFinding h scope hfk hne⟩
  · exact ⟨cs, concerns_keyColumnFinding h hkey hne hs subject base⟩

end PartialDependency

/-! ## The third form -/

namespace TransitiveDependency

variable {t : Table} {f : Finding}

/-- Of two columns of different names, one has another name than a third. -/
theorem others_ne_nil {cs : List Column} (h : NamedApart Column.name cs) (hlen : 2 ≤ cs.length)
    (c : Column) : others c cs ≠ [] := by
  match cs, hlen with
  | a :: b :: cs, _ =>
    have hab : same a.name b.name = false := (List.pairwise_cons.1 h).1 b (List.mem_cons_self ..)
    intro hnil
    have hnone := List.filter_eq_nil_iff.1 hnil
    simp only [Bool.not_eq_true', Bool.not_eq_false] at hnone
    have ha : same a.name c.name = true := hnone a (List.mem_cons_self ..)
    have hb : same b.name c.name = true := hnone b (List.mem_cons_of_mem _ (List.mem_cons_self ..))
    rw [same_trans ha (same_symm hb)] at hab
    cases hab

theorem concerns_dependencyFinding (h : t.WellFormed) {c : Column} (hc : c ∈ t.plainColumns)
    {cs : List Column} (hne : others c cs ≠ []) (hs : cs.Sublist t.plainColumns) :
    (dependencyFinding t c (others c cs)).Concerns t (others c cs) where
  table_eq := rfl
  columnText?_eq := rfl
  movable := h.movable hne (List.filter_sublist.trans hs)
  keyed := fun _ => by
    refine ⟨.column c, .plainColumn hc, ⟨fun n hn d hd => ?_, fun fk he => ?_⟩⟩
    · cases List.mem_singleton.1 hn
      have hp := (List.mem_filter.1 hd).2
      rwa [Bool.not_eq_true'] at hp
    · cases he

/-- A finding that says of no dependency only has to be about movable columns. -/
theorem concerns_of_kind {cs : List Column} (h : t.WellFormed) (htable : f.table = t.name)
    (htext : f.columnText? = some (String.intercalate ", " (cs.map Column.name)))
    (hkind : f.kind = .addressDenormalization ∨ f.kind = .calculatedField) (hne : cs ≠ [])
    (hs : cs.Sublist t.plainColumns) : f.Concerns t cs where
  table_eq := htable
  columnText?_eq := htext
  movable := h.movable hne hs
  keyed := fun hdep => by
    rcases hkind with hk | hk <;> rw [hk] at hdep <;> rcases hdep with hdep | hdep <;> cases hdep

theorem exists_concerns (h : t.WellFormed) (hf : f ∈ tableFindings t) :
    ∃ cs, f.Concerns t cs := by
  rcases mem_tableFindings hf with ⟨c, hc, cs, hs, hothers, rfl⟩ | ⟨haddress, rfl⟩ | hf
  · have hapart : NamedApart Column.name cs := h.columns.sublist (hs.trans List.filter_sublist)
    have hne : others c cs ≠ [] := hothers.elim (fun hlen => others_ne_nil hapart hlen c) id
    exact ⟨_, concerns_dependencyFinding h hc hne hs⟩
  · exact ⟨_, concerns_of_kind h rfl rfl (.inl rfl) haddress.ne_nil List.filter_sublist⟩
  · obtain ⟨hne, htable, htext⟩ := columnText?_of_mem_derivedAmounts hf
    exact ⟨_, concerns_of_kind h htable htext (.inr (of_mem_derivedAmounts hf).2.1) hne
      (List.filter_sublist.trans List.filter_sublist)⟩

end TransitiveDependency

/-! ## Schemas -/

namespace Schema

variable {s : Schema}

/-- The position of the table of a name. -/
def position (s : Schema) (name : String) : Nat := (s.tables.map Table.name).idxOf name

theorem WellFormed.nodup_names (h : s.WellFormed) : (s.tables.map Table.name).Nodup := by
  refine List.pairwise_map.2 (h.names.imp fun hapart he => ?_)
  rw [he, same_refl] at hapart
  cases hapart

theorem WellFormed.pairwise_position (h : s.WellFormed) :
    s.tables.Pairwise fun t u => s.position t.name ≤ s.position u.name := by
  rw [List.pairwise_iff_getElem]
  intro i j hi hj hij
  have hpos : ∀ k (hk : k < s.tables.length), s.position s.tables[k].name = k := by
    intro k hk
    have hidx := h.nodup_names.idxOf_getElem k (by rwa [List.length_map])
    rwa [List.getElem_map] at hidx
  rw [hpos i hi, hpos j hj]
  exact Nat.le_of_lt hij

/-- Findings raised table by table come in the order of the tables. -/
theorem WellFormed.pairwise_flatMap (h : s.WellFormed) {check : Table → List Finding}
    (hcheck : ∀ t ∈ s.tables, ∀ f ∈ check t, f.table = t.name) :
    (s.tables.flatMap check).Pairwise fun f g => s.position f.table ≤ s.position g.table := by
  refine List.pairwise_flatMap.2 ⟨fun t ht => ?_, ?_⟩
  · refine List.pairwise_of_forall_mem_list fun f hf g hg => Nat.le_of_eq ?_
    rw [hcheck t ht f hf, hcheck t ht g hg]
  · refine h.pairwise_position.imp_of_mem fun ht hu hle f hf g hg => ?_
    rwa [hcheck _ ht f hf, hcheck _ hu g hg]

theorem secondFindings_sublist (s : Schema) :
    s.secondFindings.Sublist (s.tables.flatMap PartialDependency.tableFindings) := by
  cases hs : Atomicity.isBlocked s with
  | true =>
    rw [secondFindings_of_isBlocked hs]
    exact List.nil_sublist _
  | false =>
    rw [secondFindings_of_not_isBlocked hs, PartialDependency.findings_of_not_isBlocked hs]

theorem thirdFindings_sublist (s : Schema) :
    s.thirdFindings.Sublist (s.tables.flatMap TransitiveDependency.tableFindings) := by
  unfold thirdFindings
  split
  · exact List.nil_sublist _
  · rename_i hgate
    rw [Bool.or_eq_true, not_or, Bool.not_eq_true, Bool.not_eq_true', Bool.not_eq_false,
      List.isEmpty_iff] at hgate
    rw [secondFindings_of_not_isBlocked hgate.1] at hgate
    rw [TransitiveDependency.findings_of_partial_eq_nil hgate.2]
    exact Finding.novel_sublist [] _

theorem WellFormed.exists_concerns (h : s.WellFormed) {notices : List Notice} {f : Finding}
    (hf : f ∈ (s.assess notices).second ++ (s.assess notices).third) :
    ∃ t ∈ s.tables, ∃ cs, f.Concerns t cs := by
  rcases List.mem_append.1 hf with hf | hf
  · obtain ⟨t, ht, hf⟩ := List.mem_flatMap.1 (s.secondFindings_sublist.subset hf)
    exact ⟨t, ht, PartialDependency.exists_concerns (h.tables t ht) hf⟩
  · obtain ⟨t, ht, hf⟩ := List.mem_flatMap.1 (s.thirdFindings_sublist.subset hf)
    exact ⟨t, ht, TransitiveDependency.exists_concerns (h.tables t ht) hf⟩

/-- Where every column is in the primary key, nothing could be moved. -/
theorem WellFormed.table_ne (h : s.WellFormed) {notices : List Notice} {t : Table}
    (ht : t ∈ s.tables) (hall : ∀ c ∈ t.columns, t.inPrimaryKey c.name = true) {f : Finding}
    (hf : f ∈ (s.assess notices).second ++ (s.assess notices).third) : f.table ≠ t.name := by
  intro he
  obtain ⟨u, hu, cs, hc⟩ := h.exists_concerns hf
  have hut : u = t := List.inj_on_of_nodup_map h.nodup_names hu ht (hc.table_eq.symm.trans he)
  subst hut
  obtain ⟨c, hmem⟩ := List.exists_mem_of_ne_nil cs hc.movable.ne_nil
  have hplain := hc.movable.plain c hmem
  rw [hall c (hc.movable.sublist.subset hmem)] at hplain
  cases hplain

end Schema

namespace Session

open Schema

/-- **Findings are about columns that could be moved.** Let a schema come from
any calls. Each of its findings against the second and the third form is about
movable columns of one of its tables, and they come in the order of the tables.
So none is raised of a table all columns of which are in its primary key. -/
theorem findings_concern_movable (calls : List Call) {s : Schema}
    (hs : s ∈ (run calls).allSchemas) (notices : List Notice) :
    (∀ f ∈ (s.assess notices).second ++ (s.assess notices).third,
      ∃ t ∈ s.tables, ∃ cs, f.Concerns t cs) ∧
    ((s.assess notices).second.Pairwise fun f g => s.position f.table ≤ s.position g.table) ∧
    ((s.assess notices).third.Pairwise fun f g => s.position f.table ≤ s.position g.table) ∧
    ∀ t ∈ s.tables, (∀ c ∈ t.columns, t.inPrimaryKey c.name = true) →
      ∀ f ∈ (s.assess notices).second ++ (s.assess notices).third, f.table ≠ t.name := by
  have h : s.WellFormed := (sound_run calls).allSchemas hs
  refine ⟨fun f hf => h.exists_concerns hf, ?_, ?_, fun t ht hall f hf => h.table_ne ht hall hf⟩
  · refine (h.pairwise_flatMap fun t ht f hf => ?_).sublist s.secondFindings_sublist
    obtain ⟨cs, hc⟩ := PartialDependency.exists_concerns (h.tables t ht) hf
    exact hc.table_eq
  · refine (h.pairwise_flatMap fun t ht f hf => ?_).sublist s.thirdFindings_sublist
    obtain ⟨cs, hc⟩ := TransitiveDependency.exists_concerns (h.tables t ht) hf
    exact hc.table_eq

/-- Orders with the names of their customers: the names could be moved, and of
the customers, who have numbers alone, nothing is found. -/
theorem findings_concern_movable_orders :
    let number : Column := ⟨"id", "INT", false, none⟩
    let columns : List Column := [⟨"order_id", "INT", false, none⟩,
      ⟨"customer_id", "INT", true, none⟩, ⟨"customer_name", "VARCHAR(80)", true, none⟩]
    let constraints : List Constraint := [.primaryKey none ["order_id"],
      .foreignKey { columns := ["customer_id"], target := "customers" }]
    let customers : Table := ⟨"customers", [number], [.primaryKey none ["id"]], []⟩
    let shop : Schema :=
      { name := "shop", tables := [customers, ⟨"orders", columns, constraints, []⟩] }
    let calls : List Call := [.newTable "customers", .addColumn 0 number,
      .addConstraint 0 (.primaryKey none ["id"]), .newTable "orders"] ++
      columns.map (.addColumn 1) ++ constraints.map (.addConstraint 1) ++
      [.newSchema "shop", .addTable 0 0, .addTable 0 1]
    (shop ∈ (run calls).allSchemas ∧
      (shop.assess []).second.map (fun f => (f.table, f.columnText?)) =
        [("orders", some "customer_name")]) ∧
    (∀ f ∈ (shop.assess []).second ++ (shop.assess []).third,
      ∃ t ∈ shop.tables, ∃ cs, f.Concerns t cs) ∧
    ∀ f ∈ (shop.assess []).second ++ (shop.assess []).third, f.table ≠ "customers" := by
  intro number columns constraints customers shop calls
  have hs : shop ∈ (run calls).allSchemas := by decide +kernel
  have hfound : (shop.assess []).second.map (fun f => (f.table, f.columnText?)) =
      [("orders", some "customer_name")] := by decide +kernel
  have hkey : ∀ c ∈ customers.columns, customers.inPrimaryKey c.name = true := by decide +kernel
  obtain ⟨hconcerns, -, -, hnone⟩ := findings_concern_movable calls hs []
  exact ⟨⟨hs, hfound⟩, hconcerns, hnone customers (List.mem_cons_self ..) hkey⟩

end Session

end NormalForms
