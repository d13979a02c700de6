import Mathlib.Data.List.Perm.Subperm
import NormalForms.Proofs.Assessment.Gate
import NormalForms.Proofs.Check.Reference
import NormalForms.Proofs.Schema.Lookup

/-!
# Assessments table by table

A schema is as good as the worst of its tables, each taken as a schema of its
own. Both ways in which tables meet in an assessment are harmless for this: the
gates, which silence a form in all tables for a finding in one, combine as a
minimum (`level_append`), and what resolving brings into a table from another
one reaches remedies alone (`Table.withoutReferences`).
-/

namespace NormalForms

/-! ## Levels -/

/-- How far one comes with these findings: blocked by the first form, stopped
by the second, stopped by the third, or through. -/
def level (blocked : Bool) (second third : List Finding) : Nat :=
  if blocked then 0 else if second ≠ [] then 1 else if third ≠ [] then 2 else 3

/-- Gates that are shut one by one combine as a minimum. -/
theorem level_append (b b' : Bool) (p p' q q' : List Finding) :
    level (b || b') (p ++ p') (q ++ q') = min (level b p q) (level b' p' q') := by
  cases b with
  | true => simp [level]
  | false =>
    cases b' with
    | true => simp [level]
    | false =>
      cases p <;> cases p' <;> cases q <;> cases q' <;> simp [level]

theorem level_le (b : Bool) (p q : List Finding) : level b p q ≤ 3 := by
  unfold level
  split_ifs <;> omega

theorem level_congr {b : Bool} {p p' q : List Finding} (h : p = [] ↔ p' = []) :
    level b p q = level b p' q := by
  simp only [level, ne_eq, h]

/-- How far a table comes on its own. -/
def Table.level (t : Table) : Nat :=
  NormalForms.level ((Atomicity.tableFindings t).any Finding.isBlocking)
    (PartialDependency.tableFindings t) (TransitiveDependency.tableFindings t)

theorem Table.level_withoutReferences (t : Table) : t.withoutReferences.level = t.level := by
  unfold Table.level
  rw [Atomicity.tableFindings_withoutReferences,
    TransitiveDependency.tableFindings_withoutReferences]
  refine level_congr ?_
  rw [← List.map_eq_nil_iff (f := Finding.withoutRemedy),
    PartialDependency.tableFindings_withoutReferences, List.map_eq_nil_iff]

theorem le_foldr_min_iff {n m : Nat} {l : List Nat} :
    n ≤ l.foldr min m ↔ n ≤ m ∧ ∀ k ∈ l, n ≤ k := by
  induction l with
  | nil => simp
  | cons k l ih =>
    simp only [List.foldr_cons, Nat.le_min, ih, List.forall_mem_cons]
    constructor
    · rintro ⟨hk, hm, hl⟩
      exact ⟨hm, hk, hl⟩
    · rintro ⟨hm, hk, hl⟩
      exact ⟨hk, hm, hl⟩

namespace Finding

/-- Dropping repetitions empties no list. -/
theorem deduplicate_eq_nil_iff {fs : List Finding} : deduplicate fs = [] ↔ fs = [] := by
  cases fs with
  | nil => exact ⟨fun _ => rfl, fun _ => rfl⟩
  | cons f fs => simp [deduplicate, novel]

end Finding

namespace Schema

theorem rank_achieved_eq_level (s : Schema) :
    Form.rank s.achieved = level (Atomicity.isBlocked s)
      (s.tables.flatMap PartialDependency.tableFindings)
      (s.tables.flatMap TransitiveDependency.tableFindings) := by
  cases hs : Atomicity.isBlocked s with
  | true =>
    rw [(achieved_eq_none_iff s).2 hs]
    rfl
  | false =>
    have hp := secondFindings_of_not_isBlocked hs
    rw [PartialDependency.findings_of_not_isBlocked hs] at hp
    by_cases hn : s.secondFindings = []
    · have ht : s.thirdFindings =
          Finding.deduplicate (s.tables.flatMap TransitiveDependency.tableFindings) := by
        rw [← TransitiveDependency.findings_of_partial_eq_nil
          (by rw [PartialDependency.findings_of_not_isBlocked hs, ← hp, hn])]
        simp [thirdFindings, hs, hn]
      rw [← hp, hn]
      by_cases hq : s.tables.flatMap TransitiveDependency.tableFindings = []
      · rw [(achieved_eq_third_iff s).2 ⟨hs, hn, by rw [ht, hq]; rfl⟩, hq]
        rfl
      · rw [(achieved_eq_second_iff s).2 (by rwa [ht, ne_eq, Finding.deduplicate_eq_nil_iff])]
        simp [level, Form.rank, hq]
    · rw [(achieved_eq_first_iff s).2 hn, ← hp]
      simp [level, Form.rank, hn]

/-- **A schema achieves the least that one of its tables achieves.** -/
theorem rank_achieved_eq_min (s : Schema) :
    Form.rank s.achieved = (s.tables.map Table.level).foldr min 3 := by
  rw [rank_achieved_eq_level, Atomicity.isBlocked, Atomicity.findings]
  generalize s.tables = ts
  induction ts with
  | nil => rfl
  | cons t ts ih =>
    simp only [List.flatMap_cons, List.any_append, level_append, ih, List.map_cons,
      List.foldr_cons]
    rfl

/-! ## Schemas of one table -/

/-- The schema of one table alone. -/
def ofTable (name : String) (t : Table) : Schema := resolve { name, tables := [t] }

theorem ofTables_singleton (name : String) (t : Table) :
    ofTables name [t] = .ok (ofTable name t) := rfl

/-- A property of tables that does not read references is kept by resolving. -/
theorem apply_resolveTable {α : Type} {f : Table → α} (hf : ∀ t, f t.withoutReferences = f t)
    (s : Schema) (t : Table) : f (s.resolveTable t) = f t := by
  rw [← hf, withoutReferences_resolveTable, hf]

theorem rank_achieved_resolve (s : Schema) :
    Form.rank s.resolve.achieved = (s.tables.map Table.level).foldr min 3 := by
  rw [rank_achieved_eq_min, resolve, List.map_map]
  congr 2
  funext t
  exact apply_resolveTable Table.level_withoutReferences s t

theorem rank_achieved_ofTable (name : String) (t : Table) :
    Form.rank (ofTable name t).achieved = t.level := by
  rw [ofTable, rank_achieved_resolve]
  exact Nat.min_eq_left (level_le _ _ _)

theorem findings_resolve (s : Schema) :
    Atomicity.findings s.resolve = s.tables.flatMap Atomicity.tableFindings := by
  rw [Atomicity.findings, resolve, List.flatMap_map]
  congr 1
  funext t
  exact apply_resolveTable Atomicity.tableFindings_withoutReferences s t

theorem findings_ofTable (name : String) (t : Table) :
    Atomicity.findings (ofTable name t) = Atomicity.tableFindings t := by
  rw [ofTable, findings_resolve]
  exact List.flatMap_singleton _ _

theorem map_withoutRemedy_resolveTable (s : Schema) (t : Table) :
    (PartialDependency.tableFindings (s.resolveTable t)).map Finding.withoutRemedy =
      (PartialDependency.tableFindings t).map Finding.withoutRemedy :=
  apply_resolveTable (f := fun t => (PartialDependency.tableFindings t).map Finding.withoutRemedy)
    PartialDependency.tableFindings_withoutReferences s t

/-- Where nothing blocks, the findings against the second form are, remedies
apart, those of the tables as declared. -/
theorem partial_findings_resolve {s : Schema} (h : Atomicity.isBlocked s.resolve = false) :
    (PartialDependency.findings s.resolve).map Finding.withoutRemedy =
      s.tables.flatMap fun t =>
        (PartialDependency.tableFindings t).map Finding.withoutRemedy := by
  rw [PartialDependency.findings_of_not_isBlocked h, resolve, List.flatMap_map,
    List.map_flatMap]
  congr 1
  funext t
  exact map_withoutRemedy_resolveTable s t

/-- A table does not block alone if its schema does not. -/
theorem isBlocked_ofTable {s : Schema} (h : Atomicity.isBlocked s.resolve = false) {t : Table}
    (ht : t ∈ s.tables) (name : String) : Atomicity.isBlocked (ofTable name t) = false := by
  rw [Atomicity.isBlocked_eq_false_iff] at h ⊢
  intro f hf
  rw [findings_ofTable] at hf
  refine h f ?_
  rw [findings_resolve]
  exact List.mem_flatMap.2 ⟨t, ht, hf⟩

theorem partial_findings_ofTable {name : String} {t : Table}
    (h : Atomicity.isBlocked (ofTable name t) = false) :
    (PartialDependency.findings (ofTable name t)).map Finding.withoutRemedy =
      (PartialDependency.tableFindings t).map Finding.withoutRemedy := by
  rw [ofTable] at h ⊢
  rw [partial_findings_resolve h]
  exact List.flatMap_singleton _ _

/-- Where each table has one that comes no further, no more is achieved. -/
theorem rank_achieved_le {ts us : List Table} (h : ∀ t ∈ ts, ∃ u ∈ us, u.level ≤ t.level)
    (name name' : String) :
    Form.rank (resolve { name := name', tables := us }).achieved ≤
      Form.rank (resolve { name, tables := ts }).achieved := by
  have hmin := le_foldr_min_iff.1
    (Nat.le_of_eq (rank_achieved_resolve { name := name', tables := us }))
  rw [rank_achieved_resolve { name, tables := ts }]
  refine le_foldr_min_iff.2 ⟨hmin.1, fun k hk => ?_⟩
  obtain ⟨t, ht, rfl⟩ := List.mem_map.1 hk
  obtain ⟨u, hu, hle⟩ := h t ht
  exact Nat.le_trans (hmin.2 _ (List.mem_map_of_mem hu)) hle

/-- More tables achieve no more. -/
theorem rank_achieved_anti {ts us : List Table} (h : ts ⊆ us) (name name' : String) :
    Form.rank (resolve { name := name', tables := us }).achieved ≤
      Form.rank (resolve { name, tables := ts }).achieved :=
  rank_achieved_le (fun t ht => ⟨t, h ht, Nat.le_refl _⟩) name name'

/-- **Assessment goes table by table.** A schema achieves the least of what its
tables achieve alone, its findings against the first form are theirs one after
the other, and so are, where none of these blocks, its findings against the
second form but for their remedies. So neither another order nor further tables
make a schema better or hide a finding against the first form. -/
theorem assess_tablewise {name : String} {ts : List Table} {s : Schema}
    (h : ofTables name ts = .ok s) :
    (∀ t ∈ ts, ofTables name [t] = .ok (ofTable name t)) ∧
    Form.rank s.achieved =
      (ts.map fun t => Form.rank (ofTable name t).achieved).foldr min 3 ∧
    (s.assess []).first = ts.flatMap (fun t => ((ofTable name t).assess []).first) ∧
    ((∀ f ∈ (s.assess []).first, f.isBlocking = false) →
      (PartialDependency.findings s).map Finding.withoutRemedy =
        ts.flatMap fun t =>
          (PartialDependency.findings (ofTable name t)).map Finding.withoutRemedy) ∧
    ∀ {name' : String} {us : List Table} {s' : Schema}, ofTables name' us = .ok s' →
      ts.Subperm us →
        Form.rank s'.achieved ≤ Form.rank s.achieved ∧
          (s.assess []).first ⊆ (s'.assess []).first := by
  have hs := eq_resolve_of_ofTables h
  subst hs
  refine ⟨fun t _ => ofTables_singleton name t, ?_, ?_, fun hb => ?_, ?_⟩
  · rw [rank_achieved_resolve]
    simp only [rank_achieved_ofTable]
  · show Atomicity.findings _ = ts.flatMap fun t => Atomicity.findings (ofTable name t)
    simp only [findings_resolve, findings_ofTable]
  · have hb := Atomicity.isBlocked_eq_false_iff.2 hb
    rw [partial_findings_resolve hb, List.flatMap_def, List.flatMap_def]
    refine congrArg List.flatten (List.map_congr_left fun t ht => ?_)
    exact (partial_findings_ofTable (isBlocked_ofTable hb ht name)).symm
  · intro name' us s' h' hsub
    have hs' := eq_resolve_of_ofTables h'
    subst hs'
    refine ⟨rank_achieved_anti hsub.subset name name', ?_⟩
    show Atomicity.findings _ ⊆ Atomicity.findings _
    rw [findings_resolve, findings_resolve]
    intro f hf
    obtain ⟨t, ht, hf⟩ := List.mem_flatMap.1 hf
    exact List.mem_flatMap.2 ⟨t, hsub.subset ht, hf⟩

/-- A table that refers to another, whose key is written into its remedy. -/
def orders : Table where
  name := "orders"
  columns := [⟨"order_id", "INT", true, none⟩, ⟨"customer_id", "INT", true, none⟩,
    ⟨"customer_name", "VARCHAR(80)", true, none⟩]
  constraints := [.primaryKey none ["order_id"],
    .foreignKey { columns := ["customer_id"], target := "customers" }]

def customers : Table where
  name := "customers"
  columns := [⟨"customer_id", "INT", true, none⟩]
  constraints := [.primaryKey none ["customer_id"]]

/-- A table without a key, which blocks. -/
def logs : Table where
  name := "logs"
  columns := [⟨"message", "VARCHAR(80)", true, none⟩]

theorem assess_tablewise_orders :
    let shop := resolve { name := "shop", tables := [orders, customers] }
    let more := resolve { name := "shop", tables := [logs, customers, orders] }
    (ofTables "shop" [orders, customers] = .ok shop ∧
      (∀ f ∈ (shop.assess []).first, f.isBlocking = false) ∧
      ofTables "shop" [logs, customers, orders] = .ok more ∧
      [orders, customers].Subperm [logs, customers, orders]) ∧
    Form.rank shop.achieved = 1 ∧
    (PartialDependency.findings shop).map Finding.withoutRemedy =
      [orders, customers].flatMap (fun t =>
        (PartialDependency.findings (ofTable "shop" t)).map Finding.withoutRemedy) ∧
    Form.rank more.achieved ≤ Form.rank shop.achieved := by
  intro shop more
  have h : ofTables "shop" [orders, customers] = .ok shop := by decide +kernel
  have h' : ofTables "shop" [logs, customers, orders] = .ok more := by decide +kernel
  have hb : ∀ f ∈ (shop.assess []).first, f.isBlocking = false := by decide +kernel
  have hsub : [orders, customers].Subperm [logs, customers, orders] :=
    ⟨[customers, orders], .swap _ _ _, .cons _ (.refl _)⟩
  obtain ⟨-, hrank, -, hsecond, hmore⟩ := assess_tablewise h
  have hshop : Form.rank shop.achieved = 1 := by
    rw [hrank]
    decide +kernel
  exact ⟨⟨h, hb, h', hsub⟩, hshop, hsecond hb, (hmore h' hsub).1⟩

end Schema

end NormalForms
