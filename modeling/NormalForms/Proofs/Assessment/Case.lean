import NormalForms.Proofs.Assessment.Tablewise
import NormalForms.Proofs.Check.Case

/-!
# Assessments and letter case

The same schema may be spelled in many ways: each letter of a name or a type may
be small or capital, whatever it is elsewhere. All spellings have one folded
schema, and every check finds the same of a table as of the folded one. What
resolving brings into a table is found of neither. So all spellings are accepted
alike, achieve the same form, and each check finds the same of them, one finding
after the other.
-/

namespace NormalForms

open Text Identifier

/-! ## Findings that agree -/

/-- The findings are of one form and one kind, and about the same table and
columns but for letter case. -/
structure Finding.Agrees (f f' : Finding) : Prop where
  form_eq : f'.form = f.form
  kind_eq : f'.kind = f.kind
  table_eq : lower f'.table = lower f.table
  columnText?_eq : f'.columnText?.map lower = f.columnText?.map lower

namespace Finding

theorem agrees_of_folded_eq {f f' : Finding} (h : f'.folded = f.folded) : f.Agrees f' := by
  have hform : f'.folded.form = f.folded.form := congrArg form h
  have hkind : f'.folded.kind = f.folded.kind := congrArg kind h
  have htable : f'.folded.table = f.folded.table := congrArg table h
  have htext : f'.folded.columnText? = f.folded.columnText? := congrArg columnText? h
  exact ⟨hform, hkind, htable, htext⟩

theorem forall₂_agrees {fs fs' : List Finding} (h : fs'.map folded = fs.map folded) :
    List.Forall₂ Agrees fs fs' := by
  induction fs generalizing fs' with
  | nil =>
    rw [List.map_nil, List.map_eq_nil_iff] at h
    subst h
    exact .nil
  | cons f fs ih =>
    cases fs' with
    | nil => cases h
    | cons f' fs' =>
      obtain ⟨hf, hfs⟩ := List.cons.inj h
      exact .cons (agrees_of_folded_eq hf) (ih hfs)

/-- Remedies play no part in it. -/
theorem map_folded_withoutRemedy (fs : List Finding) :
    (fs.map withoutRemedy).map folded = fs.map folded := by
  rw [List.map_map]
  rfl

end Finding

/-! ## Tables and schemas -/

theorem Table.level_folded (t : Table) : t.folded.level = t.level := by
  have hblocked : (Atomicity.tableFindings t.folded).any Finding.isBlocking =
      (Atomicity.tableFindings t).any Finding.isBlocking := by
    rw [← Finding.any_isBlocking_map_folded, Atomicity.map_folded_tableFindings,
      Finding.any_isBlocking_map_folded]
  have hpartial : PartialDependency.tableFindings t.folded = [] ↔
      PartialDependency.tableFindings t = [] := by
    rw [← List.map_eq_nil_iff (f := Finding.folded), PartialDependency.map_folded_tableFindings,
      List.map_eq_nil_iff]
  have htransitive : TransitiveDependency.tableFindings t.folded = [] ↔
      TransitiveDependency.tableFindings t = [] := by
    rw [← List.map_eq_nil_iff (f := Finding.folded),
      TransitiveDependency.map_folded_tableFindings, List.map_eq_nil_iff]
  simp only [Table.level, NormalForms.level, ne_eq, hblocked, hpartial, htransitive]

namespace Schema

variable {s s' : Schema}

/-- What a check finds of the tables of a resolved schema is told from the folded
tables. -/
theorem map_folded_flatMap_resolve {check : Table → List Finding}
    (hfolded : ∀ t : Table, (check t.folded).map Finding.folded = (check t).map Finding.folded)
    (hresolve : ∀ t : Table,
      (check (s.resolveTable t)).map Finding.folded = (check t).map Finding.folded) :
    (s.resolve.tables.flatMap check).map Finding.folded =
      (s.tables.map Table.folded).flatMap fun t => (check t).map Finding.folded := by
  rw [resolve, List.flatMap_map, List.map_flatMap, List.flatMap_map]
  congr 1
  funext t
  rw [hresolve, hfolded]

theorem map_folded_partial_resolveTable (s : Schema) (t : Table) :
    (PartialDependency.tableFindings (s.resolveTable t)).map Finding.folded =
      (PartialDependency.tableFindings t).map Finding.folded := by
  rw [← Finding.map_folded_withoutRemedy, map_withoutRemedy_resolveTable,
    Finding.map_folded_withoutRemedy]

section SameFolded

variable (h : s'.tables.map Table.folded = s.tables.map Table.folded)
include h

theorem map_folded_findings_eq :
    (Atomicity.findings s'.resolve).map Finding.folded =
      (Atomicity.findings s.resolve).map Finding.folded := by
  have hresolve : ∀ (u : Schema) (t : Table),
      (Atomicity.tableFindings (u.resolveTable t)).map Finding.folded =
        (Atomicity.tableFindings t).map Finding.folded := fun u t =>
    congrArg _ (apply_resolveTable Atomicity.tableFindings_withoutReferences u t)
  rw [Atomicity.findings, Atomicity.findings,
    map_folded_flatMap_resolve Atomicity.map_folded_tableFindings (hresolve s'),
    map_folded_flatMap_resolve Atomicity.map_folded_tableFindings (hresolve s), h]

theorem isBlocked_eq : Atomicity.isBlocked s'.resolve = Atomicity.isBlocked s.resolve := by
  rw [Atomicity.isBlocked, Atomicity.isBlocked, ← Finding.any_isBlocking_map_folded,
    map_folded_findings_eq h, Finding.any_isBlocking_map_folded]

theorem map_folded_partial_findings_eq :
    (PartialDependency.findings s'.resolve).map Finding.folded =
      (PartialDependency.findings s.resolve).map Finding.folded := by
  have hblocked := isBlocked_eq h
  cases hs : Atomicity.isBlocked s.resolve with
  | true =>
    rw [PartialDependency.findings_of_isBlocked (hblocked.trans hs),
      PartialDependency.findings_of_isBlocked hs, map_folded_findings_eq h]
  | false =>
    rw [PartialDependency.findings_of_not_isBlocked (hblocked.trans hs),
      PartialDependency.findings_of_not_isBlocked hs,
      map_folded_flatMap_resolve PartialDependency.map_folded_tableFindings
        (map_folded_partial_resolveTable s'),
      map_folded_flatMap_resolve PartialDependency.map_folded_tableFindings
        (map_folded_partial_resolveTable s), h]

theorem map_folded_transitive_findings_eq :
    (TransitiveDependency.findings s'.resolve).map Finding.folded =
      (TransitiveDependency.findings s.resolve).map Finding.folded := by
  have hresolve : ∀ (u : Schema) (t : Table),
      (TransitiveDependency.tableFindings (u.resolveTable t)).map Finding.folded =
        (TransitiveDependency.tableFindings t).map Finding.folded := fun u t =>
    congrArg _ (apply_resolveTable TransitiveDependency.tableFindings_withoutReferences u t)
  have hpartial := map_folded_partial_findings_eq h
  by_cases hs : PartialDependency.findings s.resolve = []
  · have hs' : PartialDependency.findings s'.resolve = [] := by
      rwa [hs, List.map_nil, List.map_eq_nil_iff] at hpartial
    rw [TransitiveDependency.findings_of_partial_eq_nil hs',
      TransitiveDependency.findings_of_partial_eq_nil hs,
      map_folded_flatMap_resolve TransitiveDependency.map_folded_tableFindings (hresolve s'),
      map_folded_flatMap_resolve TransitiveDependency.map_folded_tableFindings (hresolve s), h]
  · have hs' : PartialDependency.findings s'.resolve ≠ [] := by
      intro hnil
      rw [hnil, List.map_nil, eq_comm, List.map_eq_nil_iff] at hpartial
      exact hs hpartial
    rw [TransitiveDependency.findings_of_partial_ne_nil hs',
      TransitiveDependency.findings_of_partial_ne_nil hs, hpartial]

theorem achieved_resolve_eq : s'.resolve.achieved = s.resolve.achieved := by
  have hlevels : s'.tables.map Table.level = s.tables.map Table.level := by
    have hcomp : Table.level ∘ Table.folded = Table.level := funext Table.level_folded
    rw [← hcomp, ← List.map_map, ← List.map_map, h]
  refine Form.rank_injective ?_
  rw [rank_achieved_resolve, rank_achieved_resolve, hlevels]

end SameFolded

/-- **Letter case does not count.** Let a schema be accepted of some tables, and
let these be spelled in another case, each letter of each name and type for
itself. The tables can be built as well and are accepted, their schema achieves
the same form, and each of the three checks finds the same of it. -/
theorem findings_agree_of_caseVariant {name : String} {ts ts' : List Table} {s : Schema}
    (h : ofTables name ts = .ok s) (hcase : List.Forall₂ Table.IsCaseVariant ts ts') :
    ((∀ t ∈ ts, t.WellFormed) → ∀ t' ∈ ts', t'.WellFormed) ∧
      ∃ s', ofTables name ts' = .ok s' ∧ s'.achieved = s.achieved ∧
        List.Forall₂ Finding.Agrees (Atomicity.findings s) (Atomicity.findings s') ∧
        List.Forall₂ Finding.Agrees (PartialDependency.findings s)
          (PartialDependency.findings s') ∧
        List.Forall₂ Finding.Agrees (TransitiveDependency.findings s)
          (TransitiveDependency.findings s') := by
  have hfolded : ts'.map Table.folded = ts.map Table.folded := map_eq_of_forall₂ id hcase
  have hkeys : (ts'.map fun t => key t.name) = ts.map fun t => key t.name :=
    map_eq_of_forall₂ (fun {t t'} hvariant => by
      have hname : lower t'.name = lower t.name := congrArg Table.name hvariant
      rw [← key_lower, hname, key_lower]) hcase
  rw [eq_resolve_of_ofTables h]
  refine ⟨fun hts t' ht' => ?_, _, ofTables_of_keys_eq h hkeys name,
    achieved_resolve_eq hfolded,
    Finding.forall₂_agrees (map_folded_findings_eq hfolded),
    Finding.forall₂_agrees (map_folded_partial_findings_eq hfolded),
    Finding.forall₂_agrees (map_folded_transitive_findings_eq hfolded)⟩
  obtain ⟨t, ht, hvariant⟩ := exists_of_forall₂ hcase ht'
  exact hvariant.wellFormed (hts t ht)

/-- Customers that are spelled in several ways at once, and an order that refers
to them. -/
theorem findings_agree_of_caseVariant_orders :
    let shop := resolve { name := "shop", tables := [orders, customers] }
    let spelled : Table := ⟨"Customers", [⟨"CUSTOMER_ID", "Int", true, none⟩],
      [.primaryKey none ["customer_Id"]], []⟩
    (ofTables "shop" [orders, customers] = .ok shop ∧
      List.Forall₂ Table.IsCaseVariant [orders, customers] [orders, spelled]) ∧
    spelled ≠ customers ∧ Form.rank shop.achieved = 1 ∧
    (PartialDependency.findings shop).length = 1 ∧
    ∃ s', ofTables "shop" [orders, spelled] = .ok s' ∧ s'.achieved = shop.achieved ∧
      List.Forall₂ Finding.Agrees (PartialDependency.findings shop)
        (PartialDependency.findings s') := by
  intro shop spelled
  have h : ofTables "shop" [orders, customers] = .ok shop := by decide +kernel
  have hspelled : customers.IsCaseVariant spelled := by
    have hlower : ∀ {a b : String}, a.toList.map Char.toLower = b.toList.map Char.toLower →
        lower a = lower b := fun hab =>
      String.toList_injective (by rw [toList_lower, toList_lower, hab])
    have hname : lower "Customers" = lower "customers" := hlower (by decide)
    have hid : lower "CUSTOMER_ID" = lower "customer_id" := hlower (by decide)
    have hkey : lower "customer_Id" = lower "customer_id" := hlower (by decide)
    have htype : lower "Int" = lower "INT" := hlower (by decide)
    simp only [Table.IsCaseVariant, Table.folded, customers, spelled, List.map_cons, List.map_nil,
      Column.folded, Constraint.folded, hname, hid, hkey, htype]
  have hcase : List.Forall₂ Table.IsCaseVariant [orders, customers] [orders, spelled] :=
    .cons rfl (.cons hspelled .nil)
  have hne : spelled ≠ customers := fun he => absurd (congrArg Table.name he) (by decide)
  have hrank : Form.rank shop.achieved = 1 := by decide +kernel
  have hlength : (PartialDependency.findings shop).length = 1 := by decide +kernel
  obtain ⟨-, s', hok, hachieved, -, hpartial, -⟩ := findings_agree_of_caseVariant h hcase
  exact ⟨⟨h, hcase⟩, hne, hrank, hlength, s', hok, hachieved, hpartial⟩

end Schema

end NormalForms
