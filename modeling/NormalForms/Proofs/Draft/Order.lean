import Mathlib.Data.List.FinRange
import Mathlib.Data.List.Sort
import Mathlib.Data.Fin.VecNotation
import NormalForms.Proofs.Draft.Account

/-!
# The order of statements

Statements may be put into another order as long as those about one table stay
as they stand to each other (`IsRearrangement`). Then every table is built by the
same run of statements (`IsRearrangement.filter_eq`), so that the accounts agree,
and foreign keys are resolved over the same tables: the schema has the same
tables, in another order perhaps (`Schema.perm_tables_resolve`).
-/

namespace NormalForms

open Identifier Sql

/-- Schemas that hold the same under every key resolve to the same tables. -/
theorem Schema.perm_tables_resolve {s s' : Schema} (h : s.WellFormed) (h' : s'.WellFormed)
    (hk : ∀ k, s.keyed? k = s'.keyed? k) : s.resolve.tables.Perm s'.resolve.tables := by
  have hperm : s.tables.Perm s'.tables := h.perm_of_keyed? h' hk
  have hresolve : s.resolveTable = s'.resolveTable := by
    refine resolveTable_congr fun name => ?_
    rw [target?, target?, table?_eq_keyed?, table?_eq_keyed?, hk]
  show (s.tables.map s.resolveTable).Perm (s'.tables.map s'.resolveTable)
  rw [hresolve]
  exact hperm.map _

namespace Draft

/-! ## Places -/

/-- Where the statements about a table stand. -/
def places (k : String) (es : List Statement) : List (Fin es.length) :=
  (List.finRange es.length).filter fun i => isAbout k (es.get i)

theorem mem_places {k : String} {es : List Statement} {i : Fin es.length} :
    i ∈ places k es ↔ subject? (es.get i) = some k := by
  simp [places, isAbout]

theorem pairwise_places (k : String) (es : List Statement) : (places k es).Pairwise (· < ·) :=
  (List.pairwise_lt_finRange es.length).filter _

theorem map_get_places (k : String) (es : List Statement) :
    (places k es).map es.get = es.filter (isAbout k) := by
  conv_rhs => rw [← List.map_get_finRange es]
  rw [List.filter_map]
  rfl

/-! ## Rearranging -/

/-- `es'` are the statements `es` in another order: the statement from place `i`
stands at place `σ i`. Two statements about one table stay in order. -/
structure IsRearrangement (es es' : List Statement) (σ : Fin es.length ≃ Fin es'.length) :
    Prop where
  get_eq : ∀ i, es'.get (σ i) = es.get i
  order : ∀ i j, i < j → subject? (es.get i) ≠ none →
    subject? (es.get j) = subject? (es.get i) → σ i < σ j

section Rearrangement

variable {es es' : List Statement} {σ : Fin es.length ≃ Fin es'.length}

/-- The places of a table's statements are moved to their new places in order. -/
theorem IsRearrangement.map_places (h : IsRearrangement es es' σ) (k : String) :
    (places k es).map σ = places k es' := by
  have hsorted : ((places k es).map σ).Pairwise (· < ·) := by
    refine List.pairwise_map.2 (List.Pairwise.imp_of_mem ?_ (pairwise_places k es))
    intro i j hi hj hij
    rw [mem_places] at hi hj
    refine h.order i j hij ?_ (hj.trans hi.symm)
    rw [hi]
    exact Option.some_ne_none k
  -- both lists are sorted, so that it is enough that they have the same members
  refine hsorted.eq_of_mem_iff (pairwise_places k es') fun j => ?_
  rw [List.mem_map, mem_places]
  constructor
  · rintro ⟨i, hi, rfl⟩
    rw [h.get_eq]
    exact mem_places.1 hi
  · intro hj
    obtain ⟨i, rfl⟩ := σ.surjective j
    rw [h.get_eq] at hj
    exact ⟨i, mem_places.2 hj, rfl⟩

/-- The statements about one table are the same, in the same order. -/
theorem IsRearrangement.filter_eq (h : IsRearrangement es es' σ) (k : String) :
    es.filter (isAbout k) = es'.filter (isAbout k) := by
  calc es.filter (isAbout k) = (places k es).map es.get := (map_get_places k es).symm
    _ = (places k es).map (es'.get ∘ σ) := List.map_congr_left fun i _ => (h.get_eq i).symm
    _ = ((places k es).map σ).map es'.get := List.map_map.symm
    _ = (places k es').map es'.get := by rw [h.map_places]
    _ = es'.filter (isAbout k) := map_get_places k es'

end Rearrangement

/-- **The order of statements about different tables does not matter.** Statements
in another order that keeps those about each table as they stand to each other
build a schema of the same tables, in another order perhaps: names, columns,
constraints with the columns they refer to, and relationships. -/
theorem perm_tables_finish (name : String) {es es' : List Entry}
    {σ : Fin (es.map Entry.statement).length ≃ Fin (es'.map Entry.statement).length}
    (h : IsRearrangement (es.map Entry.statement) (es'.map Entry.statement) σ) :
    ((empty name).feed es).finish.schema.tables.Perm
        ((empty name).feed es').finish.schema.tables ∧
      ((empty name).feed es).finish.schema.name = ((empty name).feed es').finish.schema.name := by
  have hempty : (empty name).schema.WellFormed := Schema.WellFormed.empty name
  have hkeyed : ∀ k, ((empty name).feed es).schema.keyed? k =
      ((empty name).feed es').schema.keyed? k := by
    intro k
    have haccount : ((empty name).feed es).account k = ((empty name).feed es').account k := by
      rw [account_feed hempty, account_feed hempty, h.filter_eq]
    exact congrArg Account.table? haccount
  refine ⟨Schema.perm_tables_resolve (wellFormed_feed hempty es) (wellFormed_feed hempty es')
    hkeyed, ?_⟩
  exact (name_feed _ es).trans (name_feed _ es').symm

def createCustomers : Statement :=
  .createTable
    { name := ⟨[⟨"customers", none⟩]⟩
      columns := [{ name := ⟨"id", none⟩, type := .plain "INT" }]
      constraints := [] }

/-- The key of a table, added after its declaration. -/
def keyCustomers : Statement :=
  .alterTable ⟨[⟨"customers", none⟩]⟩
    [.addConstraint (.primaryKey none [{ expr := .column ⟨"id", none⟩ }])]

/-- A table that refers to the key of another. -/
def createOrders : Statement :=
  .createTable
    { name := ⟨[⟨"orders", none⟩]⟩
      columns := [{ name := ⟨"customer", none⟩, type := .plain "INT" }]
      constraints := [.foreignKey none [⟨"customer", none⟩] ⟨[⟨"customers", none⟩]⟩ []] }

/-- The last of three moves to the front. -/
def lastFirst : Fin 3 ≃ Fin 3 where
  toFun := ![1, 2, 0]
  invFun := ![2, 0, 1]
  left_inv := by unfold Function.LeftInverse; decide
  right_inv := by unfold Function.RightInverse Function.LeftInverse; decide

/-- A reference may come before its table and the key of it, or after both. -/
theorem perm_tables_finish_orders :
    let es : List Entry := [⟨0, "", createCustomers⟩, ⟨1, "", keyCustomers⟩, ⟨2, "", createOrders⟩]
    let es' : List Entry := [⟨0, "", createOrders⟩, ⟨1, "", createCustomers⟩, ⟨2, "", keyCustomers⟩]
    IsRearrangement (es.map Entry.statement) (es'.map Entry.statement) lastFirst ∧
      (((empty "shop").feed es).finish.schema.tables.Perm
          ((empty "shop").feed es').finish.schema.tables ∧
        ((empty "shop").feed es).finish.schema.name =
          ((empty "shop").feed es').finish.schema.name) ∧
      ((empty "shop").feed es').finish.schema.relationships =
        [⟨"orders", "customers", ["customer"], ["id"]⟩] := by
  intro es es'
  have hcreate : subject? createCustomers = some "customers" := by decide +kernel
  have hkey : subject? keyCustomers = some "customers" := by decide +kernel
  have horders : subject? createOrders = some "orders" := by decide +kernel
  have hget : ∀ i : Fin 3, [createOrders, createCustomers, keyCustomers].get (lastFirst i) =
      [createCustomers, keyCustomers, createOrders].get i
    | 0 => rfl
    | 1 => rfl
    | 2 => rfl
  have horder : ∀ i j : Fin 3, i < j →
      subject? ([createCustomers, keyCustomers, createOrders].get i) ≠ none →
      subject? ([createCustomers, keyCustomers, createOrders].get j) =
        subject? ([createCustomers, keyCustomers, createOrders].get i) → lastFirst i < lastFirst j
    | 0, 1, _, _, _ => by decide
    | 0, 2, _, _, hsame => absurd (horders.symm.trans (hsame.trans hcreate)) (by decide)
    | 1, 2, _, _, hsame => absurd (horders.symm.trans (hsame.trans hkey)) (by decide)
    | 0, 0, hlt, _, _ | 1, 0, hlt, _, _ | 1, 1, hlt, _, _ => absurd hlt (by decide)
    | 2, 0, hlt, _, _ | 2, 1, hlt, _, _ | 2, 2, hlt, _, _ => absurd hlt (by decide)
  have h : IsRearrangement (es.map Entry.statement) (es'.map Entry.statement) lastFirst :=
    ⟨hget, horder⟩
  exact ⟨h, perm_tables_finish "shop" h, by decide +kernel⟩

end Draft

end NormalForms
