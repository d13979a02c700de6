import Mathlib.Data.List.Basic
import NormalForms.Proofs.Check.Remedy
import NormalForms.Proofs.Remedy.Lines

/-!
# What remedies suggest to drop

A remedy suggests to drop the columns that it moves, which are those that its
finding names. The findings against the second and the third form name columns
outside the primary key. So do not all against the first: a column of several
values is moved even if it is the key, and a group with all its members, even
those in the key. The key dropped then is the one that the new table refers to.
-/

namespace NormalForms

open Text Remedy

namespace Schema

variable {s : Schema} {f : Finding}

/-- One of the three checks raises the finding. -/
def Raises (s : Schema) (f : Finding) : Prop :=
  f ∈ Atomicity.findings s ∨ f ∈ PartialDependency.findings s ∨
    f ∈ TransitiveDependency.findings s

theorem Raises.exists_table (h : s.Raises f) : ∃ t ∈ s.tables, t.Raises f := by
  rcases h with h | h | h
  · exact exists_raises_of_mem_atomicity h
  · exact exists_raises_of_mem_partial h
  · exact exists_raises_of_mem_transitive h

theorem Raises.exists_isAbout (h : s.Raises f) : ∃ t ∈ s.tables, f.IsAbout t := by
  obtain ⟨t, ht, hf⟩ := h.exists_table
  exact ⟨t, ht, hf.isAbout⟩

/-- **What a remedy drops.** The lines of a remedy that suggest to drop something
are one for each of some columns of its table, and for nothing else: for the
columns that the finding names, or for none if a key is missing. A column of the
primary key is among them only if it is of several values, or one of a group
that also has members outside the key. -/
theorem dropped_columns (hf : s.Raises f) {script : String} (hr : f.remedy? = some script) :
    ∃ t ∈ s.tables, f.table = t.name ∧ ∃ dropped : List Column, dropped.Sublist t.columns ∧
      (f.kind = .missingPrimaryKey ∧ dropped = [] ∨
        f.columnText? = some (String.intercalate ", " (names dropped))) ∧
      (∀ line, line ∈ Text.lines script ∧ IsDropLine line ↔
        ∃ c ∈ dropped, line = dropLine t.name c.name) ∧
      ∀ c ∈ dropped, t.inPrimaryKey c.name = true →
        f.kind = .multiValuedColumn ∨
          f.kind = .repeatingGroup ∧ ∃ d ∈ dropped, t.inPrimaryKey d.name = false := by
  obtain ⟨t, ht, habout⟩ := hf.exists_isAbout
  refine ⟨t, ht, habout.table_eq, ?_⟩
  rcases habout.remedy with ⟨-, hnone⟩ | ⟨hk, -, hkey⟩ | ⟨cs, hm⟩
  · rw [hnone] at hr
    cases hr
  · cases hkey.symm.trans hr
    refine ⟨[], List.nil_sublist _, .inl ⟨hk, rfl⟩, fun line => ?_, List.forall_mem_nil _⟩
    constructor
    · rintro ⟨hl, hd⟩
      exact absurd hd (not_isDropLine_surrogateKey hl)
    · rintro ⟨c, hc, -⟩
      cases hc
  · obtain ⟨r, hrender, hmoves⟩ := hm.exists_moves
    cases hrender.symm.trans hr
    exact ⟨cs, hm.sublist, .inr hm.columnText?_eq, fun line => hmoves.isDropLine_iff,
      hm.kind_of_key⟩

/-- Numbered columns, the first of them the key. -/
def contacts : Table where
  name := "contacts"
  columns := [{ name := "phone1", dataType := "INT" }, { name := "phone2", dataType := "INT" }]
  constraints := [.primaryKey none ["phone1"]]

/-- Of such a table the key is dropped with the other member of its group. -/
theorem dropped_columns_contacts :
    let shop : Schema := { name := "shop", tables := [contacts] }
    let group : Finding := Atomicity.repeatingGroup contacts "phone"
    (shop.Raises group ∧ group.remedy? = some
      (splitGroup contacts "phone" (Atomicity.groupMembers contacts "phone")).render) ∧
    ∃ t ∈ shop.tables, group.table = t.name ∧ ∃ dropped : List Column, dropped.Sublist t.columns ∧
      (group.kind = .missingPrimaryKey ∧ dropped = [] ∨
        group.columnText? = some (String.intercalate ", " (names dropped))) ∧
      (∀ line, line ∈ Text.lines
          (splitGroup contacts "phone" (Atomicity.groupMembers contacts "phone")).render ∧
          IsDropLine line ↔ ∃ c ∈ dropped, line = dropLine t.name c.name) ∧
      ∀ c ∈ dropped, t.inPrimaryKey c.name = true →
        group.kind = .multiValuedColumn ∨
          group.kind = .repeatingGroup ∧ ∃ d ∈ dropped, t.inPrimaryKey d.name = false := by
  intro shop group
  have hbase : "phone" ∈ (Atomicity.groupBases contacts).filter (Atomicity.isGroup contacts) := by
    decide +kernel
  have hraised : shop.Raises group := .inl (List.mem_flatMap.2
    ⟨contacts, List.mem_singleton.2 rfl, List.mem_append_right _ (List.mem_map_of_mem hbase)⟩)
  exact ⟨⟨hraised, rfl⟩, dropped_columns hraised rfl⟩

/-- A column of a type that holds several values. -/
def code : Column := { name := "id", dataType := "ENUM('a')" }

/-- A table with such a column as its key. -/
def coded : Table where
  name := "t"
  columns := [code]
  constraints := [.primaryKey none ["id"]]

/-- **The key itself may be dropped**: here the created table refers to the key of
the old one, and the remedy suggests to drop that key. -/
theorem exists_key_dropped :
    let shop : Schema := { name := "s", tables := [coded] }
    Schema.ofTables "s" [coded] = .ok shop ∧
    ∃ f ∈ Atomicity.findings shop, f.table = coded.name ∧
      ∃ script, f.remedy? = some script ∧ coded.inPrimaryKey "id" = true ∧
        "    FOREIGN KEY (t_id) REFERENCES t(id)" ∈ Text.lines script ∧
        "-- ALTER TABLE t DROP COLUMN id;" ∈ Text.lines script := by
  intro shop
  have hfound : Atomicity.multiValued coded code ∈ Atomicity.findings shop := by
    have hmem : Atomicity.multiValued coded code ∈ Atomicity.compositeValues coded :=
      List.mem_filterMap.2 ⟨code, List.mem_singleton.2 rfl, if_pos (by decide +kernel)⟩
    exact List.mem_flatMap.2 ⟨coded, List.mem_singleton.2 rfl,
      List.mem_append_left _ (List.mem_append_right _ hmem)⟩
  have hmoves : (splitValues coded code (Naming.elementType code.dataType)).Moves coded [code] :=
    moves_splitValues code code.dataType
  have hlink : "    FOREIGN KEY (t_id) REFERENCES t(id)" ∈ (Step.createTable "t_id"
      [.surrogateKey, linkEntry coded,
        .column "id_value" (Naming.elementType code.dataType) false false, linkKey coded]).lines := by
    decide +kernel
  have hdrop : "-- ALTER TABLE t DROP COLUMN id;" = dropLine coded.name code.name := by
    decide +kernel
  refine ⟨by decide +kernel, _, hfound, rfl, _, rfl, by decide +kernel, ?_, ?_⟩
  -- the text is not evaluated, since its lines are known from the steps
  · rw [hmoves.lines_render]
    exact List.mem_flatMap.2 ⟨_, List.mem_cons_of_mem _ List.mem_cons_self, hlink⟩
  · exact (hmoves.isDropLine_iff.2 ⟨code, List.mem_singleton.2 rfl, hdrop⟩).1

end Schema

end NormalForms
