import NormalForms.Proofs.Assessment.Movable
import NormalForms.Proofs.Check.Dropping
import NormalForms.Proofs.Remedy.Creating
import NormalForms.Proofs.Schema.Lookup

/-!
# The tables that the remedies of findings create

The columns that a finding moves are columns of one table, and apart from what they are
said to depend on. So they meet no column of the same name in the table that its remedy
creates: not the determinant, no column of the foreign key, and none of the names that
the remedy makes up, since a part of an address is neither `id` nor, where the address
gets a table of its own, a name in `_id`.
-/

namespace NormalForms

open Identifier Text Script Remedy

variable {t : Table} {f : Finding}

/-- Each table that the remedy of the finding creates is well defined. -/
def Finding.CreatesDefined (f : Finding) (t : Table) : Prop :=
  ∀ script, f.remedy? = some script → ∀ body ∈ bodies (Text.lines script),
    ∃ entries, body = entryLines entries ∧ IsDefinition t entries

theorem Finding.createsDefined_of_none (h : f.remedy? = none) : f.CreatesDefined t := by
  intro script hscript
  rw [h] at hscript
  cases hscript

/-- A remedy that moves columns has to define one table. -/
theorem Remedy.Moves.createsDefined {r : Remedy} {cs : List Column} {name : String}
    {entries : List Entry} (h : r.Moves t cs) (hr : f.remedy? = some r.render)
    (hstep : r.steps[1]? = some (.createTable name entries)) (hd : IsDefinition t entries) :
    f.CreatesDefined t := by
  intro script hscript body hbody
  cases hr.symm.trans hscript
  rw [h.bodies_render hstep] at hbody
  exact ⟨entries, List.mem_singleton.1 hbody, hd⟩

/-! ## The first form -/

theorem Atomicity.createsDefined (hf : f ∈ tableFindings t) : f.CreatesDefined t := by
  rcases mem_tableFindings hf with h | ⟨c, -, rfl⟩ | ⟨c, -, rfl⟩ | ⟨base, -, rfl⟩
  · obtain ⟨-, -, -, hr⟩ := of_mem_missingKey h
    intro script hscript body hbody
    cases hr.symm.trans hscript
    rw [bodies_surrogateKey] at hbody
    cases hbody
  · exact (moves_splitValues c c.dataType).createsDefined rfl rfl (isDefinition_values t _ _ _)
  · exact Finding.createsDefined_of_none rfl
  · exact (moves_splitGroup base List.filter_sublist.subset).createsDefined rfl rfl
      (isDefinition_values t _ _ _)

/-! ## Dependencies -/

/-- Movable columns that are apart from their determinant can be defined beside it. -/
theorem Determinant.Keys.createsDefined {cs : List Column} {d : Determinant} (hk : d.Keys t cs f)
    (ha : d.Apart t cs) (hm : t.Movable cs) (hw : t.WellFormed) (ht : t.InLine) :
    f.CreatesDefined t := by
  have hsub : cs ⊆ t.columns := hm.sublist.subset
  cases hk with
  | foreignKey scope mem dependents =>
    subst dependents
    exact (moves_splitByForeignKey _ hsub).createsDefined rfl rfl
      (isDefinition_byForeignKey hw ht mem hm.sublist (ha.references _ rfl))
  | keyColumn subject base mem =>
    have hc := t.keyColumns_subset mem
    exact (moves_splitByColumn hc hsub _
      (keepsColumns_note (by decide) (by decide))).createsDefined rfl rfl
      (isDefinition_byColumn hw ht hc hm.sublist hm.ne_nil (ha.names _ List.mem_cons_self))
  | plainColumn mem =>
    have hc := t.plainColumns_subset mem
    exact (moves_splitByColumn hc hsub _
      (keepsColumns_note (by decide) (by decide))).createsDefined rfl rfl
      (isDefinition_byColumn hw ht hc hm.sublist hm.ne_nil (ha.names _ List.mem_cons_self))

theorem Finding.Concerns.createsDefined {cs : List Column} (h : f.Concerns t cs)
    (hkind : f.kind = .partialDependency ∨ f.kind = .transitiveDependency) (hw : t.WellFormed)
    (ht : t.InLine) : f.CreatesDefined t := by
  obtain ⟨d, hk, ha⟩ := h.keyed hkind
  exact hk.createsDefined ha h.movable hw ht

theorem PartialDependency.createsDefined (hw : t.WellFormed) (ht : t.InLine)
    (hf : f ∈ tableFindings t) : f.CreatesDefined t := by
  have hkind : f.kind = .partialDependency := by
    rcases mem_tableFindings hf with ⟨scope, fk, -, -, rfl⟩ |
      ⟨key, -, dependents, subject, base, -, -, rfl⟩ <;> rfl
  obtain ⟨cs, hc⟩ := exists_concerns hw hf
  exact hc.createsDefined (.inl hkind) hw ht

/-! ## The third form -/

/-- No part of an address is named `id`. -/
theorem TransitiveDependency.lower_ne_id {c : Column} (hc : c ∈ addressColumns t) :
    Text.lower c.name ≠ "id" := by
  intro he
  have haddress : Naming.isAddress c.name = true := by
    simpa using (List.mem_filter.1 hc).2
  rw [← Naming.isAddress_lower, he] at haddress
  exact absurd haddress (by decide +kernel)

theorem TransitiveDependency.createsDefined (hw : t.WellFormed) (ht : t.InLine)
    (hf : f ∈ tableFindings t) : f.CreatesDefined t := by
  rcases mem_tableFindings hf with h | ⟨haddress, rfl⟩ | h
  · have hkind : f.kind = .transitiveDependency := by
      obtain ⟨c, -, members, -, -, rfl⟩ := h
      rfl
    obtain ⟨cs, hc⟩ := exists_concerns hw hf
    exact hc.createsDefined (.inr hkind) hw ht
  · have hcs : (addressColumns t).Sublist t.columns :=
      List.filter_sublist.trans List.filter_sublist
    exact (moves_splitAddress hcs.subset).createsDefined rfl rfl
      (isDefinition_address hw ht hcs (fun c hc => lower_ne_id hc) haddress.no_reference)
  · exact Finding.createsDefined_of_none (of_mem_derivedAmounts h).2.2

theorem Table.Raises.createsDefined (h : t.Raises f) (hw : t.WellFormed) (ht : t.InLine) :
    f.CreatesDefined t := by
  rcases h with h | h | h
  · exact Atomicity.createsDefined h
  · exact PartialDependency.createsDefined hw ht h
  · exact TransitiveDependency.createsDefined hw ht h

namespace Schema

variable {s : Schema}

/-- **The tables that remedies create are well defined.** Let a schema be accepted whose
column names, in its tables and in their foreign keys, hold no line break, and whose
foreign keys name no column twice. In the text of each remedy, the columns that the
definition of a table lists are written apart from each other, even if the case of
letters does not count. Each line of the definition but the last ends in a comma, and
the last does not, unless it takes over a column of a type that itself ends in one. -/
theorem created_tables {name : String} {ts : List Table} (hts : ∀ t ∈ ts, t.WellFormed)
    (hs : ofTables name ts = .ok s) (hline : ∀ t ∈ s.tables, t.InLine) (hf : s.Raises f)
    {script : String} (hr : f.remedy? = some script) :
    ∃ t ∈ s.tables, f.table = t.name ∧ ∀ body ∈ bodies (Text.lines script),
      (∃ entries, body = entryLines entries ∧
        (entries.filterMap Entry.name?).Pairwise WrittenApart) ∧
      (∀ line ∈ body.dropLast, endsWith line "," = true) ∧
      ∀ last ∈ body.getLast?, endsWith last "," = true ↔
        ∃ c ∈ t.columns, last = "    " ++ c.definition ∧ c.nullable = true ∧
          endsWith c.dataType "," = true := by
  obtain ⟨t, ht, hraised⟩ := hf.exists_table
  have hw : t.WellFormed := by
    rw [eq_resolve_of_ofTables hs] at ht
    obtain ⟨u, hu, rfl⟩ := List.mem_map.1 ht
    exact wellFormed_resolveTable _ (hts u hu)
  refine ⟨t, ht, hraised.isAbout.table_eq, fun body hbody => ?_⟩
  obtain ⟨entries, rfl, hd⟩ := hraised.createsDefined hw (hline t ht) script hr body hbody
  exact ⟨⟨entries, rfl, hd.apart⟩, hd.dropLast_entryLines, hd.getLast?_entryLines⟩

/-! ## Employees and their departments -/

def dept : Column := { name := "dept_id", dataType := "INT" }

def deptName (type : String) : Column := { name := "dept_name", dataType := type }

/-- Employees, with the names of their departments in a column of the given type. -/
def employees (type : String) : Table where
  name := "employees"
  columns := [{ name := "id", dataType := "INT" }, dept, deptName type]
  constraints := [.primaryKey none ["id"]]

/-- What the third check finds of employees. -/
def deptFinding (type : String) : Finding :=
  TransitiveDependency.dependencyFinding (employees type) dept [deptName type]

/-- The text of its remedy. -/
def deptScript (type : String) : String :=
  (splitByColumn (employees type) dept [deptName type]
    (TransitiveDependency.lookupName dept.name)
    "Move the transitively dependent columns into a lookup table").render

theorem bodies_deptScript (type : String) : bodies (Text.lines (deptScript type)) =
    [entryLines [.ofColumn dept true, .ofColumn (deptName type) false]] := by
  have hmoves : (splitByColumn (employees type) dept [deptName type]
      (TransitiveDependency.lookupName dept.name)
      "Move the transitively dependent columns into a lookup table").Moves (employees type)
        [deptName type] :=
    moves_splitByColumn (List.mem_cons_of_mem _ List.mem_cons_self)
      (List.singleton_sublist.2 (by simp [employees])).subset _
      (keepsColumns_note (by decide) (by decide))
  exact hmoves.bodies_render rfl

theorem raises_deptFinding {type : String} (h : type ∈ ["VARCHAR(80)", "INT,"]) :
    Raises { name := "shop", tables := [employees type] } (deptFinding type) := by
  have hgate : ∀ type ∈ ["VARCHAR(80)", "INT,"],
      PartialDependency.findings { name := "shop", tables := [employees type] } = [] := by
    decide +kernel
  have hplain : ∀ type ∈ ["VARCHAR(80)", "INT,"], dept ∈ (employees type).plainColumns := by
    decide +kernel
  have hbase : beforeEnd? (lower dept.name) "_id" = some "dept" := by decide +kernel
  have hdependents : ∀ type ∈ ["VARCHAR(80)", "INT,"],
      (TransitiveDependency.others dept (employees type).plainColumns).filter
        (fun d => startsWith (lower d.name) ("dept" ++ "_")) = [deptName type] := by
    decide +kernel
  have hfound : TransitiveDependency.referenceFinding? (employees type) dept =
      some (deptFinding type) := by
    rw [TransitiveDependency.referenceFinding?, hbase]
    dsimp only
    have hgiven : (decide ("dept" = "") || (employees type).inForeignKey dept.name) = false := rfl
    rw [hgiven, if_neg Bool.false_ne_true, hdependents type h]
    rfl
  refine .inr (.inr ?_)
  rw [TransitiveDependency.findings_of_partial_eq_nil (hgate type h)]
  exact List.mem_flatMap.2 ⟨_, List.mem_singleton.2 rfl,
    List.mem_append_right _ (List.mem_filterMap.2 ⟨dept, hplain type h, hfound⟩)⟩

theorem wellFormed_employees (type : String) : (employees type).WellFormed where
  columns := by
    have hapart : ((employees type).columns.map Column.name).Pairwise fun a b =>
        same a b = false := by
      show ["id", "dept_id", "dept_name"].Pairwise _
      decide +kernel
    exact List.pairwise_map.1 hapart
  key := Nat.le_refl 1
  paired := List.forall_mem_nil _

theorem inLine_employees (type : String) : (employees type).InLine where
  columns := by
    have hnames : ∀ n ∈ (employees type).columns.map Column.name, HasNoBreak n.toList := by
      show ∀ n ∈ ["id", "dept_id", "dept_name"], _
      decide
    exact fun c hc => hnames c.name (List.mem_map_of_mem hc)
  references := List.forall_mem_nil _
  unrepeated := List.forall_mem_nil _

/-- The names of departments are moved out, with a comma after the key alone. -/
theorem created_tables_employees :
    let t : Table := employees "VARCHAR(80)"
    let shop : Schema := { name := "shop", tables := [t] }
    let script : String := deptScript "VARCHAR(80)"
    ((∀ u ∈ [t], u.WellFormed) ∧ ofTables "shop" [t] = .ok shop ∧ (∀ u ∈ shop.tables, u.InLine) ∧
      shop.Raises (deptFinding "VARCHAR(80)") ∧
      (deptFinding "VARCHAR(80)").remedy? = some script) ∧
    bodies (Text.lines script) = [["    dept_id INT PRIMARY KEY,", "    dept_name VARCHAR(80)"]] ∧
    ∃ u ∈ shop.tables, (deptFinding "VARCHAR(80)").table = u.name ∧
      ∀ body ∈ bodies (Text.lines script),
        (∃ entries, body = entryLines entries ∧
          (entries.filterMap Entry.name?).Pairwise WrittenApart) ∧
        (∀ line ∈ body.dropLast, endsWith line "," = true) ∧
        ∀ last ∈ body.getLast?, endsWith last "," = true ↔
          ∃ c ∈ u.columns, last = "    " ++ c.definition ∧ c.nullable = true ∧
            endsWith c.dataType "," = true := by
  intro t shop script
  have hts : ∀ u ∈ [t], u.WellFormed := List.forall_mem_singleton.2 (wellFormed_employees _)
  have hs : ofTables "shop" [t] = .ok shop := by decide +kernel
  have hline : ∀ u ∈ shop.tables, u.InLine := List.forall_mem_singleton.2 (inLine_employees _)
  have hf : shop.Raises (deptFinding "VARCHAR(80)") := raises_deptFinding (by simp)
  have hbody : bodies (Text.lines script) =
      [["    dept_id INT PRIMARY KEY,", "    dept_name VARCHAR(80)"]] :=
    (bodies_deptScript _).trans (by decide +kernel)
  exact ⟨⟨hts, hs, hline, hf, rfl⟩, hbody, created_tables hts hs hline hf rfl⟩

/-- **A definition may end in a comma**: its last line is that of a column whose type is
written as it is. -/
theorem exists_body_ending_in_comma :
    let t : Table := employees "INT,"
    let shop : Schema := { name := "shop", tables := [t] }
    t.WellFormed ∧ ofTables "shop" [t] = .ok shop ∧ t.InLine ∧
    ∃ f, shop.Raises f ∧ ∃ script, f.remedy? = some script ∧
      bodies (Text.lines script) = [["    dept_id INT PRIMARY KEY,", "    dept_name INT,"]] :=
  ⟨wellFormed_employees _, by decide +kernel, inLine_employees _, _, raises_deptFinding (by simp),
    deptScript "INT,", rfl, (bodies_deptScript _).trans (by decide +kernel)⟩

end Schema

end NormalForms
