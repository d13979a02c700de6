import NormalForms.Proofs.Draft.Repetition

/-!
# Nothing declared is lost

A declaration is a list of elements: its columns, the one key that their options make
together, the constraints of the other options, and the constraints of the table. They
are taken one after the other. Each is stored, unless something that is stored before it
speaks against it, or it does not fit together; then there is one refusal that says so
(`Sifts`). So the elements that are stored stand in the order in which they are declared,
and with the notices they are as many as were declared. An alteration goes on with the
constraints that it adds.
-/

namespace NormalForms

open Identifier Sql

/-- What a declaration is made of. -/
inductive Element where
  | column (c : Column)
  | constraint (c : Constraint)

/-- The columns of a table and then its constraints. -/
def Table.elements (t : Table) : List Element :=
  t.columns.map .column ++ t.constraints.map .constraint

namespace Element

/-- Why an element is refused in the table `name`, after what is stored of it. -/
inductive Objection (name : String) (stored : List Element) : Element → Rejection → Prop
  | repeated {c d : Column} (mem : .column d ∈ stored) (named : same d.name c.name = true) :
      Objection name stored (.column c) (.duplicateColumn name c.name)
  | secondKey {other given : Option String} {columns keys : List String}
      (mem : .constraint (.primaryKey other columns) ∈ stored) :
      Objection name stored (.constraint (.primaryKey given keys)) (.secondPrimaryKey name)
  | unpaired {fk : ForeignKey} (apart : ¬ fk.IsPaired) :
      Objection name stored (.constraint (.foreignKey fk))
        (.unpairedForeignKey name fk.columns.length fk.targetColumns.length)

/-- Of the elements `es` of the table `name`, the elements `kept` are stored after those
before, and the others are refused, with one refusal each. -/
inductive Sifts (name : String) :
    List Element → List Element → List Element → List Rejection → Prop
  | done (before : List Element) : Sifts name before [] [] []
  | stored {before es kept : List Element} {refused : List Rejection} {e : Element}
      (welcome : ∀ r, ¬ Objection name before e r)
      (rest : Sifts name (before ++ [e]) es kept refused) :
      Sifts name before (e :: es) (e :: kept) refused
  | refused {before es kept : List Element} {refused : List Rejection} {e : Element}
      {r : Rejection} (objection : Objection name before e r)
      (rest : Sifts name before es kept refused) :
      Sifts name before (e :: es) kept (r :: refused)

namespace Sifts

variable {name : String} {before es fs kept more : List Element} {refused others : List Rejection}

theorem append (h : Sifts name before es kept refused)
    (h' : Sifts name (before ++ kept) fs more others) :
    Sifts name before (es ++ fs) (kept ++ more) (refused ++ others) := by
  induction h with
  | done before => rwa [List.append_nil] at h'
  | stored welcome _ ih =>
    refine .stored welcome (ih ?_)
    rwa [List.append_assoc, List.singleton_append]
  | refused objection _ ih => exact .refused objection (ih h')

/-- **Every element is stored or refused.** -/
theorem length_add_length (h : Sifts name before es kept refused) :
    kept.length + refused.length = es.length := by
  induction h with
  | done => rfl
  | stored _ _ ih => simp only [List.length_cons]; omega
  | refused _ _ ih => simp only [List.length_cons]; omega

/-- What is stored stands in the order in which it was declared. -/
theorem sublist (h : Sifts name before es kept refused) : kept.Sublist es := by
  induction h with
  | done => exact .slnil
  | stored _ _ ih => exact ih.cons_cons _
  | refused _ _ ih => exact ih.cons _

end Sifts

def column? : Element → Option Column
  | .column c => some c
  | .constraint _ => none

def constraint? : Element → Option Constraint
  | .column _ => none
  | .constraint c => some c

/-- Columns and then constraints, taken apart again. -/
theorem filterMap_column? (cs : List Column) (ks : List Constraint) :
    (cs.map column ++ ks.map constraint).filterMap column? = cs := by
  have hcolumns : column? ∘ column = some := rfl
  have hconstraints : column? ∘ constraint = fun _ => none := rfl
  rw [List.filterMap_append, List.filterMap_map, List.filterMap_map, hcolumns, hconstraints,
    List.filterMap_some, List.filterMap_none, List.append_nil]

theorem filterMap_map_constraint (ks : List Constraint) :
    (ks.map constraint).filterMap constraint? = ks := by
  have hconstraints : constraint? ∘ constraint = some := rfl
  rw [List.filterMap_map, hconstraints, List.filterMap_some]

theorem filterMap_constraint? (cs : List Column) (ks : List Constraint) :
    (cs.map column ++ ks.map constraint).filterMap constraint? = ks := by
  have hcolumns : constraint? ∘ column = fun _ => none := rfl
  rw [List.filterMap_append, List.filterMap_map, hcolumns, List.filterMap_none,
    List.nil_append, filterMap_map_constraint]

end Element

namespace Table

variable {t : Table}

theorem mem_columns_iff {c : Column} : c ∈ t.columns ↔ .column c ∈ t.elements := by
  simp [elements]

theorem isSome_primaryKey?_iff : t.primaryKey?.isSome = true ↔
    ∃ name columns, .constraint (.primaryKey name columns) ∈ t.elements := by
  rw [primaryKey?, List.findSome?_isSome_iff]
  constructor
  · rintro ⟨c, hc, hkey⟩
    cases c with
    | primaryKey name columns => exact ⟨name, columns, by simpa [elements] using hc⟩
    | _ => cases hkey
  · rintro ⟨name, columns, hm⟩
    exact ⟨.primaryKey name columns, by simpa [elements] using hm, rfl⟩

/-- A column is added, or refused for one of its name. -/
theorem sifts_addColumn (hnone : t.constraints = []) (c : Column) :
    (∃ r, t.addColumn c = .error r ∧ Element.Objection t.name t.elements (.column c) r) ∨
    ∃ t', t.addColumn c = .ok t' ∧ t'.name = t.name ∧ t'.constraints = [] ∧
      t'.elements = t.elements ++ [.column c] ∧
      ∀ r, ¬ Element.Objection t.name t.elements (.column c) r := by
  cases hfound : t.column? c.name with
  | some d =>
    have hmem := List.mem_of_find?_eq_some hfound
    have hnamed : d.hasName c.name = true := by simpa using List.find?_some hfound
    exact .inl ⟨_, addColumn_eq_error_iff.2 ⟨Option.isSome_of_mem hfound, rfl⟩,
      .repeated (mem_columns_iff.1 hmem) hnamed⟩
  | none =>
    refine .inr ⟨_, addColumn_eq_ok_iff.2 ⟨hfound, rfl⟩, rfl, hnone, ?_, ?_⟩
    · simp [elements, hnone]
    · rintro r ⟨hmem, hnamed⟩
      exact List.find?_eq_none.1 hfound _ (mem_columns_iff.2 hmem) hnamed

/-- A constraint is added, or refused for another key or for not being paired. -/
theorem sifts_addConstraint (t : Table) (c : Constraint) :
    (∃ r, t.addConstraint c = .error r ∧ Element.Objection t.name t.elements (.constraint c) r) ∨
    ∃ t', t.addConstraint c = .ok t' ∧ t'.name = t.name ∧ t'.columns = t.columns ∧
      t'.elements = t.elements ++ [.constraint c] ∧
      ∀ r, ¬ Element.Objection t.name t.elements (.constraint c) r := by
  have hobjection : ∀ r, t.objection? c = some r →
      Element.Objection t.name t.elements (.constraint c) r := by
    intro r hr
    cases c with
    | primaryKey given keys =>
      simp only [objection?] at hr
      split at hr
      · rename_i hkey
        cases hr
        obtain ⟨other, columns, hmem⟩ := isSome_primaryKey?_iff.1 hkey
        exact .secondKey hmem
      · cases hr
    | foreignKey fk =>
      have hapart : ¬ fk.IsPaired := fun hpaired => by
        rw [WellFormed.objection?_foreignKey_eq_none_iff.2 hpaired] at hr
        cases hr
      simp only [objection?] at hr
      split at hr
      · cases hr
      · cases hr
        exact .unpaired hapart
    | unique | check => cases hr
  have hwelcome : t.objection? c = none →
      ∀ r, ¬ Element.Objection t.name t.elements (.constraint c) r := by
    intro hnone r hr
    cases hr with
    | secondKey hmem =>
      have hkey := isSome_primaryKey?_iff.2 ⟨_, _, hmem⟩
      rw [WellFormed.objection?_primaryKey_eq_none_iff.1 hnone] at hkey
      cases hkey
    | unpaired hapart => exact hapart (WellFormed.objection?_foreignKey_eq_none_iff.1 hnone)
  cases hc : t.objection? c with
  | some r => exact .inl ⟨r, addConstraint_eq_error_iff.2 hc, hobjection r hc⟩
  | none =>
    refine .inr ⟨_, addConstraint_eq_ok_iff.2 ⟨hc, rfl⟩, rfl, rfl, ?_, hwelcome hc⟩
    simp [elements]

end Table

namespace Draft

/-! ## Elements taken one after the other -/

/-- `q` comes of `p` by the elements `es`, some of them stored and the others refused. -/
def Progress.Takes (es : List Element) (p q : Progress) : Prop :=
  ∃ kept refused, Element.Sifts p.1.name p.1.elements es kept refused ∧
    Table.name q.1 = p.1.name ∧ Table.elements q.1 = p.1.elements ++ kept ∧ q.2 = p.2 ++ refused

section Takes

variable {p q u : Progress}

theorem Progress.Takes.refl (p : Progress) : Progress.Takes [] p p :=
  ⟨[], [], .done _, rfl, (List.append_nil _).symm, (List.append_nil _).symm⟩

theorem Progress.Takes.trans {es fs : List Element} (h : Progress.Takes es p q)
    (h' : Progress.Takes fs q u) : Progress.Takes (es ++ fs) p u := by
  obtain ⟨kept, refused, hsifts, hname, helements, hrefused⟩ := h
  obtain ⟨more, others, hsifts', hname', helements', hrefused'⟩ := h'
  rw [hname, helements] at hsifts'
  exact ⟨_, _, hsifts.append hsifts', hname'.trans hname,
    by rw [helements', helements, List.append_assoc],
    by rw [hrefused', hrefused, List.append_assoc]⟩

theorem takes_addColumn (hnone : p.1.constraints = []) (c : Column) :
    Progress.Takes [.column c] p (addColumn p c) ∧ (addColumn p c).1.constraints = [] := by
  rcases p.1.sifts_addColumn hnone c with ⟨r, hc, hr⟩ | ⟨t, hc, hname, hkept, helements, hfree⟩
  · rw [addColumn_of_error hc]
    exact ⟨⟨[], [r], .refused hr (.done _), rfl, (List.append_nil _).symm, rfl⟩, hnone⟩
  · rw [addColumn_of_ok hc]
    exact ⟨⟨[.column c], [], .stored hfree (.done _), hname, helements, (List.append_nil _).symm⟩,
      hkept⟩

theorem takes_addConstraint (p : Progress) (c : Constraint) :
    Progress.Takes [.constraint c] p (addConstraint p c) := by
  rcases p.1.sifts_addConstraint c with ⟨r, hc, hr⟩ | ⟨t, hc, hname, -, helements, hfree⟩
  · rw [addConstraint_of_error hc]
    exact ⟨[], [r], .refused hr (.done _), rfl, (List.append_nil _).symm, rfl⟩
  · rw [addConstraint_of_ok hc]
    exact ⟨[.constraint c], [], .stored hfree (.done _), hname, helements,
      (List.append_nil _).symm⟩

/-- Columns are taken before there are constraints. -/
theorem takes_columns (hnone : p.1.constraints = []) (cs : List Column) :
    Progress.Takes (cs.map .column) p (cs.foldl addColumn p) := by
  induction cs generalizing p with
  | nil => exact .refl p
  | cons c cs ih =>
    obtain ⟨htakes, hnone'⟩ := takes_addColumn hnone c
    exact htakes.trans (ih hnone')

theorem takes_constraints (cs : List Constraint) (p : Progress) :
    Progress.Takes (cs.map .constraint) p (cs.foldl addConstraint p) := by
  induction cs generalizing p with
  | nil => exact .refl p
  | cons c cs ih => exact (takes_addConstraint p c).trans (ih (addConstraint p c))

end Takes

/-! ## Table constraints -/

/-- What a table constraint declares depends on how the columns are found. -/
theorem tableConstraint?_congr {t u : Table}
    (h : ∀ name, (t.column? name).map Column.name = (u.column? name).map Column.name) :
    tableConstraint? t = tableConstraint? u := by
  funext c
  cases c with
  | check name e => simp only [tableConstraint?, checkedColumns, h]
  | _ => rfl

/-- **Table constraints** are constraints, all of them about the columns that are there. -/
theorem foldl_addTableConstraint_eq (cs : List TableConstraint) (p : Progress) :
    cs.foldl addTableConstraint p =
      (cs.filterMap (tableConstraint? p.1)).foldl addConstraint p := by
  induction cs generalizing p with
  | nil => rfl
  | cons c cs ih =>
    rw [List.foldl_cons, List.filterMap_cons, ih]
    unfold addTableConstraint
    cases tableConstraint? p.1 c with
    | none => rfl
    | some k =>
      have hcolumns : tableConstraint? (addConstraint p k).1 = tableConstraint? p.1 :=
        tableConstraint?_congr fun name => by
          rw [Table.column?, columns_addConstraint, Table.column?]
      dsimp only
      rw [hcolumns]
      rfl

/-- A name means the first column that has it, whether or not others repeat it. -/
theorem find?_kept {before : List ColumnDefinition} {name : String}
    (h : before.any (fun e => same e.name.value name) = false) (ds : List ColumnDefinition) :
    ((kept before ds).find? fun d => same d.name.value name) =
      ds.find? fun d => same d.name.value name := by
  induction ds generalizing before with
  | nil => rfl
  | cons d ds ih =>
    rw [kept, List.find?_cons]
    cases hname : same d.name.value name with
    | true =>
      -- a column before `d` with its name would have the name looked for
      have hnew : repeats before d = false := by
        refine Bool.eq_false_iff.2 fun hrepeats => ?_
        obtain ⟨e, he, hsame⟩ := List.any_eq_true.1 hrepeats
        exact absurd (same_trans hsame hname) (List.any_eq_false.1 h e he)
      rw [hnew, if_neg Bool.false_ne_true, List.find?_cons, hname]
    | false =>
      have hrest : (before ++ [d]).any (fun e => same e.name.value name) = false := by
        rw [List.any_append, h]
        simp [hname]
      split
      · exact ih hrest
      · rw [List.find?_cons, hname]
        exact ih hrest

/-! ## What a statement declares -/

/-- The table with every column that is declared, also those that repeat a name. -/
def withEveryColumn (c : CreateTable) : Table :=
  { name := relationOf c.name, columns := c.columns.map columnOf }

/-- The constraints of a declaration: the key of its columns, what their other options
declare, and the constraints of the table. -/
def constraintsOf (c : CreateTable) : List Constraint :=
  (inlineKey? (relationOf c.name) c.columns).toList ++ c.columns.flatMap optionConstraints ++
    c.constraints.filterMap (tableConstraint? (withEveryColumn c))

/-- The elements of a declaration in the order in which they are taken. -/
def elementsOf (c : CreateTable) : List Element :=
  (c.columns.map columnOf).map .column ++ (constraintsOf c).map .constraint

/-- The constraints that an alteration adds to the table. -/
def addedElements (t : Table) (operations : List AlterOperation) : List Element :=
  ((addedConstraints operations).filterMap (tableConstraint? t)).map .constraint

theorem tableConstraint?_withEveryColumn (c : CreateTable) :
    tableConstraint? (withEveryColumn c) = tableConstraint? (unconstrained c) := by
  refine tableConstraint?_congr fun name => congrArg _ ?_
  have hnone : ([] : List ColumnDefinition).any (fun e => same e.name.value name) = false := rfl
  have hfind : ∀ ds : List ColumnDefinition, ((ds.map columnOf).find? fun d => d.hasName name) =
      (ds.find? fun d => same d.name.value name).map columnOf := fun ds => List.find?_map
  rw [Table.column?, withEveryColumn, Table.column?, unconstrained, hfind, hfind,
    find?_kept hnone]

/-- A declaration takes its elements one after the other. -/
theorem takes_tableOf (c : CreateTable) :
    Progress.Takes (elementsOf c) ({ name := relationOf c.name }, []) (tableOf c) := by
  have hempty : Mirrors { name := relationOf c.name } [] := fun _ => rfl
  have hcolumns := foldl_addColumn_eq (p := ({ name := relationOf c.name }, [])) hempty c.columns
  have hfold : tableOf c = (constraintsOf c).foldl addConstraint
      ((c.columns.map columnOf).foldl addColumn ({ name := relationOf c.name }, [])) := by
    have hkept : ∀ q : Progress, q.1.columns = (unconstrained c).columns →
        tableConstraint? q.1 = tableConstraint? (withEveryColumn c) := fun q hq =>
      (tableConstraint?_congr fun name => by rw [Table.column?, hq, Table.column?]).trans
        (tableConstraint?_withEveryColumn c).symm
    rw [tableOf, foldl_addTableConstraint_eq, hkept _ ?_, constraintsOf, List.foldl_append,
      List.foldl_append]
    have hsame := columns_constrain (relationOf c.name) c.columns []
      ((c.columns.map columnOf).foldl addColumn ({ name := relationOf c.name }, []))
    refine hsame.trans ?_
    rw [hcolumns]
    rfl
  rw [hfold]
  exact (takes_columns rfl (c.columns.map columnOf)).trans (takes_constraints _ _)

/-- **Of the elements of a declaration** the table has those stored, the others are refused. -/
theorem sifts_tableOf (c : CreateTable) :
    (tableOf c).1.name = relationOf c.name ∧
      Element.Sifts (relationOf c.name) [] (elementsOf c) (tableOf c).1.elements (tableOf c).2 := by
  obtain ⟨kept, refused, hsifts, hname, helements, hrefused⟩ := takes_tableOf c
  have hnothing : Table.elements { name := relationOf c.name } = [] := rfl
  simp only [hnothing, List.nil_append] at hsifts hname helements hrefused
  refine ⟨hname, ?_⟩
  rw [helements, hrefused]
  exact hsifts

theorem takes_alterTable (operations : List AlterOperation) (t : Table) :
    Progress.Takes (addedElements t operations) (t, []) (alterTable operations t) := by
  rw [alterTable, foldl_addTableConstraint_eq]
  exact takes_constraints _ _

/-- An alteration changes nothing but the constraints of the table. -/
theorem alterTable_eq_constraints (operations : List AlterOperation) (t : Table) :
    (alterTable operations t).1 =
      { t with constraints := (alterTable operations t).1.constraints } := by
  refine alterTable_induction (P := fun q => q.1 = { t with constraints := q.1.constraints })
    rfl fun {p} hp c => ?_
  cases hc : p.1.addConstraint c with
  | ok u =>
    rw [addConstraint_of_ok hc]
    obtain ⟨-, rfl⟩ := Table.addConstraint_eq_ok_iff.1 hc
    exact congrArg (fun u : Table => { u with constraints := p.1.constraints ++ [c] }) hp
  | error r =>
    rw [addConstraint_of_error hc]
    exact hp

/-- **Of the constraints that are added** the table has those stored after its own, and the
others are refused. -/
theorem sifts_alterTable (operations : List AlterOperation) (t : Table) :
    ∃ stored, (alterTable operations t).1 = { t with constraints := t.constraints ++ stored } ∧
      Element.Sifts t.name t.elements (addedElements t operations) (stored.map .constraint)
        (alterTable operations t).2 := by
  obtain ⟨kept, refused, hsifts, -, helements, hrefused⟩ := takes_alterTable operations t
  obtain ⟨stored, -, rfl⟩ := List.sublist_map_iff.1 hsifts.sublist
  simp only [List.nil_append] at hrefused
  have hconstraints := congrArg (List.filterMap Element.constraint?) helements
  rw [Table.elements, Table.elements, List.append_assoc, ← List.map_append,
    Element.filterMap_constraint?, Element.filterMap_constraint?] at hconstraints
  refine ⟨stored, ?_, ?_⟩
  · rw [alterTable_eq_constraints, hconstraints]
  · rw [hrefused]
    exact hsifts

/-! ## How much a statement declares -/

/-- Does the option declare a constraint other than a key? -/
def isConstraining : ColumnOption → Bool
  | .unique | .references _ _ | .check _ => true
  | _ => false

/-- Does the table constraint constrain anything? -/
def constrains : TableConstraint → Bool
  | .index => false
  | _ => true

/-- The columns, one key if any option says so, the other constraints of the options, and
the constraints of the table. -/
def declarations (c : CreateTable) : Nat :=
  let options := c.columns.flatMap ColumnDefinition.options
  c.columns.length + (options.any fun o => isPrimaryKey o.2).toNat +
    options.countP (fun o => isConstraining o.2) + c.constraints.countP constrains

theorem length_inlineKey? (table : String) (ds : List ColumnDefinition) :
    (inlineKey? table ds).toList.length =
      ((ds.flatMap ColumnDefinition.options).any fun o => isPrimaryKey o.2).toNat := by
  have hnone : inlineKeyColumns ds = [] ↔
      ((ds.flatMap ColumnDefinition.options).any fun o => isPrimaryKey o.2) = false := by
    simp [inlineKeyColumns]
  unfold inlineKey?
  cases hkeys : inlineKeyColumns ds with
  | nil => rw [hnone.1 hkeys]; rfl
  | cons column columns =>
    have hsome : ((ds.flatMap ColumnDefinition.options).any fun o => isPrimaryKey o.2) = true := by
      refine Bool.ne_false_iff.1 fun hany => ?_
      rw [hnone.2 hany] at hkeys
      cases hkeys
    rw [hsome]
    rfl

theorem length_optionConstraints (ds : List ColumnDefinition) :
    (ds.flatMap optionConstraints).length =
      (ds.flatMap ColumnDefinition.options).countP fun o => isConstraining o.2 := by
  rw [List.length_flatMap, List.countP_flatMap]
  refine congrArg List.sum (List.map_congr_left fun d _ => ?_)
  rw [optionConstraints, List.length_filterMap_eq_countP, Function.comp_apply]
  refine List.countP_congr fun o _ => ?_
  obtain ⟨given, option⟩ := o
  cases option <;> simp [optionConstraint?, isConstraining]

theorem length_tableConstraints (t : Table) (cs : List TableConstraint) :
    (cs.filterMap (tableConstraint? t)).length = cs.countP constrains := by
  rw [List.length_filterMap_eq_countP]
  refine List.countP_congr fun c _ => ?_
  cases c <;> simp [tableConstraint?, constrains]

theorem length_elementsOf (c : CreateTable) : (elementsOf c).length = declarations c := by
  rw [elementsOf, constraintsOf, declarations]
  simp only [List.length_append, List.length_map, length_inlineKey?, length_optionConstraints,
    length_tableConstraints]
  omega

/-! ## Statements -/

/-- A notice for each refusal, about the statement at `index`. -/
def refusals (index : Nat) (text : String) (refused : List Rejection) : List Notice :=
  refused.map fun r => ⟨index, Text.trimmed text, .rejected r⟩

theorem map_message_refusals (index : Nat) (text : String) (refused : List Rejection) :
    (refusals index text refused).map Notice.message = refused.map Rejection.message := by
  rw [refusals, List.map_map]
  rfl

theorem note_rejected (d : Draft) (index : Nat) (text : String) (refused : List Rejection) :
    d.note index text (refused.map .rejected) =
      { d with notices := d.notices ++ refusals index text refused } := by
  rw [note, List.map_map, refusals]
  rfl

/-- The table that the statement declares is put after the others. Its elements are stored
or refused, and every refusal is noted. -/
structure Declares (d d' : Draft) (index : Nat) (text : String) (c : CreateTable) (t : Table)
    (refused : List Rejection) : Prop where
  tables : d'.schema.tables = d.schema.tables ++ [t]
  name : t.name = relationOf c.name
  sifts : Element.Sifts t.name [] (elementsOf c) t.elements refused
  columns : t.columns.Sublist (c.columns.map columnOf)
  constraints : t.constraints.Sublist (constraintsOf c)
  notices : d'.notices = d.notices ++ refusals index text refused
  messages : (refusals index text refused).map Notice.message = refused.map Rejection.message
  count : t.columns.length + t.constraints.length + refused.length = declarations c

/-- The constraints that the operations add to the table `t` are stored in it, as `stored`,
or refused, and every refusal is noted. -/
structure Alters (d d' : Draft) (index : Nat) (text : String) (operations : List AlterOperation)
    (t : Table) (stored : List Constraint) (refused : List Rejection) : Prop where
  tables : d'.schema.tables = d.schema.tables.map fun u =>
    if u = t then { t with constraints := t.constraints ++ stored } else u
  sifts : Element.Sifts t.name t.elements (addedElements t operations)
    (stored.map .constraint) refused
  constraints : stored.Sublist ((addedConstraints operations).filterMap (tableConstraint? t))
  notices : d'.notices = d.notices ++ refusals index text refused
  messages : (refusals index text refused).map Notice.message = refused.map Rejection.message
  count : stored.length + refused.length = (addedConstraints operations).countP constrains

variable {d : Draft} {index : Nat} {text : String}

theorem declares_add {c : CreateTable} (hnew : d.schema.table? (relationOf c.name) = none) :
    Declares d (d.add index text (.createTable c)) index text c (tableOf c).1 (tableOf c).2 := by
  obtain ⟨hname, hsifts⟩ := sifts_tableOf c
  have hadd : d.schema.addTable (tableOf c).1 =
      .ok { name := d.schema.name, tables := d.schema.tables ++ [(tableOf c).1] } := by
    refine Schema.addTable_eq_ok_iff.2 ⟨?_, rfl⟩
    rw [hname]
    exact hnew
  have hdraft : d.add index text (.createTable c) =
      { schema := { name := d.schema.name, tables := d.schema.tables ++ [(tableOf c).1] },
        notices := d.notices ++ refusals index text (tableOf c).2 } := by
    rw [add, note_rejected]
    exact addTable_of_ok hadd
  have hcolumns := hsifts.sublist.filterMap Element.column?
  have hconstraints := hsifts.sublist.filterMap Element.constraint?
  have hlength := hsifts.length_add_length
  rw [length_elementsOf, Table.elements, List.length_append, List.length_map,
    List.length_map] at hlength
  rw [Table.elements, elementsOf, Element.filterMap_column?,
    Element.filterMap_column?] at hcolumns
  rw [Table.elements, elementsOf, Element.filterMap_constraint?,
    Element.filterMap_constraint?] at hconstraints
  rw [← hname] at hsifts
  exact {
    tables := congrArg (fun d : Draft => d.schema.tables) hdraft
    name := hname
    sifts := hsifts
    columns := hcolumns
    constraints := hconstraints
    notices := congrArg Draft.notices hdraft
    messages := map_message_refusals index text _
    count := hlength }

theorem alters_add {relation : DottedName} {operations : List AlterOperation} {t : Table}
    (h : d.schema.WellFormed) (ht : d.schema.table? (relationOf relation) = some t) :
    ∃ stored, Alters d (d.add index text (.alterTable relation operations)) index text operations
      t stored (alterTable operations t).2 := by
  obtain ⟨stored, htable, hsifts⟩ := sifts_alterTable operations t
  obtain ⟨hmem, hnamed⟩ := h.table?_eq_some_iff.1 ht
  have hdraft : d.add index text (.alterTable relation operations) =
      { schema := d.schema.mapTable (relationOf relation) (fun u => (alterTable operations u).1)
          (name_alterTable operations),
        notices := d.notices ++ refusals index text (alterTable operations t).2 } := by
    rw [add, ht]
    exact note_rejected _ index text _
  -- no other table has the name that is altered
  have honly : ∀ u ∈ d.schema.tables,
      (if same u.name (relationOf relation) then (alterTable operations u).1 else u) =
        if u = t then { t with constraints := t.constraints ++ stored } else u := by
    intro u hu
    by_cases hut : u = t
    · subst hut
      rw [if_pos hnamed, if_pos rfl, htable]
    · have hother : ¬ same u.name (relationOf relation) = true := fun hsame =>
        hut (Option.some.inj ((h.table?_eq_some_iff.2 ⟨hu, hsame⟩).symm.trans ht))
      rw [if_neg hother, if_neg hut]
  have hconstraints := hsifts.sublist.filterMap Element.constraint?
  have hlength := hsifts.length_add_length
  refine ⟨stored, ?_⟩
  exact {
    tables := by
      rw [hdraft, h.tables_mapTable]
      exact List.map_congr_left honly
    sifts := hsifts
    constraints := by
      rwa [addedElements, Element.filterMap_map_constraint,
        Element.filterMap_map_constraint] at hconstraints
    notices := congrArg Draft.notices hdraft
    messages := map_message_refusals index text _
    count := by
      rwa [List.length_map, addedElements, List.length_map, length_tableConstraints] at hlength }

/-- **Nothing declared is lost silently.** -/
theorem declared_kept_or_noted (name : String) (es : List Entry) (index : Nat) (text : String) :
    let d := (empty name).feed es
    (∀ c : CreateTable, d.schema.table? (relationOf c.name) = none →
      ∃ t refused, Declares d (d.add index text (.createTable c)) index text c t refused) ∧
    ∀ relation operations t, d.schema.table? (relationOf relation) = some t →
      ∃ stored refused, Alters d (d.add index text (.alterTable relation operations)) index text
        operations t stored refused :=
  ⟨fun _ hnew => ⟨_, _, declares_add hnew⟩, fun _ _ _ ht =>
    (alters_add (wellFormed_feed (Schema.WellFormed.empty name) es) ht).imp fun _ h => ⟨_, h⟩⟩

/-- A column declared twice, a second key, and a foreign key that leads from two columns
to one. -/
def parcels : CreateTable where
  name := ⟨[⟨"parcels", none⟩]⟩
  columns := [
    { name := ⟨"id", none⟩, type := .plain "INT", options := [(none, .primaryKey)] },
    { name := ⟨"id", none⟩, type := .plain "TEXT", options := [(none, .unique)] },
    { name := ⟨"depot", none⟩
      type := .plain "INT"
      options := [(none, .references ⟨[⟨"depots", none⟩]⟩ [])] }]
  constraints := [keyOn "depot",
    .foreignKey none [⟨"id", none⟩, ⟨"depot", none⟩] ⟨[⟨"depots", none⟩]⟩ [⟨"id", none⟩],
    .index]

theorem declared_kept_or_noted_parcels :
    let d := (empty "post").feed []
    let d' := (empty "post").feed [⟨0, "", .createTable parcels⟩]
    let added := [.other, .addConstraint (keyOn "id"), .addConstraint (.unique none [])]
    (d.schema.table? (relationOf parcels.name) = none ∧
      ∃ t refused, Declares d (d.add 0 "" (.createTable parcels)) 0 "" parcels t refused) ∧
    (d'.schema.table? (relationOf parcels.name) = some (tableOf parcels).1 ∧
      ∃ stored refused, Alters d' (d'.add 1 "" (.alterTable parcels.name added)) 1 "" added
        (tableOf parcels).1 stored refused) ∧
    (declarations parcels, (tableOf parcels).1.elements.length) = (8, 5) ∧
    (tableOf parcels).2 = [.duplicateColumn "parcels" "id", .secondPrimaryKey "parcels",
      .unpairedForeignKey "parcels" 2 1] ∧
    (alterTable added (tableOf parcels).1).2 = [.secondPrimaryKey "parcels"] := by
  intro d d' added
  have hnew : d.schema.table? (relationOf parcels.name) = none := rfl
  have hthere : d'.schema.table? (relationOf parcels.name) = some (tableOf parcels).1 := by
    decide +kernel
  refine ⟨⟨hnew, ?_⟩, ⟨hthere, ?_⟩, ?_⟩
  · exact (declared_kept_or_noted "post" [] 0 "").1 parcels hnew
  · exact (declared_kept_or_noted "post" [⟨0, "", .createTable parcels⟩] 1 "").2 parcels.name added
      _ hthere
  · decide +kernel

end Draft

end NormalForms
