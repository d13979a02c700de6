import NormalForms.Proofs.Draft.Alteration

/-!
# Columns that repeat a name

Of the columns of one name a declaration keeps the first, and refuses the others
with a notice each (`foldl_addColumn_eq`). What the options of a refused column
declare is taken all the same, among what the options of the others declare
(`tableOf_eq_constrain`). So a refused column leaves nothing behind but its notice
if its options declare neither a key nor a constraint (`IsSilent`).
-/

namespace NormalForms.Draft

open Identifier Sql

/-! ## The columns kept -/

/-- A column before has the name of `d`. -/
def repeats (before : List ColumnDefinition) (d : ColumnDefinition) : Bool :=
  before.any fun e => same e.name.value d.name.value

theorem repeats_append (bs cs : List ColumnDefinition) (d : ColumnDefinition) :
    repeats (bs ++ cs) d = (repeats bs d || repeats cs d) :=
  List.any_append

/-- The columns that repeat no name. -/
def kept (before : List ColumnDefinition) : List ColumnDefinition → List ColumnDefinition
  | [] => []
  | d :: ds => if repeats before d then kept (before ++ [d]) ds else d :: kept (before ++ [d]) ds

/-- The columns that repeat a name. -/
def repeated (before : List ColumnDefinition) : List ColumnDefinition → List ColumnDefinition
  | [] => []
  | d :: ds =>
    if repeats before d then d :: repeated (before ++ [d]) ds else repeated (before ++ [d]) ds

/-- The table has columns of the same names as are defined in the list. -/
def Mirrors (t : Table) (ds : List ColumnDefinition) : Prop :=
  ∀ name, (t.column? name).isSome = ds.any fun d => same d.name.value name

section Columns

variable {p : Progress} {before : List ColumnDefinition}

/-- A column is refused if it repeats a name, and else appended. -/
theorem addColumn_columnOf (h : Mirrors p.1 before) (d : ColumnDefinition) :
    addColumn p (columnOf d) =
      if repeats before d then (p.1, p.2 ++ [.duplicateColumn p.1.name d.name.value])
      else ({ p.1 with columns := p.1.columns ++ [columnOf d] }, p.2) := by
  have hsome : (p.1.column? (columnOf d).name).isSome = repeats before d := h d.name.value
  rw [addColumn, Table.offerColumn, hsome]
  cases repeats before d <;> simp [Progress.record, columnOf]

theorem Mirrors.addColumn (h : Mirrors p.1 before) (d : ColumnDefinition) :
    Mirrors (addColumn p (columnOf d)).1 (before ++ [d]) := by
  intro name
  rw [addColumn_columnOf h, List.any_append, List.any_cons, List.any_nil, Bool.or_false,
    ← h name]
  cases hd : repeats before d with
  | true =>
    -- The name of a repeated column was there before.
    have hthere : same d.name.value name = true → (p.1.column? name).isSome = true := by
      intro hname
      obtain ⟨e, he, hsame⟩ := List.any_eq_true.1 hd
      rw [h name]
      exact List.any_eq_true.2 ⟨e, he, same_trans hsame hname⟩
    cases hname : same d.name.value name with
    | true => simp [hthere hname]
    | false => simp
  | false =>
    have hfind : Table.column? { p.1 with columns := p.1.columns ++ [columnOf d] } name =
        (p.1.column? name).or ([columnOf d].find? fun c => c.hasName name) := List.find?_append
    rw [if_neg Bool.false_ne_true, hfind, Option.isSome_or, List.find?_singleton]
    have hcolumn : (columnOf d).hasName name = same d.name.value name := rfl
    rw [hcolumn]
    cases same d.name.value name <;> rfl

/-- **The first column of each name is kept**, and the others are refused in order. -/
theorem foldl_addColumn_eq (h : Mirrors p.1 before) (ds : List ColumnDefinition) :
    (ds.map columnOf).foldl addColumn p =
      ({ p.1 with columns := p.1.columns ++ (kept before ds).map columnOf },
        p.2 ++ (repeated before ds).map fun d => .duplicateColumn p.1.name d.name.value) := by
  induction ds generalizing p before with
  | nil => simp [kept, repeated]
  | cons d ds ih =>
    rw [List.map_cons, List.foldl_cons, ih (h.addColumn d), addColumn_columnOf h, kept, repeated]
    cases repeats before d <;> simp

end Columns

/-- What was kept repeats no name. -/
theorem kept_kept {earlier before : List ColumnDefinition}
    (h : ∀ d, repeats earlier d = true → repeats before d = true) (ds : List ColumnDefinition) :
    kept earlier (kept before ds) = kept before ds ∧ repeated earlier (kept before ds) = [] := by
  induction ds generalizing earlier before with
  | nil => exact ⟨rfl, rfl⟩
  | cons d ds ih =>
    rw [kept]
    cases hd : repeats before d with
    | true =>
      refine ih fun e he => ?_
      rw [repeats_append, h e he, Bool.true_or]
    | false =>
      have hearlier : repeats earlier d = false :=
        Bool.eq_false_iff.2 fun he => by rw [h d he] at hd; cases hd
      have hboth : ∀ e, repeats (earlier ++ [d]) e = true → repeats (before ++ [d]) e = true := by
        intro e he
        rw [repeats_append] at he ⊢
        rcases Bool.or_eq_true_iff.1 he with he | he
        · rw [h e he, Bool.true_or]
        · rw [he, Bool.or_true]
      obtain ⟨hkept, hrepeated⟩ := ih hboth
      rw [if_neg Bool.false_ne_true, kept, repeated, hearlier, if_neg Bool.false_ne_true,
        if_neg Bool.false_ne_true, hkept]
      exact ⟨rfl, hrepeated⟩

/-- Columns that contribute nothing may be left out. -/
theorem flatMap_kept {α : Type} {f : ColumnDefinition → List α}
    {before ds : List ColumnDefinition} (h : ∀ d ∈ repeated before ds, f d = []) :
    (kept before ds).flatMap f = ds.flatMap f := by
  induction ds generalizing before with
  | nil => rfl
  | cons d ds ih =>
    rw [kept, List.flatMap_cons]
    rw [repeated] at h
    cases hd : repeats before d with
    | true =>
      rw [hd, if_pos rfl] at h
      obtain ⟨hf, hrest⟩ := List.forall_mem_cons.1 h
      rw [if_pos rfl, hf, List.nil_append, ih hrest]
    | false =>
      rw [hd, if_neg Bool.false_ne_true] at h
      rw [if_neg Bool.false_ne_true, List.flatMap_cons, ih h]

/-! ## The constraints -/

theorem constrain_after {earlier : List Rejection} (name : String) (ds : List ColumnDefinition)
    (cs : List TableConstraint) (p : Progress) :
    constrain name ds cs (p.after earlier) = (constrain name ds cs p).after earlier := by
  unfold constrain
  rw [foldl_after addConstraint_after, foldl_after addConstraint_after,
    foldl_after addTableConstraint_after]

/-- Constraints add no column. -/
theorem columns_addConstraint (p : Progress) (c : Constraint) :
    (addConstraint p c).1.columns = p.1.columns := by
  cases hc : p.1.addConstraint c with
  | ok t => rw [addConstraint_of_ok hc, (Table.addConstraint_eq_ok_iff.1 hc).2]
  | error r => rw [addConstraint_of_error hc]

theorem columns_constrain (name : String) (ds : List ColumnDefinition) (cs : List TableConstraint)
    (p : Progress) : (constrain name ds cs p).1.columns = p.1.columns :=
  constrain_induction (P := fun q => q.1.columns = p.1.columns)
    (fun hq c => (columns_addConstraint _ c).trans hq) rfl name ds cs

/-! ## The table -/

/-- The declaration without the columns that repeat a name. -/
def withoutRepeats (c : CreateTable) : CreateTable := { c with columns := kept [] c.columns }

/-- The refusals of the columns that repeat a name. -/
def refusedColumns (c : CreateTable) : List Rejection :=
  (repeated [] c.columns).map fun d => .duplicateColumn (relationOf c.name) d.name.value

/-- The table of the columns kept, without constraints. -/
def unconstrained (c : CreateTable) : Table :=
  { name := relationOf c.name, columns := (kept [] c.columns).map columnOf }

/-- The columns come first: what they have declared is added to those kept. -/
theorem tableOf_eq_constrain (c : CreateTable) :
    tableOf c = (constrain (relationOf c.name) c.columns c.constraints
      (unconstrained c, [])).after (refusedColumns c) := by
  have hempty : Mirrors { name := relationOf c.name } [] := fun _ => rfl
  have hcolumns := foldl_addColumn_eq (p := ({ name := relationOf c.name }, [])) hempty c.columns
  have hstart : (c.columns.map columnOf).foldl addColumn ({ name := relationOf c.name }, []) =
      Progress.after (refusedColumns c) (unconstrained c, []) := by
    rw [hcolumns]
    simp [Progress.after, unconstrained, refusedColumns]
  rw [← constrain_after, ← hstart]
  rfl

/-- Without the columns that repeat a name, none is refused. -/
theorem tableOf_withoutRepeats (c : CreateTable) :
    tableOf (withoutRepeats c) =
      constrain (relationOf c.name) (kept [] c.columns) c.constraints (unconstrained c, []) := by
  obtain ⟨hkept, hrepeated⟩ := @kept_kept [] [] (fun _ h => h) c.columns
  have hrefused : refusedColumns (withoutRepeats c) = [] := by
    rw [refusedColumns, withoutRepeats, hrepeated]
    rfl
  have htable : unconstrained (withoutRepeats c) = unconstrained c := by
    simp only [unconstrained, withoutRepeats, hkept]
  rw [tableOf_eq_constrain, hrefused, htable]
  exact Prod.ext rfl rfl

/-- No option of the column declares a key or a constraint. -/
def IsSilent (d : ColumnDefinition) : Prop :=
  ∀ o ∈ d.options, isPrimaryKey o.2 = false ∧ optionConstraint? d.name.value o = none

instance (d : ColumnDefinition) : Decidable (IsSilent d) :=
  inferInstanceAs (Decidable (∀ o ∈ d.options, _))

theorem IsSilent.optionConstraints_eq {d : ColumnDefinition} (h : IsSilent d) :
    optionConstraints d = [] :=
  List.filterMap_eq_nil_iff.2 fun o ho => (h o ho).2

theorem IsSilent.inlineKeyColumns_eq {d : ColumnDefinition} (h : IsSilent d) :
    ((d.options.filter fun o => isPrimaryKey o.2).map fun _ => d.name.value) = [] := by
  rw [List.map_eq_nil_iff, List.filter_eq_nil_iff]
  intro o ho
  rw [(h o ho).1]
  exact Bool.false_ne_true

/-- What the options of kept columns declare is all that is declared, if the other
columns are silent. -/
theorem constrain_kept {name : String} {ds : List ColumnDefinition}
    (h : ∀ d ∈ repeated [] ds, IsSilent d) (cs : List TableConstraint) (p : Progress) :
    constrain name (kept [] ds) cs p = constrain name ds cs p := by
  have hkey : inlineKeyColumns (kept [] ds) = inlineKeyColumns ds :=
    flatMap_kept fun d hd => (h d hd).inlineKeyColumns_eq
  have hinline : (kept [] ds).flatMap optionConstraints = ds.flatMap optionConstraints :=
    flatMap_kept fun d hd => (h d hd).optionConstraints_eq
  rw [constrain, constrain, inlineKey?, inlineKey?, hkey, hinline]

/-- **Columns that repeat a name leave their notices behind**, and what their options
declare: their own columns are as if they had not been there, and so is the whole
table if their options are silent. -/
theorem tableOf_of_repeats (c : CreateTable) :
    tableOf c = (constrain (relationOf c.name) c.columns c.constraints
      (unconstrained c, [])).after (refusedColumns c) ∧
    tableOf (withoutRepeats c) =
      constrain (relationOf c.name) (kept [] c.columns) c.constraints (unconstrained c, []) ∧
    (tableOf c).1.columns = (tableOf (withoutRepeats c)).1.columns ∧
    ((∀ d ∈ repeated [] c.columns, IsSilent d) →
      tableOf c = (tableOf (withoutRepeats c)).after (refusedColumns c)) := by
  refine ⟨tableOf_eq_constrain c, tableOf_withoutRepeats c, ?_, fun h => ?_⟩
  · rw [tableOf_eq_constrain, tableOf_withoutRepeats, columns_constrain]
    exact columns_constrain _ _ _ _
  · rw [tableOf_eq_constrain, tableOf_withoutRepeats, constrain_kept h]

/-- The second `x` is refused, and says nothing of keys. -/
def twoTyped : CreateTable where
  name := ⟨[⟨"a", none⟩]⟩
  columns := [{ name := ⟨"x", none⟩, type := .plain "INT", options := [(none, .primaryKey)] },
    { name := ⟨"y", none⟩, type := .plain "INT", options := [(none, .unique)] },
    { name := ⟨"x", none⟩, type := .plain "TEXT", options := [(none, .notNull)] }]
  constraints := []

theorem tableOf_of_repeats_twoTyped :
    (∀ d ∈ repeated [] twoTyped.columns, IsSilent d) ∧
    tableOf twoTyped = (tableOf (withoutRepeats twoTyped)).after [.duplicateColumn "a" "x"] ∧
    (tableOf twoTyped).1.columns.map Column.name = ["x", "y"] := by
  have hrefused : refusedColumns twoTyped = [.duplicateColumn "a" "x"] := by decide +kernel
  have h : ∀ d ∈ repeated [] twoTyped.columns, IsSilent d := by decide +kernel
  have hafter := (tableOf_of_repeats twoTyped).2.2.2 h
  rw [hrefused] at hafter
  exact ⟨h, hafter, by decide +kernel⟩

/-- The second `x` is refused, and declared the key. -/
def twoKeyed : CreateTable where
  name := ⟨[⟨"t", none⟩]⟩
  columns := [{ name := ⟨"x", none⟩, type := .plain "INT" },
    { name := ⟨"x", none⟩, type := .plain "INT", options := [(none, .primaryKey)] }]
  constraints := []

/-- **The key of a refused column stays.** -/
theorem exists_key_of_refused :
    (tableOf twoKeyed).2 = [.duplicateColumn "t" "x"] ∧
      (tableOf twoKeyed).1.constraints = [.primaryKey (some "pk_t") ["x"]] ∧
      (tableOf (withoutRepeats twoKeyed)).1.constraints = [] := by
  decide +kernel

end NormalForms.Draft
