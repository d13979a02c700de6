import Mathlib.Data.List.Pairwise
import NormalForms.Proofs.Draft.Repetition
import NormalForms.Proofs.Naming.Case
import NormalForms.Proofs.Sql.Mention

/-!
# Check constraints

A check constraint is never refused, and no constraint adds a column, so that the
checks of a table are those of its declaration and of the alterations after it, in
order (`checks_feed`). A check of the table is stored with the declared columns that
its expression mentions, in the order in which they are mentioned. Two of them may be
one column if its names differ in more than their case (`SpellsAlike`). A check of a
column is stored with that column, whatever it mentions.
-/

namespace NormalForms

open Identifier Sql Text

/-! ## Lists without repetitions -/

section Repetitions

variable {α : Type} [DecidableEq α]

theorem nodup_eraseDups : ∀ l : List α, l.eraseDups.Nodup
  | [] => List.nodup_nil
  | a :: l => by
    have hlt : (l.filter fun b => !b == a).length < l.length + 1 :=
      Nat.lt_succ_of_le (List.length_filter_le _ _)
    rw [List.eraseDups_cons, List.nodup_cons, List.mem_eraseDups]
    exact ⟨by simp, nodup_eraseDups _⟩
termination_by l => l.length

theorem eraseDups_eq_self_iff {l : List α} : l.eraseDups = l ↔ l.Nodup := by
  constructor
  · intro h
    rw [← h]
    exact nodup_eraseDups l
  · intro h
    induction l with
    | nil => rfl
    | cons a l ih =>
      obtain ⟨ha, hl⟩ := List.nodup_cons.1 h
      have hkeep : l.filter (fun b => !b == a) = l := by
        refine List.filter_eq_self.2 fun b hb => ?_
        have hne : b ≠ a := fun he => ha (he ▸ hb)
        simpa using hne
      rw [List.eraseDups_cons, hkeep, ih hl]

/-- What is there already adds nothing. -/
theorem eraseDups_append_of_subset {as bs cs : List α} (h : bs ⊆ as) :
    (as ++ bs ++ cs).eraseDups = (as ++ cs).eraseDups := by
  have hnone : bs.removeAll as = [] := by
    refine List.filter_eq_nil_iff.2 fun b hb => ?_
    simpa using h hb
  have hboth : cs.removeAll (as ++ bs) = cs.removeAll as := by
    refine List.filter_congr fun c _ => ?_
    by_cases hc : c ∈ as
    · simp [hc]
    · have hb : c ∉ bs := fun hb => hc (h hb)
      simp [hc, hb]
  rw [List.eraseDups_append, List.eraseDups_append, hnone, hboth, List.eraseDups_append]
  simp

/-- Of elements that are mapped to different values no two have one value. -/
theorem eq_of_nodup_filterMap {β : Type} {f : α → Option β} {l : List α}
    (h : (l.filterMap f).Nodup) {a b : α} {x : β} (ha : a ∈ l) (hb : b ∈ l) (hx : f a = some x)
    (hy : f b = some x) : a = b := by
  by_contra hne
  rw [List.Nodup, List.pairwise_filterMap] at h
  have hsymm : Std.Symm fun a b => ∀ x, f a = some x → ∀ y, f b = some y → x ≠ y :=
    ⟨fun a b hab x hx y hy => (hab y hy x hx).symm⟩
  exact h.forall ha hb hne x hx x hy rfl

end Repetitions

/-! ## Checks -/

def Constraint.isCheck : Constraint → Bool
  | check _ _ _ => true
  | _ => false

namespace Table

variable {t u : Table}

/-- The check constraints of a table, in order. -/
def checks (t : Table) : List Constraint := t.constraints.filter Constraint.isCheck

/-- A column is looked up by the key of a name alone. -/
theorem column?_congr {m n : String} (h : same m n = true) : t.column? m = t.column? n := by
  have hkey : ∀ c : Column, c.hasName m = c.hasName n := by
    intro c
    rw [Column.hasName, Column.hasName, same, same, same_iff.1 h]
  simp only [column?, hkey]

/-- Resolving leaves checks alone. -/
theorem checks_resolveTable (s : Schema) (t : Table) : (s.resolveTable t).checks = t.checks := by
  have hkind : Constraint.isCheck ∘ s.complete = Constraint.isCheck := by
    funext c
    cases c <;> rfl
  have hsame : ∀ c ∈ t.constraints.filter Constraint.isCheck, s.complete c = c := by
    intro c hc
    cases c with
    | check name columns expression => rfl
    | _ => cases (List.mem_filter.1 hc).2
  rw [checks, Schema.resolveTable, List.filter_map, hkind, List.map_congr_left hsame, List.map_id']
  rfl

end Table

namespace Draft

/-! ## Mentioned columns -/

/-- The column of the table that a name means, spelled as declared. -/
def declaredName? (t : Table) (name : String) : Option String := (t.column? name).map Column.name

/-- The declared columns that an expression mentions, each once, in the order in which
they are first mentioned. -/
def mentionedColumns (t : Table) (e : Expr) : List String :=
  (e.names.filterMap (declaredName? t)).eraseDups

/-- Names of one declared column differ in their case at most. -/
def SpellsAlike (t : Table) (e : Expr) : Prop :=
  ∀ m ∈ e.names, ∀ n ∈ e.names, same m n = true → (t.column? n).isSome = true → lower m = lower n

instance (t : Table) (e : Expr) : Decidable (SpellsAlike t e) :=
  inferInstanceAs (Decidable (∀ m ∈ e.names, ∀ n ∈ e.names, _))

section Mentioned

variable {t : Table} {e : Expr} {m n : String}

theorem declaredName?_congr (h : lower m = lower n) : declaredName? t m = declaredName? t n := by
  have hsame : same m n = true := by rw [same_iff, ← key_lower m, h, key_lower]
  rw [declaredName?, Table.column?_congr hsame, declaredName?]

/-- Names of one declared column have one key. -/
theorem same_of_declaredName? {column : String} (hm : declaredName? t m = some column)
    (hn : declaredName? t n = some column) : same m n = true := by
  have hkey : ∀ {k}, declaredName? t k = some column → same column k = true := by
    intro k hk
    obtain ⟨c, hc, rfl⟩ := Option.map_eq_some_iff.1 hk
    have hfound : c.hasName k = true := by
      rw [Table.column?] at hc
      simpa using List.find?_some hc
    exact hfound
  exact same_trans (same_symm (hkey hm)) (hkey hn)

/-- A name that is not noted means a column that is there. -/
theorem eraseDups_filterMap_note (seen : List String) (name : String) (names : List String) :
    ((Expr.note seen name ++ names).filterMap (declaredName? t)).eraseDups =
      ((seen ++ name :: names).filterMap (declaredName? t)).eraseDups := by
  rcases Expr.note_cases seen name with ⟨⟨m, hm, hlower⟩, heq⟩ | ⟨-, heq⟩ <;> rw [heq]
  · have hthere : [name].filterMap (declaredName? t) ⊆ seen.filterMap (declaredName? t) := by
      intro column hcolumn
      obtain ⟨n, hn, hmeans⟩ := List.mem_filterMap.1 hcolumn
      rw [List.mem_singleton.1 hn, ← declaredName?_congr hlower] at hmeans
      exact List.mem_filterMap.2 ⟨m, hm, hmeans⟩
    rw [List.filterMap_append, ← List.singleton_append, ← List.append_assoc, List.filterMap_append,
      List.filterMap_append, eraseDups_append_of_subset hthere]
  · rw [List.append_assoc, List.singleton_append]

theorem eraseDups_filterMap_foldl_note (seen names : List String) :
    ((names.foldl Expr.note seen).filterMap (declaredName? t)).eraseDups =
      ((seen ++ names).filterMap (declaredName? t)).eraseDups := by
  induction names generalizing seen with
  | nil => rw [List.append_nil]; rfl
  | cons name names ih => rw [List.foldl_cons, ih, eraseDups_filterMap_note]

/-- **The columns of a check** are those mentioned, but for repetitions. -/
theorem eraseDups_checkedColumns (t : Table) (e : Expr) :
    (checkedColumns t e).eraseDups = mentionedColumns t e := by
  have hchecked : checkedColumns t e = e.mentioned.filterMap (declaredName? t) := rfl
  rw [hchecked, Expr.mentioned_eq, eraseDups_filterMap_foldl_note, List.nil_append,
    mentionedColumns]

/-- No column repeats if its names are spelled alike. -/
theorem nodup_checkedColumns_iff : (checkedColumns t e).Nodup ↔ SpellsAlike t e := by
  have hchecked : checkedColumns t e = e.mentioned.filterMap (declaredName? t) := rfl
  rw [hchecked]
  constructor
  · intro h m hm n hn hsame hsome
    obtain ⟨j, hj, hjm⟩ := Expr.exists_mem_mentioned hm
    obtain ⟨k, hk, hkn⟩ := Expr.exists_mem_mentioned hn
    obtain ⟨c, hc⟩ := Option.isSome_iff_exists.1 hsome
    have hkc : declaredName? t k = some c.name := by
      rw [declaredName?_congr hkn, declaredName?, hc]
      rfl
    have hjc : declaredName? t j = some c.name := by
      rw [declaredName?_congr hjm, declaredName?, Table.column?_congr hsame, hc]
      rfl
    rw [← hjm, ← hkn, eq_of_nodup_filterMap h hj hk hjc hkc]
  · intro h
    refine List.pairwise_filterMap.2 ((Expr.pairwise_mentioned e).imp_of_mem ?_)
    intro m n hm hn hne column hmc column' hnc heq
    rw [← heq] at hnc
    obtain ⟨c, hc, -⟩ := Option.map_eq_some_iff.1 hnc
    exact hne (h m (Expr.mem_names_of_mem_mentioned hm) n (Expr.mem_names_of_mem_mentioned hn)
      (same_of_declaredName? hmc hnc) (Option.isSome_iff_exists.2 ⟨c, hc⟩))

/-- **A check has each column once** if the names of no column differ in more than case. -/
theorem checkedColumns_eq_iff : checkedColumns t e = mentionedColumns t e ↔ SpellsAlike t e := by
  rw [← eraseDups_checkedColumns, eq_comm, eraseDups_eq_self_iff, nodup_checkedColumns_iff]

end Mentioned

/-! ## Checks that are declared -/

/-- The check that an option of a column declares, which is of that column. -/
def optionCheck? (column : String) : Option Name × ColumnOption → Option Constraint
  | (name, .check e) => some (.check (constraintName name) [column] e.render)
  | _ => none

def optionChecks (d : ColumnDefinition) : List Constraint :=
  d.options.filterMap (optionCheck? d.name.value)

/-- The check that a constraint of a table declares. -/
def tableCheck? (t : Table) : TableConstraint → Option Constraint
  | .check name e => some (.check (constraintName name) (checkedColumns t e) e.render)
  | _ => none

theorem filter_isCheck_optionConstraints (d : ColumnDefinition) :
    (optionConstraints d).filter Constraint.isCheck = optionChecks d := by
  rw [optionConstraints, List.filter_filterMap, optionChecks]
  refine List.filterMap_congr fun o _ => ?_
  obtain ⟨name, option⟩ := o
  cases option <;> rfl

theorem filter_isCheck_tableConstraint? (t : Table) (c : TableConstraint) :
    (tableConstraint? t c).filter Constraint.isCheck = tableCheck? t c := by
  cases c <;> rfl

theorem filter_isCheck_inlineKey? (name : String) (ds : List ColumnDefinition) :
    (inlineKey? name ds).toList.filter Constraint.isCheck = [] := by
  unfold inlineKey?
  split <;> rfl

/-- What is declared for a table depends on its columns alone. -/
theorem tableCheck?_congr {t u : Table} (h : t.columns = u.columns) :
    tableCheck? t = tableCheck? u := by
  have hcolumn : t.column? = u.column? := by
    funext name
    rw [Table.column?, h, Table.column?]
  funext c
  cases c with
  | check name e => rw [tableCheck?, tableCheck?, checkedColumns, checkedColumns, hcolumn]
  | _ => rfl

/-! ## Checks that are added -/

/-- **A check is never refused**, and what is refused is no check. -/
theorem checks_addConstraint (p : Progress) (c : Constraint) :
    (addConstraint p c).1.checks = p.1.checks ++ [c].filter Constraint.isCheck := by
  cases hc : p.1.addConstraint c with
  | ok t =>
    rw [addConstraint_of_ok hc, (Table.addConstraint_eq_ok_iff.1 hc).2]
    exact List.filter_append _ _
  | error r =>
    rw [addConstraint_of_error hc]
    cases c with
    | check name columns expression => cases hc
    | _ => exact (List.append_nil _).symm

theorem checks_foldl_addConstraint (cs : List Constraint) (p : Progress) :
    (cs.foldl addConstraint p).1.checks = p.1.checks ++ cs.filter Constraint.isCheck := by
  induction cs generalizing p with
  | nil => exact (List.append_nil _).symm
  | cons c cs ih =>
    rw [List.foldl_cons, ih, checks_addConstraint, List.append_assoc, ← List.filter_append]
    rfl

theorem columns_addTableConstraint (p : Progress) (c : TableConstraint) :
    (addTableConstraint p c).1.columns = p.1.columns := by
  unfold addTableConstraint
  split
  · exact columns_addConstraint p _
  · rfl

theorem checks_addTableConstraint (p : Progress) (c : TableConstraint) :
    (addTableConstraint p c).1.checks = p.1.checks ++ (tableCheck? p.1 c).toList := by
  rw [← filter_isCheck_tableConstraint?]
  unfold addTableConstraint
  cases tableConstraint? p.1 c with
  | none => exact (List.append_nil _).symm
  | some k =>
    refine (checks_addConstraint p k).trans ?_
    cases k <;> rfl

/-- **Table constraints** add their checks in order, all of them made with the columns
that the table has. -/
theorem checks_foldl_addTableConstraint (cs : List TableConstraint) (p : Progress) :
    (cs.foldl addTableConstraint p).1.columns = p.1.columns ∧
      (cs.foldl addTableConstraint p).1.checks =
        p.1.checks ++ cs.filterMap (tableCheck? p.1) := by
  induction cs generalizing p with
  | nil => exact ⟨rfl, (List.append_nil _).symm⟩
  | cons c cs ih =>
    have hcolumns := columns_addTableConstraint p c
    obtain ⟨hcols, hchecks⟩ := ih (addTableConstraint p c)
    refine ⟨hcols.trans hcolumns, ?_⟩
    rw [List.foldl_cons, hchecks, checks_addTableConstraint, tableCheck?_congr hcolumns,
      List.append_assoc, List.filterMap_cons]
    cases tableCheck? p.1 c <;> rfl

theorem checks_constrain (name : String) (ds : List ColumnDefinition) (cs : List TableConstraint)
    (p : Progress) : (constrain name ds cs p).1.checks =
      p.1.checks ++ ds.flatMap optionChecks ++ cs.filterMap (tableCheck? p.1) := by
  have hcolumns : (constrain name ds [] p).1.columns = p.1.columns := columns_constrain name ds [] p
  have hinline : (constrain name ds [] p).1.checks = p.1.checks ++ ds.flatMap optionChecks := by
    have hoptions : (ds.flatMap optionConstraints).filter Constraint.isCheck =
        ds.flatMap optionChecks := by
      rw [List.filter_flatMap]
      simp only [filter_isCheck_optionConstraints]
    rw [constrain, List.foldl_nil, checks_foldl_addConstraint, checks_foldl_addConstraint,
      filter_isCheck_inlineKey?, hoptions, List.append_nil]
  have hsplit : constrain name ds cs p = cs.foldl addTableConstraint (constrain name ds [] p) := rfl
  rw [hsplit, (checks_foldl_addTableConstraint cs _).2, hinline, tableCheck?_congr hcolumns]

/-- **The checks of a declaration** are those of its columns and those of the table. -/
theorem checks_tableOf (c : CreateTable) :
    (tableOf c).1.columns = (kept [] c.columns).map columnOf ∧
      (tableOf c).1.checks = c.columns.flatMap optionChecks ++
        c.constraints.filterMap (tableCheck? (tableOf c).1) := by
  have hcolumns : (tableOf c).1.columns = (unconstrained c).columns := by
    rw [tableOf_eq_constrain]
    exact columns_constrain _ _ _ _
  refine ⟨hcolumns, ?_⟩
  rw [tableCheck?_congr hcolumns, tableOf_eq_constrain]
  exact checks_constrain _ _ _ _

/-! ## Runs of statements -/

/-- A statement about a table that is there adds its table constraints. -/
theorem table?_take_of_some {a : Account} {t : Table} (h : a.table? = some t) (s : Statement) :
    (a.take s).table? = some ((addedBy s).foldl addTableConstraint (t, [])).1 := by
  cases s with
  | createTable c => simp [Account.take, Account.declare, Account.note, h, addedBy]
  | alterTable name operations => simp [Account.take, Account.note, h, addedBy, alterTable]
  | other => exact h

/-- Later statements add the checks of their constraints. -/
theorem checks_foldl_take (ss : List Statement) {a : Account} {t : Table}
    (h : a.table? = some t) : ∃ u, (ss.foldl Account.take a).table? = some u ∧
      u.columns = t.columns ∧
      u.checks = t.checks ++ (ss.flatMap addedBy).filterMap (tableCheck? t) := by
  induction ss generalizing a t with
  | nil => exact ⟨t, h, rfl, (List.append_nil _).symm⟩
  | cons s ss ih =>
    obtain ⟨hcolumns, hchecks⟩ := checks_foldl_addTableConstraint (addedBy s) (t, [])
    obtain ⟨u, hu, hucolumns, huchecks⟩ := ih (table?_take_of_some h s)
    refine ⟨u, hu, hucolumns.trans hcolumns, ?_⟩
    rw [huchecks, hchecks, tableCheck?_congr hcolumns, List.append_assoc, List.flatMap_cons,
      List.filterMap_append]

/-- A declaration of a table that is not there makes it, and later statements go on
from it. -/
theorem checks_of_declaration {a : Account} (ha : a.table? = none) (c : CreateTable)
    (after : List Statement) {u : Table}
    (hu : ((Statement.createTable c :: after).foldl Account.take a).table? = some u) :
    u.columns = (kept [] c.columns).map columnOf ∧
      u.checks = c.columns.flatMap optionChecks ++
        (c.constraints ++ after.flatMap addedBy).filterMap (tableCheck? u) := by
  have hfirst : (a.take (.createTable c)).table? = some (tableOf c).1 := by
    rw [take_createTable ha]
    rfl
  obtain ⟨hcolumns, hchecks⟩ := checks_tableOf c
  obtain ⟨v, hv, hvcolumns, hvchecks⟩ := checks_foldl_take after hfirst
  obtain rfl : u = v := Option.some.inj (hu.symm.trans hv)
  refine ⟨hvcolumns.trans hcolumns, ?_⟩
  rw [hvchecks, hchecks, tableCheck?_congr hvcolumns, List.append_assoc, List.filterMap_append]

theorem exists_first_declaration {ss : List Statement} (h : ¬∀ s ∈ ss, declared? s = none) :
    ∃ before c after, ss = before ++ Statement.createTable c :: after ∧
      ∀ s ∈ before, declared? s = none := by
  induction ss with
  | nil => exact absurd (List.forall_mem_nil _) h
  | cons s ss ih =>
    by_cases hs : declared? s = none
    · have hrest : ¬∀ s ∈ ss, declared? s = none := fun hall =>
        h (List.forall_mem_cons.2 ⟨hs, hall⟩)
      obtain ⟨before, c, after, rfl, hbefore⟩ := ih hrest
      exact ⟨s :: before, c, after, rfl, List.forall_mem_cons.2 ⟨hs, hbefore⟩⟩
    · cases s with
      | createTable c => exact ⟨[], c, ss, rfl, List.forall_mem_nil _⟩
      | _ => exact absurd rfl hs

/-- **The checks of a table** that statements lead to are those of its first declaration
and of the alterations after it, in order. A check that an option of a column declares
has that column. Every other check has the columns that its expression mentions, in the
order in which it does. It has each once just if the names that it has for a column
differ in their case at most. -/
theorem checks_feed (name : String) (es : List Entry) {t : Table}
    (ht : t ∈ ((empty name).feed es).finish.schema.tables) :
    (∃ before c after,
      (es.map Entry.statement).filter (isAbout (key t.name)) =
        before ++ Statement.createTable c :: after ∧
      (∀ s ∈ before, declared? s = none) ∧
      t.columns = (kept [] c.columns).map columnOf ∧
      t.checks = c.columns.flatMap optionChecks ++
        (c.constraints ++ after.flatMap addedBy).filterMap (tableCheck? t)) ∧
    ∀ e, (checkedColumns t e).eraseDups = mentionedColumns t e ∧
      (checkedColumns t e = mentionedColumns t e ↔ SpellsAlike t e) := by
  refine ⟨?_, fun e => ⟨eraseDups_checkedColumns t e, checkedColumns_eq_iff⟩⟩
  have hempty : (empty name).schema.WellFormed := Schema.WellFormed.empty name
  obtain ⟨u, hu, rfl⟩ := List.mem_map.1 ht
  have hkeyed : ((empty name).feed es).schema.keyed? (key u.name) = some u :=
    (wellFormed_feed hempty es).keyed?_eq_some_iff.2 ⟨hu, rfl⟩
  have haccount := congrArg Account.table? (account_feed hempty es (key u.name))
  have habsent : ((empty name).account (key u.name)).table? = none := rfl
  rw [show (((empty name).feed es).account (key u.name)).table? = some u from hkeyed] at haccount
  have hdeclared : ¬∀ s ∈ (es.map Entry.statement).filter (isAbout (key u.name)),
      declared? s = none := by
    intro hall
    rw [table?_foldl_take hall habsent] at haccount
    cases haccount
  obtain ⟨before, c, after, hss, hbefore⟩ := exists_first_declaration hdeclared
  rw [hss, List.foldl_append] at haccount
  obtain ⟨hcolumns, hchecks⟩ :=
    checks_of_declaration (table?_foldl_take hbefore habsent) c after haccount.symm
  refine ⟨before, c, after, hss, hbefore, hcolumns, ?_⟩
  rw [Table.checks_resolveTable, hchecks]
  exact congrArg _ (congrArg (List.filterMap · _) (tableCheck?_congr rfl))

/-- The condition that a column is positive. -/
def positive (column : String) : Expr :=
  .binary (.column ⟨column, none⟩) ">" (.literal (.number "0"))

/-- A condition about two columns, one of them mentioned twice. -/
def fitting : Expr :=
  .binary (.binary (.column ⟨"guests", none⟩) "<=" (.column ⟨"beds", none⟩)) "AND"
    (.binary (.qualified ⟨[⟨"rooms", none⟩, ⟨"guests", none⟩]⟩) ">=" (.literal (.number "0")))

/-- A table with a check of a column and one of its own. -/
def rooms : CreateTable where
  name := ⟨[⟨"rooms", none⟩]⟩
  columns := [
    { name := ⟨"beds", none⟩
      type := .plain "INT"
      options := [(none, .check (positive "beds"))] },
    { name := ⟨"guests", none⟩, type := .plain "INT" }]
  constraints := [.check none fitting]

theorem checks_feed_rooms :
    let es : List Entry := [⟨0, "", .createTable rooms⟩,
      ⟨1, "", .alterTable rooms.name [.addConstraint (.check none (positive "guests"))]⟩]
    let t : Table :=
      { name := "rooms"
        columns := [⟨"beds", "INT", true, none⟩, ⟨"guests", "INT", true, none⟩]
        constraints := [.check none ["beds"] "beds > 0",
          .check none ["guests", "beds"] "guests <= beds AND rooms.guests >= 0",
          .check none ["guests"] "guests > 0"] }
    (t ∈ ((empty "inn").feed es).finish.schema.tables ∧ SpellsAlike t fitting) ∧
    (∃ before c after,
      (es.map Entry.statement).filter (isAbout (key t.name)) =
        before ++ Statement.createTable c :: after ∧
      t.checks = c.columns.flatMap optionChecks ++
        (c.constraints ++ after.flatMap addedBy).filterMap (tableCheck? t)) ∧
    checkedColumns t fitting = mentionedColumns t fitting := by
  intro es t
  have ht : t ∈ ((empty "inn").feed es).finish.schema.tables := by decide +kernel
  have hnames : ∀ m ∈ fitting.names, ∀ n ∈ fitting.names, m = n ∨ same m n = false := by
    decide +kernel
  have hspelled : SpellsAlike t fitting := by
    intro m hm n hn hsame _
    rcases hnames m hm n hn with rfl | hne
    · rfl
    · rw [hne] at hsame
      cases hsame
  obtain ⟨⟨before, c, after, hss, -, -, hchecks⟩, hmentioned⟩ := checks_feed "inn" es ht
  exact ⟨⟨ht, hspelled⟩, ⟨before, c, after, hss, hchecks⟩, (hmentioned fitting).2.2 hspelled⟩

/-- The check of one column about another. -/
def misplaced : CreateTable where
  name := ⟨[⟨"t", none⟩]⟩
  columns := [{ name := ⟨"a", none⟩, type := .plain "INT" },
    { name := ⟨"b", none⟩, type := .plain "INT", options := [(none, .check (positive "a"))] }]
  constraints := []

/-- **A check of a column may be about another**: it is stored with the one column, and
mentions the other. -/
theorem exists_check_elsewhere :
    ∃ t ∈ ((empty "s").feed [⟨0, "", .createTable misplaced⟩]).finish.schema.tables,
      t.checks = [.check none ["b"] "a > 0"] ∧ mentionedColumns t (positive "a") = ["a"] := by
  refine ⟨⟨"t", [⟨"a", "INT", true, none⟩, ⟨"b", "INT", true, none⟩],
    [.check none ["b"] "a > 0"], []⟩, by decide +kernel, rfl, by decide +kernel⟩

/-- A condition that names a column once with a blank. -/
def blankNamed : CreateTable where
  name := ⟨[⟨"t", none⟩]⟩
  columns := [{ name := ⟨"a", none⟩, type := .plain "INT" }]
  constraints := [.check none (.binary (positive "a") "AND" (positive " a"))]

/-- **A check may have a column twice**, by names that differ in more than their case. -/
theorem exists_check_repeating :
    ∃ t ∈ ((empty "s").feed [⟨0, "", .createTable blankNamed⟩]).finish.schema.tables,
      t.checks.map Constraint.columns = [["a", "a"]] ∧
      mentionedColumns t (.binary (positive "a") "AND" (positive " a")) = ["a"] := by
  refine ⟨⟨"t", [⟨"a", "INT", true, none⟩], [.check none ["a", "a"] "a > 0 AND  a > 0"], []⟩,
    by decide +kernel, rfl, by decide +kernel⟩

end Draft

end NormalForms
