import Mathlib.Data.List.Basic
import NormalForms.Proofs.Draft.Account

/-!
# Constraints that are added later

A table constraint may stand in the declaration of its table or be added by an
`ALTER TABLE` after it. A declaration takes its constraints one after the other,
and alterations go on from the table as it stands (`foldl_take_ofProgress`). So
the account of every table is the same at the end (`IsDeferred.foldl_take_eq`),
and with it the schema and what is said of the table.
-/

namespace NormalForms.Draft

open Identifier Sql

/-! ## One constraint after the other -/

/-- A table in the making, of which something was refused earlier. -/
def Progress.after (earlier : List Rejection) (p : Progress) : Progress := (p.1, earlier ++ p.2)

theorem Progress.after_start (p : Progress) : Progress.after p.2 (p.1, []) = p := by
  simp [after]

section After

variable {earlier : List Rejection}

/-- What was refused earlier plays no part in what follows. -/
theorem addConstraint_after (p : Progress) (c : Constraint) :
    addConstraint (p.after earlier) c = (addConstraint p c).after earlier := by
  simp [addConstraint, Progress.record, Progress.after, List.append_assoc]

theorem addTableConstraint_after (p : Progress) (c : TableConstraint) :
    addTableConstraint (p.after earlier) c = (addTableConstraint p c).after earlier := by
  unfold addTableConstraint
  have htable : (p.after earlier).1 = p.1 := rfl
  rw [htable]
  cases tableConstraint? p.1 c with
  | none => rfl
  | some d => exact addConstraint_after p d

theorem foldl_after {α : Type} {f : Progress → α → Progress}
    (hf : ∀ p a, f (p.after earlier) a = (f p a).after earlier) (l : List α) (p : Progress) :
    l.foldl f (p.after earlier) = (l.foldl f p).after earlier := by
  induction l generalizing p with
  | nil => rfl
  | cons a l ih => rw [List.foldl_cons, hf, ih, List.foldl_cons]

end After

/-- A declaration with more constraints takes these last. -/
theorem tableOf_append {c : CreateTable} {as bs : List TableConstraint}
    (h : c.constraints = as ++ bs) :
    tableOf c = bs.foldl addTableConstraint (tableOf { c with constraints := as }) := by
  unfold tableOf
  rw [h, List.foldl_append]

/-! ## The account of a table in the making -/

/-- The account of a table in the making, after some notices. -/
def Account.ofProgress (earlier : List Notice.Cause) (p : Progress) : Account where
  table? := some p.1
  causes := earlier ++ p.2.map .rejected

/-- The constraints that a statement adds to the table it alters. -/
def addedBy : Statement → List TableConstraint
  | .alterTable _ operations => addedConstraints operations
  | _ => []

theorem take_createTable {a : Account} (h : a.table? = none) (c : CreateTable) :
    a.take (.createTable c) = .ofProgress a.causes (tableOf c) := by
  simp [Account.take, Account.note, Account.declare, Account.ofProgress, h]

theorem take_ofProgress {statement : Statement} (h : declared? statement = none)
    (earlier : List Notice.Cause) (p : Progress) :
    (Account.ofProgress earlier p).take statement =
      .ofProgress earlier ((addedBy statement).foldl addTableConstraint p) := by
  cases statement with
  | createTable c => cases h
  | other => rfl
  | alterTable name operations =>
    have hfold : (addedConstraints operations).foldl addTableConstraint p =
        (alterTable operations p.1).after p.2 := by
      rw [alterTable, ← foldl_after addTableConstraint_after, Progress.after_start]
    rw [addedBy, hfold]
    simp [Account.take, Account.note, Account.ofProgress, Progress.after]

/-- **Alterations go on** where the declaration has stopped. -/
theorem foldl_take_ofProgress {ss : List Statement} (h : ∀ s ∈ ss, declared? s = none)
    (earlier : List Notice.Cause) (p : Progress) :
    ss.foldl Account.take (.ofProgress earlier p) =
      .ofProgress earlier ((ss.flatMap addedBy).foldl addTableConstraint p) := by
  induction ss generalizing p with
  | nil => rfl
  | cons s ss ih =>
    obtain ⟨hs, hss⟩ := List.forall_mem_cons.1 h
    rw [List.foldl_cons, take_ofProgress hs, ih hss, List.flatMap_cons, List.foldl_append]

/-- Without a declaration there is no table. -/
theorem table?_foldl_take {ss : List Statement} (h : ∀ s ∈ ss, declared? s = none) {a : Account}
    (ha : a.table? = none) : (ss.foldl Account.take a).table? = none := by
  induction ss generalizing a with
  | nil => exact ha
  | cons s ss ih =>
    obtain ⟨hs, hss⟩ := List.forall_mem_cons.1 h
    refine ih hss ?_
    cases s with
    | createTable c => cases hs
    | other => exact ha
    | alterTable name operations => simp [Account.take, Account.note, ha]

/-- A statement about a table that it does not declare declares none. -/
theorem declared?_eq_none {s : Statement} {k : String} (hk : declared? s ≠ some k)
    (h : isAbout k s = true) : declared? s = none := by
  cases s with
  | createTable c => exact absurd (eq_of_beq h) hk
  | alterTable name operations => rfl
  | other => rfl

/-! ## Adding constraints later -/

/-- A declaration with the constraints `as` alone, among other statements. -/
def apart (c : CreateTable) (as : List TableConstraint) (before after : List Statement) :
    List Statement :=
  before ++ Statement.createTable { c with constraints := as } :: after

/-- The whole declaration among the statements about other tables. -/
def together (c : CreateTable) (before after : List Statement) : List Statement :=
  before ++ Statement.createTable c ::
    after.filter fun s => !isAbout (key (relationOf c.name)) s

/-- After the declaration, which is the only one of its table, statements about
the table add the constraints `bs` to it. -/
structure IsDeferred (c : CreateTable) (as bs : List TableConstraint)
    (before after : List Statement) : Prop where
  constraints_eq : c.constraints = as ++ bs
  not_before : ∀ s ∈ before, declared? s ≠ some (key (relationOf c.name))
  not_after : ∀ s ∈ after, declared? s ≠ some (key (relationOf c.name))
  added_eq : (after.filter (isAbout (key (relationOf c.name)))).flatMap addedBy = bs

section Deferred

variable {c : CreateTable} {as bs : List TableConstraint} {before after : List Statement}

theorem isAbout_createTable {k : String} {c : CreateTable} :
    isAbout k (.createTable c) = true ↔ key (relationOf c.name) = k := by
  rw [isAbout, beq_iff_eq]
  exact Option.some_inj

theorem filter_apart (k : String) : (apart c as before after).filter (isAbout k) =
    before.filter (isAbout k) ++
      (if key (relationOf c.name) = k then [Statement.createTable { c with constraints := as }]
        else []) ++ after.filter (isAbout k) := by
  rw [apart, List.filter_append, List.filter_cons, List.append_assoc]
  simp only [isAbout_createTable]
  split <;> rfl

theorem filter_together (k : String) : (together c before after).filter (isAbout k) =
    before.filter (isAbout k) ++
      if key (relationOf c.name) = k then [Statement.createTable c]
        else after.filter (isAbout k) := by
  rw [together, List.filter_append, List.filter_cons, List.filter_filter]
  simp only [isAbout_createTable]
  split
  · rename_i hk
    subst hk
    simp
  · rename_i hk
    refine congrArg _ (List.filter_congr fun s _ => ?_)
    cases hs : isAbout k s with
    | false => rfl
    | true =>
      have hother : isAbout (key (relationOf c.name)) s = false := by
        rw [isAbout, eq_of_beq hs]
        exact beq_eq_false_iff_ne.2 fun he => hk (Option.some.inj he).symm
      rw [hother]
      rfl

/-- What statements make of any table is the same. -/
theorem IsDeferred.foldl_take_eq (h : IsDeferred c as bs before after) (k : String) {a : Account}
    (ha : a.table? = none) :
    ((apart c as before after).filter (isAbout k)).foldl Account.take a =
      ((together c before after).filter (isAbout k)).foldl Account.take a := by
  have hnone : ∀ {ss : List Statement}, (∀ s ∈ ss, declared? s ≠ some (key (relationOf c.name))) →
      ∀ s ∈ ss.filter (isAbout (key (relationOf c.name))), declared? s = none := by
    intro ss hss s hs
    obtain ⟨hs, habout⟩ := List.mem_filter.1 hs
    exact declared?_eq_none (hss s hs) habout
  rw [filter_apart, filter_together]
  split
  · rename_i hk
    subst hk
    -- the declaration finds no table, whatever alterations have been tried before it
    have habsent := table?_foldl_take (hnone h.not_before) ha
    simp only [List.foldl_append, List.foldl_cons, List.foldl_nil]
    rw [take_createTable habsent, take_createTable habsent, foldl_take_ofProgress (hnone h.not_after),
      h.added_eq, ← tableOf_append h.constraints_eq]
  · rw [List.append_nil]

/-- The same tables are declared, in the same order. -/
theorem IsDeferred.filterMap_declared?_eq (h : IsDeferred c as bs before after) :
    (apart c as before after).filterMap declared? =
      (together c before after).filterMap declared? := by
  have hafter : (after.filter fun s => !isAbout (key (relationOf c.name)) s).filterMap declared? =
      after.filterMap declared? := by
    rw [List.filterMap_filter]
    refine List.filterMap_congr fun s hs => ?_
    cases habout : isAbout (key (relationOf c.name)) s with
    | false => rfl
    | true => exact (declared?_eq_none (h.not_after s hs) habout).symm
  rw [apart, together, List.filterMap_append, List.filterMap_append, List.filterMap_cons,
    List.filterMap_cons, hafter]
  rfl

end Deferred

/-- What a draft says of the table of a key. -/
def messagesAbout (d : Draft) (k : String) : List String :=
  (d.notices.filter fun n => concerns k n.cause).map Notice.message

theorem messagesAbout_eq (d : Draft) (k : String) :
    messagesAbout d k = (d.account k).causes.map Notice.Cause.message := by
  rw [messagesAbout, account, List.filter_map, List.map_map]
  rfl

theorem messagesAbout_finish (d : Draft) (k : String) :
    messagesAbout d.finish k = messagesAbout d k := rfl

/-- **Constraints may be added later.** Let a table be declared with the constraints
`as` alone, and `bs` be added by alterations later on, with any statements about
other tables between them. The schema is the one that the whole declaration
builds, and the same is said of this table, and of every other. -/
theorem feed_apart_eq (name : String) {c : CreateTable} {as bs : List TableConstraint}
    {before after : List Statement} (h : IsDeferred c as bs before after) {es es' : List Entry}
    (hes : es.map Entry.statement = apart c as before after)
    (hes' : es'.map Entry.statement = together c before after) :
    ((empty name).feed es).finish.schema = ((empty name).feed es').finish.schema ∧
      ∀ k, messagesAbout ((empty name).feed es).finish k =
        messagesAbout ((empty name).feed es').finish k := by
  have hempty : (empty name).schema.WellFormed := Schema.WellFormed.empty name
  have haccount : ∀ k, ((empty name).feed es).account k = ((empty name).feed es').account k := by
    intro k
    rw [account_feed hempty, account_feed hempty, hes, hes']
    exact h.foldl_take_eq k rfl
  have hkeys : ((empty name).feed es).schema.keys = ((empty name).feed es').schema.keys := by
    rw [keys_feed, keys_feed, hes, hes', h.filterMap_declared?_eq]
  have hname : ((empty name).feed es).schema.name = ((empty name).feed es').schema.name :=
    (name_feed _ es).trans (name_feed _ es').symm
  have hschema : ((empty name).feed es).schema = ((empty name).feed es').schema :=
    (wellFormed_feed hempty es).eq_of_keyed? (wellFormed_feed hempty es') hname hkeys
      fun k => congrArg Account.table? (haccount k)
  refine ⟨congrArg Schema.resolve hschema, fun k => ?_⟩
  rw [messagesAbout_finish, messagesAbout_finish, messagesAbout_eq, messagesAbout_eq, haccount]

/-- A key of one column. -/
def keyOn (column : String) : TableConstraint :=
  .primaryKey none [{ expr := .column ⟨column, none⟩ }]

/-- A table that declares two primary keys. -/
def payments : CreateTable where
  name := ⟨[⟨"payments", none⟩]⟩
  columns := [{ name := ⟨"id", none⟩, type := .plain "INT" }]
  constraints := [keyOn "id", keyOn "payer"]

def payers : Statement :=
  .createTable { name := ⟨[⟨"payers", none⟩]⟩, columns := [], constraints := [] }

def alterPayments (added : TableConstraint) : Statement :=
  .alterTable ⟨[⟨"payments", none⟩]⟩ [.addConstraint added]

/-- A second key is refused in the same words, wherever it stands. -/
theorem feed_apart_eq_payments :
    let after := [alterPayments (keyOn "id"), payers, alterPayments (keyOn "payer")]
    let es : List Entry := [⟨0, "", .createTable { payments with constraints := [] }⟩,
      ⟨1, "", alterPayments (keyOn "id")⟩, ⟨2, "", payers⟩, ⟨3, "", alterPayments (keyOn "payer")⟩]
    let es' : List Entry := [⟨0, "", .createTable payments⟩, ⟨1, "", payers⟩]
    (IsDeferred payments [] [keyOn "id", keyOn "payer"] [] after ∧
      es.map Entry.statement = apart payments [] [] after ∧
      es'.map Entry.statement = together payments [] after) ∧
    (((empty "shop").feed es).finish.schema = ((empty "shop").feed es').finish.schema ∧
      ∀ k, messagesAbout ((empty "shop").feed es).finish k =
        messagesAbout ((empty "shop").feed es').finish k) ∧
    messagesAbout ((empty "shop").feed es).finish "payments" =
      ["table 'payments' already has a primary key"] := by
  intro after es es'
  have hkey : key (relationOf payments.name) = "payments" := by decide +kernel
  have halter : ∀ added, isAbout "payments" (alterPayments added) = true := by
    intro added
    rw [isAbout, alterPayments, subject?]
    decide +kernel
  have hpayers : isAbout "payments" payers = false := by decide +kernel
  have h : IsDeferred payments [] [keyOn "id", keyOn "payer"] [] after := by
    refine ⟨rfl, List.forall_mem_nil _, ?_, ?_⟩
    · rw [hkey]
      have hother : declared? payers ≠ some "payments" := by decide +kernel
      simp only [after, List.forall_mem_cons]
      exact ⟨Option.some_ne_none _ ∘ Eq.symm, hother, Option.some_ne_none _ ∘ Eq.symm,
        List.forall_mem_nil _⟩
    · rw [hkey]
      simp only [after, List.filter_cons, halter, hpayers]
      rfl
  have hes' : es'.map Entry.statement = together payments [] after := by
    simp only [together, hkey, after, List.filter_cons, halter, hpayers]
    rfl
  exact ⟨⟨h, rfl, hes'⟩, feed_apart_eq "shop" h rfl hes', by decide +kernel⟩

end NormalForms.Draft
