import NormalForms.Proofs.Schema.Lookup

/-!
# Drafts, table by table

Most statements are about one table: they declare it or alter it. What a draft
holds of a table is its account: the table as it stands, and the causes of the
notices that name it. A statement takes the account of the table it is about
further, by nothing but what the account says (`Account.take`), and leaves the
others as they are (`account_add`). So what statements make of a table is the run
of those about it (`account_feed`). Which tables there are, and in which order,
follows from the declarations alone (`keys_feed`).
-/

namespace NormalForms

open Identifier Sql

/-! ## What a notice names -/

def Rejection.table : Rejection → String
  | .duplicateTable table | .duplicateColumn table _ | .secondPrimaryKey table
  | .unpairedForeignKey table _ _ => table

/-- The table that a cause names. -/
def Notice.Cause.table? : Notice.Cause → Option String
  | .unreadable _ => none
  | .rejected r => some r.table
  | .unknownTable name => some name

theorem Table.table_of_addColumn {t : Table} {c : Column} {r : Rejection}
    (h : t.addColumn c = .error r) : r.table = t.name := by
  rw [(addColumn_eq_error_iff.1 h).2, Rejection.table]

theorem Table.table_of_objection? {t : Table} {c : Constraint} {r : Rejection}
    (h : t.objection? c = some r) : r.table = t.name := by
  cases c with
  | primaryKey name columns =>
    simp only [objection?] at h
    split at h
    · cases h; rfl
    · cases h
  | foreignKey fk =>
    simp only [objection?] at h
    split at h
    · cases h
    · cases h; rfl
  | unique name columns => cases h
  | check name columns expression => cases h

theorem Table.table_of_addConstraint {t : Table} {c : Constraint} {r : Rejection}
    (h : t.addConstraint c = .error r) : r.table = t.name :=
  table_of_objection? (addConstraint_eq_error_iff.1 h)

namespace Draft

/-! ## Tables under construction -/

/-- The table keeps its name, and every refusal names it. -/
structure Progress.Named (name : String) (p : Progress) : Prop where
  name_eq : Table.name p.1 = name
  refusals : ∀ r ∈ p.2, r.table = name

section Named

variable {name : String} {p : Progress}

theorem Progress.Named.refuse (h : p.Named name) {r : Rejection} (hr : r.table = p.1.name) :
    Progress.Named name (p.1, p.2 ++ [r]) :=
  ⟨h.name_eq, List.forall_mem_append.2
    ⟨h.refusals, List.forall_mem_singleton.2 (hr.trans h.name_eq)⟩⟩

theorem Progress.Named.addColumn (h : p.Named name) (c : Column) :
    (Draft.addColumn p c).Named name := by
  cases hc : p.1.addColumn c with
  | ok t =>
    rw [addColumn_of_ok hc]
    exact ⟨(Table.name_addColumn hc).trans h.name_eq, h.refusals⟩
  | error r =>
    rw [addColumn_of_error hc]
    exact h.refuse (Table.table_of_addColumn hc)

theorem Progress.Named.addConstraint (h : p.Named name) (c : Constraint) :
    (Draft.addConstraint p c).Named name := by
  cases hc : p.1.addConstraint c with
  | ok t =>
    rw [addConstraint_of_ok hc]
    exact ⟨(Table.name_addConstraint hc).trans h.name_eq, h.refusals⟩
  | error r =>
    rw [addConstraint_of_error hc]
    exact h.refuse (Table.table_of_addConstraint hc)

theorem Progress.Named.start (name : String) : Progress.Named name ({ name }, []) :=
  ⟨rfl, List.forall_mem_nil _⟩

theorem named_tableOf (c : CreateTable) : (tableOf c).Named (relationOf c.name) :=
  tableOf_induction (Progress.Named.start _) Progress.Named.addColumn Progress.Named.addConstraint

theorem named_alterTable (operations : List AlterOperation) (t : Table) :
    (alterTable operations t).Named t.name :=
  alterTable_induction ⟨rfl, List.forall_mem_nil _⟩ Progress.Named.addConstraint

theorem Progress.Named.table?_of_mem (h : p.Named name) :
    ∀ cause ∈ p.2.map Notice.Cause.rejected, cause.table? = some name := by
  intro cause hcause
  obtain ⟨r, hr, rfl⟩ := List.mem_map.1 hcause
  exact congrArg some (h.refusals r hr)

end Named

/-! ## Accounts -/

/-- A table as far as it is known, and what was to be said of it. -/
@[ext]
structure Account where
  table? : Option Table
  causes : List Notice.Cause

namespace Account

def note (a : Account) (causes : List Notice.Cause) : Account :=
  { a with causes := a.causes ++ causes }

/-- The first declaration counts. -/
def declare (a : Account) (t : Table) : Account :=
  match a.table? with
  | none => { a with table? := some t }
  | some _ => a.note [.rejected (.duplicateTable t.name)]

/-- The account after a statement about the table. -/
def take (a : Account) : Statement → Account
  | .createTable c => (a.note ((tableOf c).2.map .rejected)).declare (tableOf c).1
  | .alterTable name operations =>
    match a.table? with
    | none => a.note [.unknownTable (relationOf name)]
    | some t =>
      { a with table? := some (alterTable operations t).1 }.note
        ((alterTable operations t).2.map .rejected)
  | .other => a

end Account

/-- Does the cause name a table of this key? -/
def concerns (k : String) (cause : Notice.Cause) : Bool := cause.table?.map key == some k

def account (d : Draft) (k : String) : Account where
  table? := d.schema.keyed? k
  causes := (d.notices.map Notice.cause).filter (concerns k)

/-- The key of the table that a statement is about. -/
def subject? : Statement → Option String
  | .createTable c => some (key (relationOf c.name))
  | .alterTable name _ => some (key (relationOf name))
  | .other => none

variable {d : Draft} {index : Nat} {text : String}

theorem filter_concerns {causes : List Notice.Cause} {name : String}
    (h : ∀ c ∈ causes, c.table? = some name) (k : String) :
    causes.filter (concerns k) = if key name = k then causes else [] := by
  have hc : ∀ c ∈ causes, concerns k c = true ↔ key name = k := by
    intro c hm
    rw [concerns, h c hm, beq_iff_eq]
    exact Option.some_inj
  split
  · rename_i hk
    exact List.filter_eq_self.2 fun c hm => (hc c hm).2 hk
  · rename_i hk
    exact List.filter_eq_nil_iff.2 fun c hm => mt (hc c hm).1 hk

theorem account_note {causes : List Notice.Cause} {name : String}
    (h : ∀ c ∈ causes, c.table? = some name) (k : String) :
    (d.note index text causes).account k =
      if key name = k then (d.account k).note causes else d.account k := by
  have hcauses : ((d.note index text causes).account k).causes =
      (d.account k).causes ++ if key name = k then causes else [] := by
    rw [← filter_concerns h]
    simp only [account, note, List.map_append, List.map_map, List.filter_append]
    congr 2
    exact List.map_id causes
  ext1
  · split <;> rfl
  · rw [hcauses]
    split
    · rfl
    · exact List.append_nil _

theorem account_addTable (t : Table) (k : String) :
    (d.addTable index text t).account k =
      if key t.name = k then (d.account k).declare t else d.account k := by
  cases hs : d.schema.addTable t with
  | ok s =>
    have hnew := (Schema.addTable_eq_ok_iff.1 hs).1
    rw [addTable_of_ok hs, account, Schema.keyed?_addTable hs]
    split
    · rename_i hk
      rw [Schema.table?_eq_keyed?, hk] at hnew
      simp only [Account.declare, account, hnew]
    · rfl
  | error r =>
    obtain ⟨hmem, rfl⟩ := Schema.addTable_eq_error_iff.1 hs
    have hcause : ∀ c ∈ [Notice.Cause.rejected (.duplicateTable t.name)],
        c.table? = some t.name := List.forall_mem_singleton.2 rfl
    rw [addTable_of_error hs, account_note hcause]
    split
    · rename_i hk
      rw [hk, ← Schema.keyed?_isSome_iff] at hmem
      obtain ⟨u, hu⟩ := Option.isSome_iff_exists.1 hmem
      simp only [Account.declare, account, hu]
    · rfl

/-- **A statement goes into one account.** -/
theorem account_add (h : d.schema.WellFormed) (statement : Statement) (k : String) :
    (d.add index text statement).account k =
      if subject? statement = some k then (d.account k).take statement else d.account k := by
  cases statement with
  | other => rfl
  | createTable c =>
    have hnamed := named_tableOf c
    rw [add, account_addTable, account_note hnamed.table?_of_mem, hnamed.name_eq]
    simp only [subject?, Option.some_inj]
    split <;> rfl
  | alterTable name operations =>
    simp only [add, subject?, Option.some_inj]
    cases ht : d.schema.table? (relationOf name) with
    | none =>
      have hcause : ∀ c ∈ [Notice.Cause.unknownTable (relationOf name)],
          c.table? = some (relationOf name) := List.forall_mem_singleton.2 rfl
      dsimp only
      rw [account_note hcause]
      split
      · rename_i hk
        rw [Schema.table?_eq_keyed?, hk] at ht
        simp only [Account.take, account, ht]
      · rfl
    | some t =>
      -- the notices name the table as declared, which has the key of the name altered
      have hkey : key t.name = key (relationOf name) := same_iff.1 (h.table?_eq_some_iff.1 ht).2
      dsimp only
      rw [account_note (named_alterTable operations t).table?_of_mem, hkey, account,
        Schema.keyed?_mapTable (name_alterTable operations)]
      split
      · rename_i hk
        rw [Schema.table?_eq_keyed?, hk] at ht
        simp only [Account.take, account, ht]
        rfl
      · rfl

/-! ## Runs of statements -/

/-- A statement with its place in the script and its text there. -/
structure Entry where
  index : Nat
  text : String
  statement : Statement

/-- Adds statements one after the other. -/
def feed (d : Draft) (es : List Entry) : Draft :=
  es.foldl (fun d e => d.add e.index e.text e.statement) d

def isAbout (k : String) (statement : Statement) : Bool := subject? statement == some k

theorem wellFormed_feed (h : d.schema.WellFormed) (es : List Entry) :
    (d.feed es).schema.WellFormed :=
  es.foldlRecOn (motive := fun d : Draft => d.schema.WellFormed) _ h fun _ hd e _ =>
    wellFormed_add hd e.index e.text e.statement

theorem name_addTable (t : Table) : (d.addTable index text t).schema.name = d.schema.name := by
  cases hs : d.schema.addTable t with
  | ok s => rw [addTable_of_ok hs, (Schema.addTable_eq_ok_iff.1 hs).2]
  | error r =>
    rw [addTable_of_error hs]
    rfl

theorem name_add (statement : Statement) :
    (d.add index text statement).schema.name = d.schema.name := by
  cases statement with
  | other => rfl
  | createTable c => exact name_addTable _
  | alterTable name operations =>
    simp only [add]
    split
    · rfl
    · exact Schema.name_mapTable _ _ (name_alterTable operations)

theorem name_feed (d : Draft) (es : List Entry) : (d.feed es).schema.name = d.schema.name :=
  es.foldlRecOn (motive := fun d' : Draft => d'.schema.name = d.schema.name) _ rfl
    fun _ hd e _ => (name_add e.statement).trans hd

/-- **What statements make of a table** is the run of those about it. -/
theorem account_feed (h : d.schema.WellFormed) (es : List Entry) (k : String) :
    (d.feed es).account k =
      ((es.map Entry.statement).filter (isAbout k)).foldl Account.take (d.account k) := by
  induction es generalizing d with
  | nil => rfl
  | cons e es ih =>
    have hstep := ih (wellFormed_add h e.index e.text e.statement)
    rw [account_add h] at hstep
    rw [feed, List.foldl_cons, ← feed, hstep, List.map_cons, List.filter_cons]
    simp only [isAbout, beq_iff_eq]
    split <;> rfl

/-- The key of the table that a statement declares. -/
def declared? : Statement → Option String
  | .createTable c => some (key (relationOf c.name))
  | _ => none

/-- Adds a key that is new. -/
def enter (ks : List String) (k : String) : List String := if k ∈ ks then ks else ks ++ [k]

theorem keys_addTable (t : Table) :
    (d.addTable index text t).schema.keys = enter d.schema.keys (key t.name) := by
  cases hs : d.schema.addTable t with
  | ok s =>
    rw [addTable_of_ok hs, enter, if_neg (Schema.not_mem_keys_of_addTable hs)]
    exact Schema.keys_addTable hs
  | error r =>
    rw [addTable_of_error hs, enter, if_pos (Schema.addTable_eq_error_iff.1 hs).1]
    rfl

theorem keys_add (statement : Statement) :
    (d.add index text statement).schema.keys =
      (declared? statement).toList.foldl enter d.schema.keys := by
  cases statement with
  | other => rfl
  | createTable c =>
    rw [add, keys_addTable, (named_tableOf c).name_eq]
    rfl
  | alterTable name operations =>
    simp only [add]
    split
    · rfl
    · exact Schema.keys_mapTable (name_alterTable operations) _

/-- **The tables of a draft** are those declared, each where it is first. -/
theorem keys_feed (d : Draft) (es : List Entry) :
    (d.feed es).schema.keys =
      ((es.map Entry.statement).filterMap declared?).foldl enter d.schema.keys := by
  induction es generalizing d with
  | nil => rfl
  | cons e es ih =>
    rw [feed, List.foldl_cons, ← feed, ih, keys_add, ← List.foldl_append, List.map_cons,
      List.filterMap_cons]
    cases declared? e.statement <;> rfl

end Draft

end NormalForms
