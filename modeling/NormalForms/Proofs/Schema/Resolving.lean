import Mathlib.Data.List.Forall2
import NormalForms.Proofs.Schema.Lookup

/-!
# Resolving early and late

Resolving gives a foreign key the columns that it means, as far as its table is there
(`Means`), and finds anew the relationships of every table (`Resolves`). Nothing else
changes. What has been filled in so is taken as declared from then on. That makes no
difference: a table that is found once is found again, with the same key, in every
schema that the one at hand is extended to (`Extends`), so that a later pass fills in
the same (`Extends.resolveTable_resolveTable`). The passes between additions of tables
can therefore be left out, if one comes last.
-/

namespace NormalForms

open Identifier

namespace Schema

variable {s s' : Schema} {fk : ForeignKey}

/-! ## What resolving does -/

/-- The foreign key leads to a table of the schema, with columns of its own or with as
many as the key of that table has. -/
def Leads (s : Schema) (fk : ForeignKey) : Prop :=
  ∃ u ∈ s.tables, same u.name fk.target = true ∧
    (fk.targetColumns ≠ [] ∨ u.keyNames.length = fk.columns.length)

instance (s : Schema) : DecidablePred s.Leads := fun fk =>
  inferInstanceAs (Decidable (∃ u ∈ s.tables, same u.name fk.target = true ∧
    (fk.targetColumns ≠ [] ∨ u.keyNames.length = fk.columns.length)))

/-- The columns that the foreign key means: those that it declares, or else the key of
the table it leads to, or else none. -/
inductive Means (s : Schema) (fk : ForeignKey) : List String → Prop
  | declared (given : fk.targetColumns ≠ []) : Means s fk fk.targetColumns
  | filled {u : Table} (omitted : fk.targetColumns = []) (mem : u ∈ s.tables)
      (named : same u.name fk.target = true) (paired : u.keyNames.length = fk.columns.length) :
      Means s fk u.keyNames
  | leftOpen (omitted : fk.targetColumns = []) (astray : ¬ s.Leads fk) : Means s fk []

/-- A foreign key is completed by the columns that it means, and any other constraint
stays as it is. -/
inductive Completes (s : Schema) : Constraint → Constraint → Prop
  | kept {c : Constraint} (other : c.foreignKey? = none) : Completes s c c
  | completed {fk : ForeignKey} {columns : List String} (means : s.Means fk columns) :
      Completes s (.foreignKey fk) (.foreignKey { fk with targetColumns := columns })

/-- The relationship stands for the foreign key of the table `source`. -/
structure Represents (s : Schema) (source : String) (fk : ForeignKey) (r : Relationship) :
    Prop where
  source_eq : r.source = source
  sourceColumns_eq : r.sourceColumns = fk.columns
  target : ∃ u ∈ s.tables, same u.name fk.target = true ∧ r.target = u.name
  targetColumns : s.Means fk r.targetColumns

/-- `t'` is the table `t` resolved: its foreign keys are completed, and each of them
that leads to a table has a relationship, in order. -/
structure Resolves (s : Schema) (t t' : Table) : Prop where
  name_eq : t'.name = t.name
  columns_eq : t'.columns = t.columns
  constraints : List.Forall₂ s.Completes t.constraints t'.constraints
  relationships : List.Forall₂ (s.Represents t.name)
    (t.foreignKeys.filter fun fk => s.Leads fk) t'.relationships

theorem forall₂_filterMap {α β : Type} {R : α → β → Prop} {p : α → Bool} {f : α → Option β}
    (hsome : ∀ a, p a = true → ∃ b, f a = some b ∧ R a b) (hnone : ∀ a, p a = false → f a = none)
    (l : List α) : List.Forall₂ R (l.filter p) (l.filterMap f) := by
  induction l with
  | nil => exact .nil
  | cons a l ih =>
    cases ha : p a with
    | true =>
      obtain ⟨b, hb, hR⟩ := hsome a ha
      rw [List.filter_cons_of_pos ha, List.filterMap_cons_some hb]
      exact .cons hR ih
    | false =>
      rw [List.filter_cons_of_neg (by simp [ha]), List.filterMap_cons_none (hnone a ha)]
      exact ih

section Apart

variable (hapart : NamedApart Table.name s.tables)
include hapart

/-- **Where a foreign key leads**, and what it means there. -/
theorem destination?_eq_some_iff {u : Table} {columns : List String} :
    s.destination? fk = some (u, columns) ↔
      u ∈ s.tables ∧ same u.name fk.target = true ∧
        (fk.targetColumns ≠ [] ∧ columns = fk.targetColumns ∨
          fk.targetColumns = [] ∧ u.keyNames.length = fk.columns.length ∧
            columns = u.keyNames) := by
  have hfind : s.table? fk.target = some u ↔ u ∈ s.tables ∧ same u.name fk.target = true := by
    rw [table?_eq_find?]
    exact hapart.find?_eq_some_iff
  rw [← and_assoc, ← hfind]
  unfold destination?
  cases s.table? fk.target with
  | none => simp
  | some v =>
    by_cases hopen : fk.targetColumns = []
    · by_cases hlen : v.keyNames.length = fk.columns.length
      · simp only [hopen, hlen]
        grind
      · simp only [hopen]
        grind
    · simp only [List.isEmpty_iff, hopen]
      grind

theorem isSome_destination?_iff : (s.destination? fk).isSome = true ↔ s.Leads fk := by
  constructor
  · intro h
    obtain ⟨⟨u, columns⟩, hd⟩ := Option.isSome_iff_exists.1 h
    obtain ⟨hu, hname, ⟨hgiven, -⟩ | ⟨-, hlen, -⟩⟩ := (destination?_eq_some_iff hapart).1 hd
    · exact ⟨u, hu, hname, .inl hgiven⟩
    · exact ⟨u, hu, hname, .inr hlen⟩
  · rintro ⟨u, hu, hname, hways⟩
    refine Option.isSome_iff_exists.2 ?_
    by_cases hopen : fk.targetColumns = []
    · have hlen := hways.resolve_left (not_not_intro hopen)
      exact ⟨_, (destination?_eq_some_iff hapart).2 ⟨hu, hname, .inr ⟨hopen, hlen, rfl⟩⟩⟩
    · exact ⟨_, (destination?_eq_some_iff hapart).2 ⟨hu, hname, .inl ⟨hopen, rfl⟩⟩⟩

theorem means_of_destination? {u : Table} {columns : List String}
    (hd : s.destination? fk = some (u, columns)) : s.Means fk columns := by
  obtain ⟨hu, hname, ⟨hgiven, rfl⟩ | ⟨hopen, hlen, rfl⟩⟩ := (destination?_eq_some_iff hapart).1 hd
  · exact .declared hgiven
  · exact .filled hopen hu hname hlen

theorem means_completeKey (fk : ForeignKey) : s.Means fk (s.completeKey fk).targetColumns := by
  unfold completeKey
  cases hd : s.destination? fk with
  | some d => exact means_of_destination? hapart hd
  | none =>
    by_cases hopen : fk.targetColumns = []
    · have hastray : ¬ s.Leads fk := by
        rw [← isSome_destination?_iff hapart, hd]
        exact Bool.false_ne_true
      dsimp only
      rw [hopen]
      exact .leftOpen hopen hastray
    · exact .declared hopen

theorem completes_complete (c : Constraint) : s.Completes c (s.complete c) := by
  cases c with
  | foreignKey fk =>
    have hfields : s.completeKey fk =
        { fk with targetColumns := (s.completeKey fk).targetColumns } := by
      unfold completeKey
      split <;> rfl
    rw [complete, hfields]
    exact .completed (means_completeKey hapart fk)
  | _ => exact .kept rfl

theorem represents_relationship? {source : String} (h : s.Leads fk) :
    ∃ r, s.relationship? source fk = some r ∧ s.Represents source fk r := by
  obtain ⟨⟨u, columns⟩, hd⟩ :=
    Option.isSome_iff_exists.1 ((isSome_destination?_iff hapart).2 h)
  obtain ⟨hu, hname, -⟩ := (destination?_eq_some_iff hapart).1 hd
  refine ⟨⟨source, u.name, fk.columns, columns⟩, by rw [relationship?, hd]; rfl, rfl, rfl, ?_, ?_⟩
  · exact ⟨u, hu, hname, rfl⟩
  · exact means_of_destination? hapart hd

theorem relationship?_eq_none {source : String} (h : ¬ s.Leads fk) :
    s.relationship? source fk = none := by
  rw [← isSome_destination?_iff hapart, Bool.not_eq_true, Option.isSome_eq_false_iff,
    Option.isNone_iff_eq_none] at h
  rw [relationship?, h]
  rfl

/-- **Resolving a table** completes its foreign keys and finds its relationships. -/
theorem resolves_resolveTable (t : Table) : s.Resolves t (s.resolveTable t) where
  name_eq := rfl
  columns_eq := rfl
  constraints := by
    rw [resolveTable, List.forall₂_map_right_iff]
    exact List.forall₂_same.2 fun c _ => completes_complete hapart c
  relationships := forall₂_filterMap
    (fun _ hleads => represents_relationship? hapart (of_decide_eq_true hleads))
    (fun _ hastray => relationship?_eq_none hapart (of_decide_eq_false hastray)) t.foreignKeys

end Apart

/-! ## Resolving again -/

/-- What is found in `s` is found in `s'`, under the same name and with the same key. -/
def Extends (s s' : Schema) : Prop :=
  ∀ name target, s.target? name = some target → s'.target? name = some target

theorem Extends.refl (s : Schema) : s.Extends s := fun _ _ h => h

theorem Extends.trans {s'' : Schema} (h : s.Extends s') (h' : s'.Extends s'') : s.Extends s'' :=
  fun name target ht => h' name target (h name target ht)

theorem target?_eq_some_iff {name : String} {target : String × List String} :
    s.target? name = some target ↔ ∃ u, s.table? name = some u ∧ (u.name, u.keyNames) = target :=
  Option.map_eq_some_iff

/-- A foreign key stays as it is, or takes the key of the table it leads to. -/
theorem completeKey_cases (s : Schema) (fk : ForeignKey) :
    s.completeKey fk = fk ∨
      ∃ u, s.table? fk.target = some u ∧ fk.targetColumns = [] ∧
        u.keyNames.length = fk.columns.length ∧
        s.completeKey fk = { fk with targetColumns := u.keyNames } := by
  unfold completeKey destination?
  cases s.table? fk.target with
  | none => exact .inl rfl
  | some u =>
    by_cases hopen : fk.targetColumns = []
    · by_cases hlen : u.keyNames.length = fk.columns.length
      · exact .inr ⟨u, rfl, hopen, hlen, by simp [hopen, hlen]⟩
      · exact .inl (by simp [hopen, hlen])
    · exact .inl (by simp [hopen])

theorem columns_completeKey (s : Schema) (fk : ForeignKey) :
    (s.completeKey fk).columns = fk.columns := by
  rcases s.completeKey_cases fk with h | ⟨u, -, -, -, h⟩ <;> rw [h]

/-- **A foreign key that has been completed** leads where it would lead, and is completed
as it would be. -/
theorem Extends.destination?_completeKey (h : s.Extends s') (fk : ForeignKey) :
    s'.destination? (s.completeKey fk) = s'.destination? fk ∧
      s'.completeKey (s.completeKey fk) = s'.completeKey fk := by
  rcases s.completeKey_cases fk with hkept | ⟨u, hu, hopen, hlen, hfilled⟩
  · rw [hkept]
    exact ⟨rfl, rfl⟩
  · obtain ⟨v, hv, hsame⟩ := target?_eq_some_iff.1
      (h fk.target _ (target?_eq_some_iff.2 ⟨u, hu, rfl⟩))
    obtain ⟨-, hkeys⟩ := Prod.mk.inj hsame
    have hd : s'.destination? fk = some (v, u.keyNames) := by
      simp [destination?, hv, hopen, hkeys, hlen]
    have hd' : s'.destination? { fk with targetColumns := u.keyNames } =
        some (v, u.keyNames) := by
      simp [destination?, hv, hkeys, hlen]
    rw [hfilled, hd, hd']
    exact ⟨rfl, by simp only [completeKey, hd, hd']⟩

/-- **A later pass absorbs an earlier one**, of a table at a time. -/
theorem Extends.resolveTable_resolveTable (h : s.Extends s') (t : Table) :
    s'.resolveTable (s.resolveTable t) = s'.resolveTable t := by
  have hconstraints : (s.resolveTable t).constraints.map s'.complete =
      t.constraints.map s'.complete := by
    rw [resolveTable, List.map_map]
    refine List.map_congr_left fun c _ => ?_
    cases c with
    | foreignKey fk => exact congrArg Constraint.foreignKey (h.destination?_completeKey fk).2
    | _ => rfl
  have hrelationships : (s.resolveTable t).foreignKeys.filterMap (s'.relationship? t.name) =
      t.foreignKeys.filterMap (s'.relationship? t.name) := by
    rw [foreignKeys_resolveTable, List.filterMap_map]
    refine List.filterMap_congr fun fk _ => ?_
    rw [Function.comp_apply, relationship?, relationship?, (h.destination?_completeKey fk).1,
      columns_completeKey]
  calc s'.resolveTable (s.resolveTable t)
      = ⟨t.name, t.columns, (s.resolveTable t).constraints.map s'.complete,
          (s.resolveTable t).foreignKeys.filterMap (s'.relationship? t.name)⟩ := rfl
    _ = s'.resolveTable t := by rw [hconstraints, hrelationships]; rfl

theorem target?_resolve (s : Schema) (name : String) : s.resolve.target? name = s.target? name := by
  have hread : (fun t : Table => (t.name, t.keyNames)) ∘ s.resolveTable =
      fun t => (t.name, t.keyNames) := by
    funext t
    rw [Function.comp_apply, Table.keyNames, primaryKey?_resolveTable, name_resolveTable]
    rfl
  rw [target?_eq_find?, target?_eq_find?, resolve, List.map_map, hread]

/-- **Resolving twice** is resolving once. -/
theorem resolve_resolve (s : Schema) : s.resolve.resolve = s.resolve := by
  have htable : s.resolve.resolveTable = s.resolveTable := resolveTable_congr (target?_resolve s)
  refine Schema.ext rfl ?_
  show (s.tables.map s.resolveTable).map s.resolve.resolveTable = s.tables.map s.resolveTable
  rw [htable, List.map_map]
  exact List.map_congr_left fun t _ => (Extends.refl s).resolveTable_resolveTable t

/-! ## Runs -/

/-- What may be done to a schema that grows. -/
inductive Change where
  | addTable (t : Table)
  | resolve

def Change.isAddition : Change → Bool
  | addTable _ => true
  | resolve => false

/-- The schema that a change leaves, whether or not a table is refused. -/
def change (s : Schema) : Change → Schema
  | .addTable t => (s.offerTable t).1
  | .resolve => s.resolve

def changeAll (s : Schema) (cs : List Change) : Schema := cs.foldl change s

/-- Two schemas of one name whose tables are resolved alike, whatever they are extended
to. -/
structure Alike (s p : Schema) : Prop where
  name_eq : s.name = p.name
  target?_eq : ∀ name, s.target? name = p.target? name
  tables : ∀ {s' : Schema}, s.Extends s' →
    s.tables.map s'.resolveTable = p.tables.map s'.resolveTable

section Alike

variable {p : Schema}

theorem Alike.refl (s : Schema) : s.Alike s := ⟨rfl, fun _ => rfl, fun _ => rfl⟩

theorem Alike.resolve_eq (h : s.Alike p) : s.resolve = p.resolve := by
  refine Schema.ext h.name_eq ?_
  show s.tables.map s.resolveTable = p.tables.map p.resolveTable
  rw [h.tables (Extends.refl s), resolveTable_congr h.target?_eq]

/-- A pass goes unnoticed. -/
theorem Alike.resolve (h : s.Alike p) : s.resolve.Alike p where
  name_eq := h.name_eq
  target?_eq := fun name => (target?_resolve s name).trans (h.target?_eq name)
  tables := by
    intro s' hext
    have hfrom : s.Extends s' := fun name target ht =>
      hext name target ((target?_resolve s name).trans ht)
    rw [Schema.resolve, List.map_map, ← h.tables hfrom]
    exact List.map_congr_left fun t _ => hfrom.resolveTable_resolveTable t

theorem isSome_target? (s : Schema) (name : String) :
    (s.target? name).isSome = (s.table? name).isSome :=
  Option.isSome_map

theorem target?_append (s : Schema) (t : Table) (name : String) :
    target? { name := s.name, tables := s.tables ++ [t] } name =
      (s.target? name).or (if same t.name name then some (t.name, t.keyNames) else none) := by
  rw [target?_eq_find?, target?_eq_find?, List.map_append, List.find?_append, List.map_singleton,
    List.find?_singleton]

theorem extends_append (s : Schema) (t : Table) :
    s.Extends { name := s.name, tables := s.tables ++ [t] } := by
  intro name target ht
  rw [target?_append, ht]
  rfl

theorem change_addTable (s : Schema) (t : Table) : s.change (.addTable t) =
    if (s.target? t.name).isSome then s
    else { name := s.name, tables := s.tables ++ [t] } := by
  rw [change, offerTable, isSome_target?, isSome_position?]
  split
  · rfl
  · exact Schema.ext rfl rfl

/-- A table is added to both, or refused by both. -/
theorem Alike.addTable (h : s.Alike p) (t : Table) :
    (s.change (.addTable t)).Alike (p.change (.addTable t)) := by
  rw [change_addTable, change_addTable, ← h.target?_eq]
  split
  · exact h
  · refine ⟨h.name_eq, fun name => ?_, fun hext => ?_⟩
    · rw [target?_append, target?_append, h.target?_eq]
    · rw [List.map_append, List.map_append, h.tables ((extends_append s t).trans hext)]

/-- Of some changes, the additions alone lead to a schema that is alike. -/
theorem Alike.changeAll (h : s.Alike p) (cs : List Change) :
    (s.changeAll cs).Alike (p.changeAll (cs.filter Change.isAddition)) := by
  induction cs generalizing s p with
  | nil => exact h
  | cons c cs ih =>
    cases c with
    | addTable t => exact ih (h.addTable t)
    | resolve => exact ih h.resolve

end Alike

/-- Changes keep the tables of a schema apart. -/
theorem namedApart_changeAll (h : NamedApart Table.name s.tables) (cs : List Change) :
    NamedApart Table.name (s.changeAll cs).tables := by
  induction cs generalizing s with
  | nil => exact h
  | cons c cs ih =>
    refine ih ?_
    cases c with
    | addTable t =>
      rw [change]
      cases hadd : s.addTable t with
      | ok s' =>
        rw [offerTable_of_ok hadd]
        obtain ⟨hnew, rfl⟩ := addTable_eq_ok_iff.1 hadd
        rw [table?_eq_find?] at hnew
        exact h.append_singleton hnew
      | error r =>
        rw [offerTable_of_error hadd]
        exact h
    | resolve => exact h.map fun t _ => name_resolveTable s t

/-- **Resolving is exact, and absorbs what was resolved before.** Let tables be added to
a schema, and the schema be resolved in between, any number of times. If it is resolved
at last, it is the schema that the same additions make, resolved once; and resolving it
again changes nothing. Its tables have different names, and the last pass changes of each
of them nothing but the columns that its foreign keys leave open, as far as they lead to a
key of as many columns, and its relationships, which are one for each foreign key that
leads to a table, in order. -/
theorem resolve_changeAll (name : String) (cs : List Change) :
    changeAll { name } (cs ++ [.resolve]) =
      changeAll { name } (cs.filter Change.isAddition ++ [.resolve]) ∧
    (changeAll { name } (cs ++ [.resolve])).resolve = changeAll { name } (cs ++ [.resolve]) ∧
    (changeAll { name } (cs ++ [.resolve])).name = (changeAll { name } cs).name ∧
    NamedApart Table.name (changeAll { name } cs).tables ∧
    List.Forall₂ (changeAll { name } cs).Resolves (changeAll { name } cs).tables
      (changeAll { name } (cs ++ [.resolve])).tables := by
  have hlast : ∀ ds, changeAll { name } (ds ++ [.resolve]) = (changeAll { name } ds).resolve :=
    fun ds => List.foldl_append
  have halike := (Alike.refl { name }).changeAll cs
  have hapart : NamedApart Table.name (changeAll { name } cs).tables :=
    namedApart_changeAll (s := { name }) List.Pairwise.nil cs
  rw [hlast, hlast]
  refine ⟨halike.resolve_eq, resolve_resolve _, rfl, hapart, ?_⟩
  rw [resolve, List.forall₂_map_right_iff]
  exact List.forall₂_same.2 fun t _ => resolves_resolveTable hapart t

end Schema

end NormalForms
