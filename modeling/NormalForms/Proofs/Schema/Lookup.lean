import NormalForms.Proofs.Schema.Invariant

/-!
# Schemas as maps

A schema whose tables have different names is a list of keys with one table
under each (`keyed?`). Two such schemas that hold the same under every key have
the same tables, in another order perhaps (`perm_of_keyed?`), and in the same
order if their keys are (`tables_eq_of_keyed?`).

`ofTables` accepts tables by their names alone, and resolving a table reads of
the others their names and their primary keys alone.
-/

namespace NormalForms

open Identifier

namespace Schema

/-! ## What stands under a key -/

/-- The table whose name has the key. -/
def keyed? (s : Schema) (k : String) : Option Table := s.tables.find? fun t => key t.name == k

/-- The keys of the tables' names, in order. -/
def keys (s : Schema) : List String := s.tables.map fun t => key t.name

theorem table?_eq_keyed? (s : Schema) (name : String) : s.table? name = s.keyed? (key name) :=
  s.table?_eq_find? name

theorem keyed?_isSome_iff {s : Schema} {k : String} : (s.keyed? k).isSome = true ↔ k ∈ s.keys := by
  simp [keyed?, keys]

theorem addTable_eq_error_iff {s : Schema} {t : Table} {r : Rejection} :
    s.addTable t = .error r ↔ key t.name ∈ s.keys ∧ r = .duplicateTable t.name := by
  rw [← keyed?_isSome_iff, ← table?_eq_keyed?, addTable, Answer.toExcept_eq_error_iff, offerTable,
    isSome_position?]
  cases s.table? t.name <;> simp [eq_comm]

theorem not_mem_keys_of_addTable {s s' : Schema} {t : Table} (h : s.addTable t = .ok s') :
    key t.name ∉ s.keys := by
  rw [← keyed?_isSome_iff, ← table?_eq_keyed?, (addTable_eq_ok_iff.1 h).1]
  exact Bool.false_ne_true

theorem keyed?_addTable {s s' : Schema} {t : Table} (h : s.addTable t = .ok s') (k : String) :
    s'.keyed? k = if key t.name = k then some t else s.keyed? k := by
  obtain ⟨hnew, rfl⟩ := addTable_eq_ok_iff.1 h
  have happend : keyed? { name := s.name, tables := s.tables ++ [t] } k =
      (s.keyed? k).or ([t].find? fun t => key t.name == k) := List.find?_append
  rw [happend, List.find?_singleton]
  by_cases hk : key t.name = k
  · rw [table?_eq_keyed?, hk] at hnew
    rw [hnew, if_pos hk, if_pos (beq_iff_eq.2 hk)]
    rfl
  · rw [if_neg hk, if_neg (mt beq_iff_eq.1 hk)]
    exact Option.or_none

theorem keys_addTable {s s' : Schema} {t : Table} (h : s.addTable t = .ok s') :
    s'.keys = s.keys ++ [key t.name] := by
  obtain ⟨-, rfl⟩ := addTable_eq_ok_iff.1 h
  exact List.map_append

section MapTable

variable {f : Table → Table}

/-- Changing the table at a position changes what is found if it is found there. -/
theorem find?_modify {q : Table → Bool} (hq : ∀ t, q (f t) = q t) (tables : List Table) (i : Nat) :
    (tables.modify i f).find? q =
      if tables.findIdx? q = some i then (tables.find? q).map f else tables.find? q := by
  induction tables generalizing i with
  | nil => cases i <;> rfl
  | cons t tables ih => cases i with
    | zero =>
      rw [List.modify_zero_cons, List.find?_cons, List.find?_cons, List.findIdx?_cons, hq]
      cases q t <;> simp
    | succ i =>
      rw [List.modify_succ_cons, List.find?_cons, List.find?_cons, List.findIdx?_cons, ih]
      cases q t <;> simp

variable {s : Schema} (hf : ∀ t, (f t).name = t.name)
include hf

/-- Changing a table changes what stands under its key. -/
theorem keyed?_mapTable (name k : String) :
    (s.mapTable name f hf).keyed? k =
      if key name = k then (s.keyed? k).map f else s.keyed? k := by
  have hposition : s.position? name = s.tables.findIdx? fun t => key t.name == key name :=
    s.position?_eq_findIdx? name
  unfold mapTable
  split
  · rename_i hnone
    have hfind : s.keyed? (key name) = none := by
      rw [hposition] at hnone
      rw [keyed?, List.find?_eq_bind_findIdx?_getElem?, hnone, Option.bind_none]
    split
    · rename_i hk
      rw [← hk, hfind, Option.map_none]
    · rfl
  · rename_i i hi
    rw [hposition] at hi
    rw [keyed?, find?_modify fun t => by rw [hf]]
    by_cases hk : key name = k
    · rw [if_pos hk, ← hk, if_pos hi, keyed?]
    · rw [if_neg hk, if_neg, keyed?]
      intro hi'
      obtain ⟨_, ht, -⟩ := List.findIdx?_eq_some_iff_getElem.1 hi
      obtain ⟨_, hk', -⟩ := List.findIdx?_eq_some_iff_getElem.1 hi'
      exact hk ((eq_of_beq ht).symm.trans (eq_of_beq hk'))

theorem keys_mapTable (name : String) : (s.mapTable name f hf).keys = s.keys := by
  have hkeys : ∀ u : Schema, u.keys = (u.tables.map Table.name).map key := fun u => by
    rw [keys, List.map_map]
    rfl
  rw [hkeys, hkeys]
  unfold mapTable
  split
  · rfl
  · rw [map_name_modify hf]

end MapTable

/-- The index notes a key for each table. -/
theorem map_fst_index (s : Schema) : s.index.map Prod.fst = s.keys := by
  have hfst : Prod.fst ∘ (fun e : String × Nat => (key e.1, e.2)) = key ∘ Prod.fst := rfl
  rw [s.indexed, positions, List.map_map, hfst, ← List.map_map, List.zipIdx_map_fst, List.map_map]
  rfl

namespace WellFormed

variable {s s' : Schema}

/-- No key is noted twice. -/
theorem nodup_index (h : s.WellFormed) : (s.index.map Prod.fst).Nodup := by
  rw [map_fst_index, keys]
  exact List.pairwise_map.2 (h.names.imp fun hab heq => by simp [same_iff.2 heq] at hab)

theorem keyed?_eq_some_iff (h : s.WellFormed) {k : String} {t : Table} :
    s.keyed? k = some t ↔ t ∈ s.tables ∧ key t.name = k := by
  constructor
  · intro hk
    exact ⟨List.mem_of_find?_eq_some hk, by simpa using List.find?_some hk⟩
  · rintro ⟨ht, rfl⟩
    rw [← table?_eq_keyed?]
    exact h.table?_eq_some_iff.2 ⟨ht, same_refl _⟩

theorem nodup_tables (h : s.WellFormed) : s.tables.Nodup := by
  refine h.names.imp fun hab => ?_
  rintro rfl
  rw [same_refl] at hab
  cases hab

/-- **The position noted for a name** is that of the table of the name. -/
theorem position?_eq_some_iff (h : s.WellFormed) {n : String} {i : Nat} :
    s.position? n = some i ↔ ∃ t, s.tables[i]? = some t ∧ same t.name n = true := by
  constructor
  · intro hi
    rw [position?_eq_findIdx?] at hi
    obtain ⟨hlt, hsame, -⟩ := List.findIdx?_eq_some_iff_getElem.1 hi
    exact ⟨_, List.getElem?_eq_getElem hlt, hsame⟩
  · rintro ⟨t, ht, hsame⟩
    have hfound := h.table?_eq_some_iff.2 ⟨List.mem_of_getElem? ht, hsame⟩
    obtain ⟨j, hj, htj⟩ := Option.bind_eq_some_iff.1 hfound
    have hlt : i < s.tables.length := (List.getElem?_eq_some_iff.1 ht).1
    rw [hj, (List.getElem?_inj hlt h.nodup_tables).1 (ht.trans htj.symm)]

/-- Changing a table changes the one table of the name. -/
theorem tables_mapTable (h : s.WellFormed) (name : String) {f : Table → Table}
    (hf : ∀ t, (f t).name = t.name) :
    (s.mapTable name f hf).tables = s.tables.map fun t => if same t.name name then f t else t := by
  have hposition : ∀ {j t}, s.tables[j]? = some t →
      (same t.name name = true ↔ s.position? name = some j) := fun ht =>
    ⟨fun hsame => h.position?_eq_some_iff.2 ⟨_, ht, hsame⟩, fun hj => by
      obtain ⟨u, hu, hsame⟩ := h.position?_eq_some_iff.1 hj
      cases hu.symm.trans ht
      exact hsame⟩
  refine List.ext_getElem? fun j => ?_
  rw [List.getElem?_map]
  unfold Schema.mapTable
  split
  · rename_i hnone
    cases ht : s.tables[j]? with
    | none => rfl
    | some t => simp [hposition ht, hnone]
  · rename_i i hi
    rw [List.getElem?_modify]
    cases ht : s.tables[j]? with
    | none => rfl
    | some t => simp [hposition ht, hi]

/-- Two schemas with the same tables under all keys have the same tables. -/
theorem perm_of_keyed? (h : s.WellFormed) (h' : s'.WellFormed)
    (hk : ∀ k, s.keyed? k = s'.keyed? k) : s.tables.Perm s'.tables := by
  refine (List.perm_ext_iff_of_nodup h.nodup_tables h'.nodup_tables).2 fun t => ?_
  have hmem : ∀ {u : Schema}, u.WellFormed → (t ∈ u.tables ↔ u.keyed? (key t.name) = some t) :=
    fun hu => ⟨fun ht => hu.keyed?_eq_some_iff.2 ⟨ht, rfl⟩,
      fun ht => (hu.keyed?_eq_some_iff.1 ht).1⟩
  rw [hmem h, hmem h', hk]

/-- The tables of a schema, read off its keys. -/
theorem map_keyed?_keys (h : s.WellFormed) : s.keys.map s.keyed? = s.tables.map some := by
  rw [keys, List.map_map]
  exact List.map_congr_left fun t ht => h.keyed?_eq_some_iff.2 ⟨ht, rfl⟩

/-- If their keys stand in the same order as well, so do their tables. -/
theorem tables_eq_of_keyed? (h : s.WellFormed) (h' : s'.WellFormed) (hkeys : s.keys = s'.keys)
    (hk : ∀ k, s.keyed? k = s'.keyed? k) : s.tables = s'.tables := by
  have hmap : s.tables.map some = s'.tables.map some := by
    rw [← h.map_keyed?_keys, ← h'.map_keyed?_keys, hkeys, funext hk]
  exact (List.map_inj_right fun _ _ => Option.some.inj).1 hmap

theorem eq_of_keyed? (h : s.WellFormed) (h' : s'.WellFormed) (hname : s.name = s'.name)
    (hkeys : s.keys = s'.keys) (hk : ∀ k, s.keyed? k = s'.keyed? k) : s = s' :=
  Schema.ext hname (h.tables_eq_of_keyed? h' hkeys hk)

end WellFormed

/-! ## Accepting tables -/

theorem foldlM_addTable_eq_ok_iff {s s' : Schema} {ts : List Table}
    (h : NamedApart Table.name s.tables) :
    ts.foldlM addTable s = .ok s' ↔
      NamedApart Table.name (s.tables ++ ts) ∧
        s' = { name := s.name, tables := s.tables ++ ts } := by
  induction ts generalizing s with
  | nil =>
    have hsame : s = { name := s.name, tables := s.tables ++ [] } :=
      Schema.ext rfl (List.append_nil _).symm
    rw [← hsame, List.append_nil]
    exact ⟨fun he => ⟨h, (Except.ok.inj he).symm⟩, fun he => congrArg Except.ok he.2.symm⟩
  | cons t ts ih =>
    rw [List.foldlM_cons]
    cases hadd : s.addTable t with
    | ok u =>
      obtain ⟨hnew, rfl⟩ := addTable_eq_ok_iff.1 hadd
      rw [table?_eq_find?] at hnew
      have happly := ih (s := { name := s.name, tables := s.tables ++ [t] })
        (h.append_singleton hnew)
      simp only [List.append_assoc] at happly
      exact happly
    | error r =>
      constructor
      · intro he
        cases he
      · rintro ⟨hapart, -⟩
        have hnew : s.table? t.name = none := by
          rw [table?_eq_find?]
          refine List.find?_eq_none.2 fun u hu => ?_
          rw [(List.pairwise_append.1 hapart).2.2 u hu t List.mem_cons_self]
          exact Bool.false_ne_true
        rw [addTable_eq_ok_iff.2 ⟨hnew, rfl⟩] at hadd
        cases hadd

/-- **What `ofTables` accepts** are tables of different names. -/
theorem ofTables_eq_ok_iff {name : String} {ts : List Table} {s : Schema} :
    ofTables name ts = .ok s ↔
      NamedApart Table.name ts ∧ s = resolve { name, tables := ts } := by
  have hfold : ∀ {u : Schema}, ts.foldlM addTable { name } = .ok u ↔
      NamedApart Table.name ts ∧ u = { name, tables := ts } :=
    foldlM_addTable_eq_ok_iff List.Pairwise.nil
  unfold ofTables
  cases hf : ts.foldlM addTable { name } with
  | ok u =>
    obtain ⟨hapart, rfl⟩ := hfold.1 hf
    exact ⟨fun he => ⟨hapart, (Except.ok.inj he).symm⟩, fun he => congrArg Except.ok he.2.symm⟩
  | error r =>
    refine ⟨fun he => (by cases he), fun he => ?_⟩
    rw [hfold.2 ⟨he.1, rfl⟩] at hf
    cases hf

/-- What `ofTables` accepts are its tables, resolved. -/
theorem eq_resolve_of_ofTables {name : String} {ts : List Table} {s : Schema}
    (h : ofTables name ts = .ok s) : s = resolve { name, tables := ts } :=
  (ofTables_eq_ok_iff.1 h).2

/-! ## What resolving reads -/

/-- What a foreign key reads of the table it leads to. -/
def target? (s : Schema) (name : String) : Option (String × List String) :=
  (s.table? name).map fun t => (t.name, t.keyNames)

theorem target?_eq_find? (s : Schema) (name : String) :
    s.target? name =
      (s.tables.map fun t => (t.name, t.keyNames)).find? fun e => same e.1 name := by
  rw [target?, table?_eq_find?, List.find?_map]
  rfl

theorem map_destination?_congr {s s' : Schema} {fk : ForeignKey}
    (h : s.target? fk.target = s'.target? fk.target) :
    (s.destination? fk).map (fun d => (d.1.name, d.2)) =
      (s'.destination? fk).map fun d => (d.1.name, d.2) := by
  unfold target? at h
  unfold destination?
  cases hs : s.table? fk.target with
  | none =>
    rw [hs] at h
    rw [Option.map_eq_none_iff.1 h.symm]
  | some t =>
    rw [hs] at h
    obtain ⟨t', ht', heq⟩ := Option.map_eq_some_iff.1 h.symm
    obtain ⟨hname, hkeys⟩ := Prod.mk.inj heq
    rw [ht']
    dsimp only
    rw [hkeys]
    split
    · split
      · exact congrArg (fun n => some (n, t.keyNames)) hname.symm
      · rfl
    · exact congrArg (fun n => some (n, fk.targetColumns)) hname.symm

theorem completeKey_eq (s : Schema) (fk : ForeignKey) :
    s.completeKey fk =
      (((s.destination? fk).map fun d => (d.1.name, d.2)).map fun d =>
        { fk with targetColumns := d.2 }).getD fk := by
  unfold completeKey
  cases s.destination? fk <;> rfl

theorem relationship?_eq (s : Schema) (source : String) (fk : ForeignKey) :
    s.relationship? source fk =
      ((s.destination? fk).map fun d => (d.1.name, d.2)).map fun d =>
        ⟨source, d.1, fk.columns, d.2⟩ := by
  rw [relationship?, Option.map_map]
  rfl

/-- **Resolving a table** reads of the other tables their names and keys alone. -/
theorem resolveTable_congr {s s' : Schema} (h : ∀ name, s.target? name = s'.target? name) :
    s.resolveTable = s'.resolveTable := by
  have hd : ∀ fk, (s.destination? fk).map (fun d => (d.1.name, d.2)) =
      (s'.destination? fk).map fun d => (d.1.name, d.2) := fun fk =>
    map_destination?_congr (h fk.target)
  have hcomplete : s.complete = s'.complete := by
    funext c
    cases c with
    | foreignKey fk => exact congrArg Constraint.foreignKey (by
        rw [completeKey_eq, completeKey_eq, hd])
    | primaryKey name columns => rfl
    | unique name columns => rfl
    | check name columns expression => rfl
  have hrelationship : s.relationship? = s'.relationship? := by
    funext source fk
    rw [relationship?_eq, relationship?_eq, hd]
  funext t
  rw [resolveTable, resolveTable, hcomplete, hrelationship]

/-! ## Replacing a table -/

theorem map_set_eq_map {α β : Type} {l : List α} {i : Nat} {a b : α} (hi : l[i]? = some a)
    {f : α → β} (hf : f b = f a) : (l.set i b).map f = l.map f := by
  obtain ⟨hlt, rfl⟩ := List.getElem?_eq_some_iff.1 hi
  have hlen : i < (l.map f).length := by rwa [List.length_map]
  have hset : (l.map f).set i (l.map f)[i] = l.map f := List.set_getElem_self hlen
  rw [List.getElem_map] at hset
  rw [List.map_set, hf, hset]

/-- **A table may be replaced** by one of its name and its primary key: nothing
else of the schema changes. -/
theorem ofTables_set {name : String} {ts : List Table} {s : Schema}
    (h : ofTables name ts = .ok s) {i : Nat} {u u' : Table} (hu : ts[i]? = some u)
    (hname : u'.name = u.name) (hkeys : u'.keyNames = u.keyNames) :
    ofTables name (ts.set i u') =
      .ok { name := s.name,
            tables := s.tables.set i (resolveTable { name, tables := ts } u') } := by
  obtain ⟨hapart, rfl⟩ := ofTables_eq_ok_iff.1 h
  have hresolve : resolveTable { name, tables := ts.set i u' } =
      resolveTable { name, tables := ts } := by
    refine resolveTable_congr fun n => ?_
    rw [target?_eq_find?, target?_eq_find?]
    exact congrArg _ (map_set_eq_map hu (by rw [hname, hkeys]))
  refine ofTables_eq_ok_iff.2 ⟨?_, ?_⟩
  · rw [namedApart_iff_pairwise, map_set_eq_map hu hname, ← namedApart_iff_pairwise]
    exact hapart
  · refine Schema.ext rfl ?_
    show (ts.map (resolveTable { name, tables := ts })).set i _ = (ts.set i u').map _
    rw [hresolve, List.map_set]

end Schema

end NormalForms
