import NormalForms.Proofs.Draft.Account
import NormalForms.Proofs.Script.Rejoining
import NormalForms.Reading

/-!
# Statements that are skipped

A text of a script is skipped if it cannot be read, or if every statement in it is
idle: it is of no kind that defines tables, or declares a table that is declared
already, or alters one that is not declared. All that comes of a skipped text are
notices (`exists_taken_eq_note`). Two drafts that are alike but for these stay so
under every further statement (`Skips.taken`), and what is left of the script is
cut into the same texts. So the text may as well not be there.
-/

namespace NormalForms

open Identifier Sql

namespace Draft

/-! ## Readers that never break down -/

def IsReliable (reader : StatementReader) : Prop :=
  ∀ text message, reader text ≠ .error (.fatal message)

/-- The reader breaks down at none of the texts. -/
def Withstands (reader : StatementReader) (texts : List String) : Prop :=
  ∀ text ∈ texts, ∀ message, reader text ≠ .error (.fatal message)

theorem IsReliable.withstands {reader : StatementReader} (h : IsReliable reader)
    (texts : List String) : Withstands reader texts := fun text _ => h text

theorem isReliable_reader (dialect : Dialect) : IsReliable dialect.reader := by
  intro text message h
  rw [Dialect.reader] at h
  cases hp : Sql.parse dialect text with
  | ok statements => rw [hp] at h; cases h
  | error e => rw [hp] at h; cases h

/-- The draft with what was read of a statement. -/
def taken (d : Draft) (index : Nat) (text : String) :
    Except ReadFailure (List Statement) → Draft
  | .ok statements => d.addAll index text statements
  | .error (.malformed message) => d.note index text [.unreadable message]
  | .error (.fatal _) => d

/-- The draft with what was read of some texts, the first of which has the given
index. -/
def takenAll (reader : StatementReader) (d : Draft) (index : Nat) : List String → Draft
  | [] => d
  | text :: texts => takenAll reader (d.taken index text (reader text)) (index + 1) texts

section Reading

variable {reader : StatementReader}

theorem take_eq_taken {text : String} (h : ∀ message, reader text ≠ .error (.fatal message))
    (d : Draft) (index : Nat) :
    d.take index text (reader text) = .ok (d.taken index text (reader text)) := by
  cases hr : reader text with
  | ok statements => rfl
  | error failure =>
    cases failure with
    | malformed message => rfl
    | fatal message => exact absurd hr (h message)

theorem takeAll_eq_takenAll {texts : List String} (h : Withstands reader texts) (d : Draft)
    (index : Nat) :
    d.takeAll index (texts.map fun text => (text, reader text)) =
      .ok (takenAll reader d index texts) := by
  induction texts generalizing d index with
  | nil => rfl
  | cons text texts ih =>
    obtain ⟨htext, htexts⟩ := List.forall_mem_cons.1 h
    rw [List.map_cons, takeAll, take_eq_taken htext]
    exact ih htexts _ _

/-- A script is read to its end. -/
theorem ofScript_eq_ok (h : IsReliable reader) (script : String) :
    ofScript reader script =
      .ok (takenAll reader (empty scriptSchema) 0 (Script.statements script)).finish := by
  rw [ofScript, ofOutcomes, takeAll_eq_takenAll (h.withstands _)]
  rfl

theorem takenAll_append (d : Draft) (index : Nat) (texts more : List String) :
    takenAll reader d index (texts ++ more) =
      takenAll reader (takenAll reader d index texts) (index + texts.length) more := by
  induction texts generalizing d index with
  | nil => rfl
  | cons text texts ih =>
    rw [List.cons_append, takenAll, takenAll, ih, List.length_cons]
    congr 1
    omega

end Reading

/-! ## What is declared, and what is noted -/

/-- The statements that a text is read as, if it can be read. -/
def readAs : Except ReadFailure (List Statement) → List Statement
  | .ok statements => statements
  | .error _ => []

/-- The keys of the tables that some texts declare. -/
def declaredIn (reader : StatementReader) (texts : List String) : List String :=
  (texts.flatMap fun text => readAs (reader text)).filterMap declared?

theorem mem_foldl_enter {k : String} {ks new : List String} :
    k ∈ new.foldl enter ks ↔ k ∈ ks ∨ k ∈ new := by
  induction new generalizing ks with
  | nil => simp
  | cons k' new ih =>
    have henter : k ∈ enter ks k' ↔ k ∈ ks ∨ k = k' := by
      unfold enter
      split
      · rename_i hk'
        exact ⟨.inl, fun h => h.elim id fun he => he ▸ hk'⟩
      · rw [List.mem_append, List.mem_singleton]
    rw [List.foldl_cons, ih, henter, List.mem_cons, or_assoc]

section Step

variable {d : Draft} {index : Nat} {text : String}

theorem addAll_eq_feed (statements : List Statement) :
    d.addAll index text statements = d.feed (statements.map fun s => ⟨index, text, s⟩) := by
  rw [feed, List.foldl_map]
  rfl

theorem keys_addAll (statements : List Statement) :
    (d.addAll index text statements).schema.keys =
      (statements.filterMap declared?).foldl enter d.schema.keys := by
  have hid : Entry.statement ∘ (fun s => ⟨index, text, s⟩) = id := rfl
  rw [addAll_eq_feed, keys_feed, List.map_map, hid, List.map_id]

theorem mem_keys_taken {k : String} (outcome : Except ReadFailure (List Statement)) :
    k ∈ (d.taken index text outcome).schema.keys ↔
      k ∈ d.schema.keys ∨ k ∈ (readAs outcome).filterMap declared? := by
  cases outcome with
  | ok statements =>
    have hkeys : (d.taken index text (.ok statements)).schema.keys =
        (statements.filterMap declared?).foldl enter d.schema.keys := keys_addAll statements
    rw [hkeys, mem_foldl_enter]
    rfl
  | error failure =>
    cases failure <;> exact ⟨.inl, fun h => h.elim id fun hk => by cases hk⟩

/-- Every notice of a statement has its index. -/
theorem exists_notices_add (d : Draft) (index : Nat) (text : String) (statement : Statement) :
    ∃ causes, (d.add index text statement).notices = (d.note index text causes).notices := by
  cases statement with
  | createTable c =>
    have hnotes : ∀ more, ((d.note index text ((tableOf c).2.map .rejected)).note index text
        more).notices = (d.note index text ((tableOf c).2.map .rejected ++ more)).notices :=
      fun more => congrArg Draft.notices (note_note d _ more)
    exact ⟨_, hnotes _⟩
  | alterTable name operations =>
    simp only [add]
    split <;> exact ⟨_, rfl⟩
  | other => exact ⟨[], by rw [note_nil]; rfl⟩

theorem exists_notices_addAll (d : Draft) (index : Nat) (text : String)
    (statements : List Statement) :
    ∃ causes, (d.addAll index text statements).notices = (d.note index text causes).notices := by
  refine statements.foldlRecOn (motive := fun d' : Draft =>
    ∃ causes, d'.notices = (d.note index text causes).notices) _ ⟨[], by rw [note_nil]⟩ ?_
  intro d' hd' s _
  obtain ⟨causes, hcauses⟩ := hd'
  obtain ⟨more, hmore⟩ := exists_notices_add d' index text s
  have hnote : (d'.note index text more).notices =
      ((d.note index text causes).note index text more).notices := by
    rw [note, hcauses]
    rfl
  exact ⟨causes ++ more, by rw [hmore, hnote, note_note]⟩

theorem index_lt_addAll {bound : Nat} (hindex : index < bound) (statements : List Statement)
    (h : ∀ n ∈ d.notices, n.index < bound) :
    ∀ n ∈ (d.addAll index text statements).notices, n.index < bound := by
  obtain ⟨causes, hcauses⟩ := exists_notices_addAll d index text statements
  rw [hcauses]
  refine List.forall_mem_append.2 ⟨h, fun n hn => ?_⟩
  obtain ⟨cause, -, rfl⟩ := List.mem_map.1 hn
  exact hindex

theorem index_lt_taken (text : String) {bound : Nat} (hindex : index < bound)
    (outcome : Except ReadFailure (List Statement)) (h : ∀ n ∈ d.notices, n.index < bound) :
    ∀ n ∈ (d.taken index text outcome).notices, n.index < bound := by
  cases outcome with
  | ok statements => exact index_lt_addAll hindex statements h
  | error failure =>
    cases failure with
    | malformed message => exact List.forall_mem_append.2 ⟨h, List.forall_mem_singleton.2 hindex⟩
    | fatal message => exact h

end Step

section Run

variable {reader : StatementReader}

theorem mem_keys_takenAll {d : Draft} {index : Nat} {k : String} (texts : List String) :
    k ∈ (takenAll reader d index texts).schema.keys ↔
      k ∈ d.schema.keys ∨ k ∈ declaredIn reader texts := by
  induction texts generalizing d index with
  | nil => simp [takenAll, declaredIn]
  | cons text texts ih =>
    rw [takenAll, ih, mem_keys_taken, or_assoc, declaredIn, declaredIn, List.flatMap_cons,
      List.filterMap_append, List.mem_append]

theorem index_lt_takenAll {d : Draft} {index : Nat} (texts : List String)
    (h : ∀ n ∈ d.notices, n.index < index) :
    ∀ n ∈ (takenAll reader d index texts).notices, n.index < index + texts.length := by
  induction texts generalizing d index with
  | nil => exact h
  | cons text texts ih =>
    have hstep : ∀ n ∈ d.notices, n.index < index + 1 := fun n hn => Nat.lt_succ_of_lt (h n hn)
    have hrest := ih (index_lt_taken text (Nat.lt_succ_self index) (reader text) hstep)
    rw [takenAll, List.length_cons]
    intro n hn
    have hlt := hrest n hn
    omega

end Run

/-! ## Idle statements -/

/-- The statement can do nothing where the tables of the keys `known` are declared:
it declares one of them again, or alters another, or is of some other kind. -/
def IsIdle (known : List String) : Statement → Prop
  | .createTable c => key (relationOf c.name) ∈ known
  | .alterTable name _ => key (relationOf name) ∉ known
  | .other => True

instance (known : List String) : DecidablePred (IsIdle known)
  | .createTable c => inferInstanceAs (Decidable (key (relationOf c.name) ∈ known))
  | .alterTable name _ => inferInstanceAs (Decidable (key (relationOf name) ∉ known))
  | .other => .isTrue trivial

theorem IsIdle.congr {known known' : List String} (h : ∀ k, k ∈ known ↔ k ∈ known')
    {statement : Statement} (hs : IsIdle known statement) : IsIdle known' statement := by
  cases statement with
  | createTable c => exact (h _).1 hs
  | alterTable name operations => exact mt (h _).2 hs
  | other => trivial

section Idle

variable {d : Draft}

/-- **All that comes of an idle statement** are notices. -/
theorem exists_add_eq_note (index : Nat) (text : String) {statement : Statement}
    (h : IsIdle d.schema.keys statement) :
    ∃ causes, d.add index text statement = d.note index text causes := by
  cases statement with
  | createTable c =>
    have hname : (tableOf c).1.name = relationOf c.name := (named_tableOf c).name_eq
    have hrefused : d.schema.addTable (tableOf c).1 =
        .error (.duplicateTable (tableOf c).1.name) :=
      Schema.addTable_eq_error_iff.2 ⟨by rw [hname]; exact h, rfl⟩
    rw [add, addTable_of_error (d := d.note index text _) hrefused, note_note]
    exact ⟨_, rfl⟩
  | alterTable name operations =>
    have hnone : d.schema.table? (relationOf name) = none := by
      rw [Schema.table?_eq_keyed?, Option.eq_none_iff_forall_not_mem]
      intro t ht
      exact h (Schema.keyed?_isSome_iff.1 (Option.isSome_of_mem ht))
    simp only [add, hnone]
    exact ⟨_, rfl⟩
  | other => exact ⟨[], (note_nil d).symm⟩

theorem exists_addAll_eq_note (index : Nat) (text : String) {statements : List Statement}
    (h : ∀ s ∈ statements, IsIdle d.schema.keys s) :
    ∃ causes, d.addAll index text statements = d.note index text causes := by
  refine statements.foldlRecOn (motive := fun d' : Draft => ∃ causes,
    d' = d.note index text causes) _ ⟨[], (note_nil d).symm⟩ fun d' hd' s hs => ?_
  obtain ⟨causes, rfl⟩ := hd'
  have hidle : IsIdle (d.note index text causes).schema.keys s := h s hs
  obtain ⟨more, hmore⟩ := exists_add_eq_note index text hidle
  exact ⟨causes ++ more, by rw [hmore, note_note]⟩

/-- All that comes of a text that is skipped are notices. -/
theorem exists_taken_eq_note (index : Nat) (text : String)
    {outcome : Except ReadFailure (List Statement)}
    (h : ∀ s ∈ readAs outcome, IsIdle d.schema.keys s) :
    ∃ causes, d.taken index text outcome = d.note index text causes := by
  cases outcome with
  | ok statements => exact exists_addAll_eq_note index text h
  | error failure =>
    cases failure with
    | malformed message => exact ⟨_, rfl⟩
    | fatal message => exact ⟨[], (note_nil d).symm⟩

end Idle

/-! ## Drafts with and without a statement -/

/-- The notices but for those of the statement at a place, as if it were not there. -/
def noticesWithout (place : Nat) (notices : List Notice) : List Notice :=
  (notices.filter fun n => n.index ≠ place).map fun n =>
    if place < n.index then { n with index := n.index - 1 } else n

/-- `d'` is what `d` is without the statement at a place. -/
structure Skips (place : Nat) (d d' : Draft) : Prop where
  schema_eq : d'.schema = d.schema
  notices_eq : d'.notices = noticesWithout place d.notices

theorem noticesWithout_append (place : Nat) (ns ms : List Notice) :
    noticesWithout place (ns ++ ms) = noticesWithout place ns ++ noticesWithout place ms := by
  rw [noticesWithout, List.filter_append, List.map_append]
  rfl

/-- Earlier notices stay as they are. -/
theorem noticesWithout_of_lt {place : Nat} {ns : List Notice} (h : ∀ n ∈ ns, n.index < place) :
    noticesWithout place ns = ns := by
  have hfilter : ns.filter (fun n => n.index ≠ place) = ns :=
    List.filter_eq_self.2 fun n hn => decide_eq_true (Nat.ne_of_lt (h n hn))
  rw [noticesWithout, hfilter]
  refine (List.map_congr_left fun n hn => ?_).trans (List.map_id ns)
  rw [if_neg (Nat.not_lt.2 (Nat.le_of_lt (h n hn)))]
  rfl

/-- A draft with the notices of a statement, and the same draft without them. -/
theorem skips_note {place : Nat} {d : Draft} (h : ∀ n ∈ d.notices, n.index < place)
    (text : String) (causes : List Notice.Cause) : Skips place (d.note place text causes) d where
  schema_eq := rfl
  notices_eq := by
    have hown : noticesWithout place
        (causes.map fun cause => ⟨place, Text.trimmed text, cause⟩) = [] := by
      rw [noticesWithout, List.filter_eq_nil_iff.2, List.map_nil]
      intro n hn
      obtain ⟨cause, -, rfl⟩ := List.mem_map.1 hn
      simp
    rw [note, noticesWithout_append, noticesWithout_of_lt h, hown, List.append_nil]

namespace Skips

variable {place index : Nat} {text : String} {d d' : Draft}

/-- Later notices move up. -/
theorem note (h : Skips place d d') (hi : place ≤ index) (causes : List Notice.Cause) :
    Skips place (d.note (index + 1) text causes) (d'.note index text causes) where
  schema_eq := h.schema_eq
  notices_eq := by
    have hlater : noticesWithout place
        (causes.map fun cause => ⟨index + 1, Text.trimmed text, cause⟩) =
          causes.map fun cause => ⟨index, Text.trimmed text, cause⟩ := by
      have hlt : place < index + 1 := Nat.lt_succ_of_le hi
      rw [noticesWithout, List.filter_eq_self.2, List.map_map]
      · refine List.map_congr_left fun cause _ => ?_
        rw [Function.comp_apply, if_pos hlt]
        rfl
      · intro n hn
        obtain ⟨cause, -, rfl⟩ := List.mem_map.1 hn
        exact decide_eq_true (Nat.ne_of_gt hlt)
    rw [Draft.note, Draft.note, noticesWithout_append, h.notices_eq, hlater]

theorem withSchema (h : Skips place d d') (s : Schema) :
    Skips place { d with schema := s } { d' with schema := s } :=
  ⟨rfl, h.notices_eq⟩

theorem addTable (h : Skips place d d') (hi : place ≤ index) (t : Table) :
    Skips place (d.addTable (index + 1) text t) (d'.addTable index text t) := by
  rw [Draft.addTable, Draft.addTable, h.schema_eq]
  exact (h.withSchema _).note hi _

/-- **A further statement** does the same with and without the one that is skipped. -/
theorem add (h : Skips place d d') (hi : place ≤ index) (statement : Statement) :
    Skips place (d.add (index + 1) text statement) (d'.add index text statement) := by
  cases statement with
  | createTable c => exact (h.note hi _).addTable hi _
  | alterTable name operations =>
    simp only [Draft.add, h.schema_eq]
    split
    · exact h.note hi _
    · exact (h.withSchema _).note hi _
  | other => exact h

theorem addAll (h : Skips place d d') (hi : place ≤ index) (statements : List Statement) :
    Skips place (d.addAll (index + 1) text statements) (d'.addAll index text statements) := by
  induction statements generalizing d d' with
  | nil => exact h
  | cons s statements ih => exact ih (h.add hi s)

theorem taken (h : Skips place d d') (hi : place ≤ index)
    (outcome : Except ReadFailure (List Statement)) :
    Skips place (d.taken (index + 1) text outcome) (d'.taken index text outcome) := by
  cases outcome with
  | ok statements => exact h.addAll hi statements
  | error failure =>
    cases failure with
    | malformed message => exact h.note hi _
    | fatal message => exact h

/-- So do all further texts of a script. -/
theorem takenAll (h : Skips place d d') (hi : place ≤ index) (reader : StatementReader)
    (texts : List String) :
    Skips place (Draft.takenAll reader d (index + 1) texts)
      (Draft.takenAll reader d' index texts) := by
  induction texts generalizing d d' index with
  | nil => exact h
  | cons text texts ih => exact ih (h.taken hi _) (Nat.le_succ_of_le hi)

theorem finish (h : Skips place d d') : Skips place d.finish d'.finish :=
  ⟨congrArg Schema.resolve h.schema_eq, h.notices_eq⟩

end Skips

/-! ## Leaving a text out -/

theorem skips_takenAll {reader : StatementReader} {before : List String} {text : String}
    (hidle : ∀ s ∈ readAs (reader text), IsIdle (declaredIn reader before) s)
    (after : List String) (name : String) :
    Skips before.length (takenAll reader (empty name) 0 (before ++ text :: after))
      (takenAll reader (empty name) 0 (before ++ after)) := by
  rw [takenAll_append, takenAll_append, Nat.zero_add, takenAll]
  have hkeys : ∀ k, k ∈ declaredIn reader before ↔
      k ∈ (takenAll reader (empty name) 0 before).schema.keys := by
    intro k
    rw [mem_keys_takenAll]
    exact ⟨.inr, fun h => h.elim (fun hk => by cases hk) id⟩
  have hnotices : ∀ n ∈ (takenAll reader (empty name) 0 before).notices,
      n.index < before.length := by
    intro n hn
    have hlt := index_lt_takenAll before (List.forall_mem_nil _) n hn
    omega
  obtain ⟨causes, hcauses⟩ := exists_taken_eq_note before.length text
    fun s hs => (hidle s hs).congr hkeys
  rw [hcauses]
  exact (skips_note hnotices text causes).takenAll (Nat.le_refl _) reader after

/-- **A skipped text may as well not be there.** Let a reader that never breaks down
read a script in which `text` stands between some others, and let it find in it
no statement, or idle ones alone. Joining the others gives a script that is read
to its end as well. It defines the same schema, and the notices are the same but
for those of `text`, with the places after it counted one less. -/
theorem ofScript_join_without {reader : StatementReader} (hreader : IsReliable reader)
    {script text : String} {before after : List String}
    (hscript : Script.statements script = before ++ text :: after)
    (hidle : ∀ s ∈ readAs (reader text), IsIdle (declaredIn reader before) s) :
    ∃ d d', ofScript reader script = .ok d ∧
      ofScript reader (Script.join (before ++ after)) = .ok d' ∧
      d'.schema = d.schema ∧ d'.notices = noticesWithout before.length d.notices := by
  have hjoin : Script.statements (Script.join (before ++ after)) = before ++ after := by
    have hsub : (before ++ after).Sublist (Script.statements script) := by
      rw [hscript]
      exact (List.sublist_cons_self text after).append_left before
    exact Script.statements_join hsub
  have hskips := (skips_takenAll hidle after scriptSchema).finish
  refine ⟨_, _, ofScript_eq_ok hreader script, ofScript_eq_ok hreader _, ?_, ?_⟩
  · rw [hjoin, hscript]
    exact hskips.schema_eq
  · rw [hjoin, hscript]
    exact hskips.notices_eq

/-- A table is declared twice, and another is altered that is not there. -/
theorem ofScript_join_without_repeated :
    let reader := Dialect.reader .generic
    let script := "CREATE TABLE a (x INT);\nCREATE TABLE A (y INT);\nALTER TABLE b ADD UNIQUE (x)"
    let text := "CREATE TABLE A (y INT)"
    let before := ["CREATE TABLE a (x INT)"]
    let after := ["ALTER TABLE b ADD UNIQUE (x)"]
    (IsReliable reader ∧ Script.statements script = before ++ text :: after ∧
      ∀ s ∈ readAs (reader text), IsIdle (declaredIn reader before) s) ∧
    (readAs (reader text)).length = 1 ∧
    ∃ d d', ofScript reader script = .ok d ∧
      ofScript reader (Script.join (before ++ after)) = .ok d' ∧
      d'.schema = d.schema ∧ d'.notices = noticesWithout before.length d.notices := by
  intro reader script text before after
  have hscript : Script.statements script = before ++ text :: after := by decide +kernel
  have hidle : ∀ s ∈ readAs (reader text), IsIdle (declaredIn reader before) s := by
    decide +kernel
  have hlength : (readAs (reader text)).length = 1 := by decide +kernel
  exact ⟨⟨isReliable_reader _, hscript, hidle⟩, hlength,
    ofScript_join_without (isReliable_reader _) hscript hidle⟩

end Draft

end NormalForms
