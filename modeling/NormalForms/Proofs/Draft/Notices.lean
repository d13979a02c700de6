import NormalForms.Proofs.Draft.Skipping

/-!
# What stops a reading, and what is noted of it

A script is read to its end unless the reader breaks down at one of its texts, and
then what is reported is the first such text (`ofScript_eq_error_iff`). Nothing else
stops the reading: whatever is wrong with a text otherwise is noted.

The notices are a record of the texts (`Recorded`). Each one has the place of a text
and repeats it, they stand in the order of the texts, and a text that cannot be read
has one notice, with what the reader says of it. One text more adds notices of that
text alone, at the end (`Recorded.append`), so that this holds of a whole script.
-/

namespace NormalForms

open Sql

namespace Draft

variable {reader : StatementReader}

/-! ## Where the reading stops -/

/-- `b` is about the first of the texts at which the reader breaks down. -/
def BreaksAt (reader : StatementReader) (texts : List String) (b : Breakdown) : Prop :=
  ∃ before text after, texts = before ++ text :: after ∧ Withstands reader before ∧
    reader text = .error (.fatal b.message) ∧ b.index = before.length

theorem takeAll_eq_error {before : List String} {text message : String}
    (hbefore : Withstands reader before) (htext : reader text = .error (.fatal message))
    (d : Draft) (index : Nat) (after : List String) :
    d.takeAll index ((before ++ text :: after).map fun text => (text, reader text)) =
      .error ⟨index + before.length, message⟩ := by
  induction before generalizing d index with
  | nil =>
    rw [List.nil_append, List.map_cons, takeAll, htext]
    rfl
  | cons text' before ih =>
    obtain ⟨htext', hbefore⟩ := List.forall_mem_cons.1 hbefore
    rw [List.cons_append, List.map_cons, takeAll, take_eq_taken htext']
    show takeAll _ (index + 1) _ = _
    rw [ih hbefore, List.length_cons, Nat.add_assoc, Nat.add_comm 1]

/-- Either the reader withstands all of the texts, or there is a first one that it
does not. -/
theorem withstands_or_breaksAt (reader : StatementReader) (texts : List String) :
    Withstands reader texts ∨ ∃ b, BreaksAt reader texts b := by
  induction texts with
  | nil => exact .inl (List.forall_mem_nil _)
  | cons text texts ih =>
    by_cases htext : ∃ message, reader text = .error (.fatal message)
    · obtain ⟨message, htext⟩ := htext
      exact .inr ⟨⟨0, message⟩, [], text, texts, rfl, List.forall_mem_nil _, htext, rfl⟩
    · have hgood : ∀ message, reader text ≠ .error (.fatal message) := not_exists.1 htext
      rcases ih with hall | ⟨b, before, text', after, rfl, hbefore, htext', hindex⟩
      · exact .inl (List.forall_mem_cons.2 ⟨hgood, hall⟩)
      · exact .inr ⟨⟨b.index + 1, b.message⟩, text :: before, text', after, rfl,
          List.forall_mem_cons.2 ⟨hgood, hbefore⟩, htext', congrArg (· + 1) hindex⟩

/-- A script is read to its end if the reader withstands its statements. -/
theorem ofScript_of_withstands {script : String}
    (h : Withstands reader (Script.statements script)) :
    ofScript reader script =
      .ok (takenAll reader (empty scriptSchema) 0 (Script.statements script)).finish := by
  rw [ofScript, ofOutcomes, takeAll_eq_takenAll h]
  rfl

/-- **The reading fails** at the first statement at which the reader breaks down, and
in no other way. -/
theorem ofScript_eq_error_iff {script : String} {b : Breakdown} :
    ofScript reader script = .error b ↔ BreaksAt reader (Script.statements script) b := by
  have hbreak : ∀ {b}, BreaksAt reader (Script.statements script) b →
      ofScript reader script = .error b := by
    rintro ⟨index, message⟩ ⟨before, text, after, htexts, hbefore, htext, rfl⟩
    rw [ofScript, ofOutcomes, htexts, takeAll_eq_error hbefore htext, Nat.zero_add]
    rfl
  constructor
  · intro h
    rcases withstands_or_breaksAt reader (Script.statements script) with hall | ⟨b', hb'⟩
    · rw [ofScript_of_withstands hall] at h
      cases h
    · rw [hbreak hb'] at h
      cases h
      exact hb'
  · exact hbreak

/-! ## What is recorded -/

/-- The notices are a record of the texts that were read. -/
structure Recorded (reader : StatementReader) (texts : List String) (notices : List Notice) :
    Prop where
  ordered : notices.Pairwise fun m n => m.index ≤ n.index
  stated : ∀ n ∈ notices, texts[n.index]? = some n.statement
  unreadable : ∀ i text message, texts[i]? = some text →
    reader text = .error (.malformed message) →
      notices.filter (fun n => n.index == i) = [⟨i, text, .unreadable message⟩]

theorem Recorded.nil (reader : StatementReader) : Recorded reader [] [] where
  ordered := .nil
  stated := List.forall_mem_nil _
  unreadable := fun _ _ _ h => by cases h

theorem Recorded.index_lt {texts : List String} {notices : List Notice}
    (h : Recorded reader texts notices) {n : Notice} (hn : n ∈ notices) :
    n.index < texts.length :=
  (List.getElem?_eq_some_iff.1 (h.stated n hn)).1

/-- **One text more** adds notices of that text at the end. -/
theorem Recorded.append {texts : List String} {notices : List Notice}
    (h : Recorded reader texts notices) (text : String) {causes : List Notice.Cause}
    (hc : ∀ message, reader text = .error (.malformed message) →
      causes = [.unreadable message]) :
    Recorded reader (texts ++ [text])
      (notices ++ causes.map fun cause => ⟨texts.length, text, cause⟩) where
  ordered := by
    refine List.pairwise_append.2 ⟨h.ordered, ?_, fun m hm n hn => ?_⟩
    · exact List.pairwise_map.2 (List.pairwise_of_forall fun _ _ => Nat.le_refl _)
    · obtain ⟨cause, -, rfl⟩ := List.mem_map.1 hn
      exact Nat.le_of_lt (h.index_lt hm)
  stated := by
    refine List.forall_mem_append.2 ⟨fun n hn => ?_, fun n hn => ?_⟩
    · rw [List.getElem?_append_left (h.index_lt hn)]
      exact h.stated n hn
    · obtain ⟨cause, -, rfl⟩ := List.mem_map.1 hn
      exact List.getElem?_concat_length
  unreadable := by
    intro i text' message hi hr
    rw [List.filter_append]
    rcases Nat.lt_or_ge i texts.length with hlt | hge
    · have hold : texts[i]? = some text' := by rwa [List.getElem?_append_left hlt] at hi
      have hnew : (causes.map fun cause => (⟨texts.length, text, cause⟩ : Notice)).filter
          (fun n => n.index == i) = [] := by
        refine List.filter_eq_nil_iff.2 fun n hn => ?_
        obtain ⟨cause, -, rfl⟩ := List.mem_map.1 hn
        simpa using Nat.ne_of_gt hlt
      rw [h.unreadable i text' message hold hr, hnew]
      rfl
    · have hlen : i = texts.length := by
        have hbound := (List.getElem?_eq_some_iff.1 hi).1
        rw [List.length_append, List.length_singleton] at hbound
        omega
      subst hlen
      have htext : text = text' := by simpa using hi
      subst htext
      have hold : notices.filter (fun n => n.index == texts.length) = [] :=
        List.filter_eq_nil_iff.2 fun n hn => by simpa using Nat.ne_of_lt (h.index_lt hn)
      rw [hold, hc message hr]
      simp

/-- What is noted of a text that cannot be read is what the reader says. -/
theorem exists_notices_taken (d : Draft) (index : Nat) (text : String)
    (outcome : Except ReadFailure (List Statement)) :
    ∃ causes, (d.taken index text outcome).notices = (d.note index text causes).notices ∧
      ∀ message, outcome = .error (.malformed message) → causes = [.unreadable message] := by
  cases outcome with
  | ok statements =>
    obtain ⟨causes, hcauses⟩ := exists_notices_addAll d index text statements
    exact ⟨causes, hcauses, fun message h => by cases h⟩
  | error failure =>
    cases failure with
    | malformed message => exact ⟨_, rfl, fun message' h => by cases h; rfl⟩
    | fatal message => exact ⟨[], by rw [note_nil]; rfl, fun message' h => by cases h⟩

theorem recorded_taken {d : Draft} {before : List String} (h : Recorded reader before d.notices)
    {text : String} (ht : Text.trimmed text = text) :
    Recorded reader (before ++ [text]) (d.taken before.length text (reader text)).notices := by
  obtain ⟨causes, hcauses, hc⟩ := exists_notices_taken d before.length text (reader text)
  have happend := h.append text hc
  rw [hcauses, note, ht]
  exact happend

/-- The notices of all texts are a record of them. -/
theorem recorded_takenAll {d : Draft} {before : List String}
    (h : Recorded reader before d.notices) {texts : List String}
    (ht : ∀ text ∈ texts, Text.trimmed text = text) :
    Recorded reader (before ++ texts) (takenAll reader d before.length texts).notices := by
  induction texts generalizing d before with
  | nil => rwa [List.append_nil]
  | cons text texts ih =>
    obtain ⟨htext, htexts⟩ := List.forall_mem_cons.1 ht
    have hstep := ih (recorded_taken h htext) htexts
    rwa [List.append_assoc, List.singleton_append, List.length_append,
      List.length_singleton] at hstep

theorem trimmed_of_mem_statements {script text : String} (h : text ∈ Script.statements script) :
    Text.trimmed text = text := by
  obtain ⟨p, hp, rfl⟩ := List.mem_map.1 h
  obtain ⟨q, -, rfl⟩ := List.mem_map.1 (List.mem_filter.1 hp).1
  rw [Text.trimmed, String.toList_ofList, Text.trim_trim]

/-! ## The schema that is read -/

theorem wellFormed_taken {d : Draft} (h : d.schema.WellFormed) (index : Nat) (text : String)
    (outcome : Except ReadFailure (List Statement)) :
    (d.taken index text outcome).schema.WellFormed := by
  cases outcome with
  | ok statements =>
    show (d.addAll index text statements).schema.WellFormed
    rw [addAll_eq_feed]
    exact wellFormed_feed h _
  | error failure => cases failure <;> exact h

theorem wellFormed_takenAll {d : Draft} (h : d.schema.WellFormed) (index : Nat)
    (texts : List String) : (takenAll reader d index texts).schema.WellFormed := by
  induction texts generalizing d index with
  | nil => exact h
  | cons text texts ih => exact ih (wellFormed_taken h index text (reader text)) (index + 1)

theorem assessScript_eq_error_iff {script : String} {f : AssessmentFault} :
    assessScript reader script = .error f ↔ ofScript reader script = .error f.cause := by
  obtain ⟨cause, message, rfl⟩ := f
  unfold assessScript
  cases ofScript reader script with
  | ok d => simp
  | error b =>
    simp only [Except.error.injEq, AssessmentFault.mk.injEq]
    exact ⟨And.left, fun h => ⟨h, congrArg Breakdown.text h⟩⟩

/-- **Whatever the reader and the script.** The reading fails if the reader breaks down
at a statement, with the place and the message of the first one. So does the
assessment of the script: its fault has the breakdown for its cause, repeats what is
said of that, and adds nothing but that the assessment failed. Otherwise there is a
draft, with notices that are a record of the statements and a schema that is well
formed and linked. -/
theorem ofScript_fails_or_records (reader : StatementReader) (script : String) :
    ((∃ b, ofScript reader script = .error b) ↔
      ∃ text ∈ Script.statements script, ∃ message, reader text = .error (.fatal message)) ∧
    (∀ b, ofScript reader script = .error b ↔ BreaksAt reader (Script.statements script) b) ∧
    (∀ f, assessScript reader script = .error f ↔ ofScript reader script = .error f.cause) ∧
    (∀ f, assessScript reader script = .error f →
      f.message = f.cause.text ∧ f.text = "Failed to analyze schema: " ++ f.cause.text) ∧
    (Withstands reader (Script.statements script) →
      ∃ d, ofScript reader script = .ok d ∧ assessScript reader script = .ok d.assess ∧
        Recorded reader (Script.statements script) d.notices ∧
        (∀ n ∈ d.notices, n.index < (Script.statements script).length) ∧
        d.schema.WellFormed ∧ d.schema.Linked) := by
  refine ⟨⟨?_, ?_⟩, fun b => ofScript_eq_error_iff, fun f => assessScript_eq_error_iff,
    fun f _ => ⟨f.told, congrArg ("Failed to analyze schema: " ++ ·) f.told⟩, fun h => ?_⟩
  · rintro ⟨b, hb⟩
    obtain ⟨before, text, after, htexts, -, htext, -⟩ := ofScript_eq_error_iff.1 hb
    exact ⟨text, by rw [htexts]; simp, b.message, htext⟩
  · rintro ⟨text, hmem, message, htext⟩
    rcases withstands_or_breaksAt reader (Script.statements script) with hall | ⟨b, hb⟩
    · exact absurd htext (hall text hmem message)
    · exact ⟨b, ofScript_eq_error_iff.2 hb⟩
  · have hdraft := ofScript_of_withstands h
    have hwell : (takenAll reader (empty scriptSchema) 0
        (Script.statements script)).schema.WellFormed :=
      wellFormed_takenAll (.empty scriptSchema) 0 _
    have hrecord : Recorded reader (Script.statements script)
        (takenAll reader (empty scriptSchema) 0 (Script.statements script)).notices :=
      recorded_takenAll (d := empty scriptSchema) (Recorded.nil reader)
        fun text ht => trimmed_of_mem_statements ht
    generalize takenAll reader (empty scriptSchema) 0 (Script.statements script) = d
      at hdraft hwell hrecord
    refine ⟨d.finish, hdraft, ?_, hrecord, fun n hn => hrecord.index_lt hn, hwell.resolve,
      hwell.linked_resolve⟩
    rw [assessScript, hdraft]

/-- A table of which a column, a key and a foreign key are refused. -/
def crates : CreateTable where
  name := ⟨[⟨"crates", none⟩]⟩
  columns := [
    { name := ⟨"id", none⟩, type := .plain "INT", options := [(none, .primaryKey)] },
    { name := ⟨"id", none⟩, type := .plain "TEXT" }]
  constraints := [.primaryKey none [],
    .foreignKey none [⟨"id", none⟩] ⟨[⟨"crates", none⟩]⟩ [⟨"id", none⟩, ⟨"id", none⟩]]

/-- A reader that knows two statements, breaks down at one text and does not understand
the others. -/
def moody : StatementReader := fun text =>
  if text = "b" then .error (.fatal "gone")
  else if text = "t" then .ok [.createTable crates]
  else if text = "u" then .ok [.alterTable ⟨[⟨"barrels", none⟩]⟩ [], .other]
  else .error (.malformed "odd")

/-- What is left out of "t;c;u;t": elements of a table, a text that is not understood, an
alteration of a table that is not there, and the same table declared again. -/
def leftOut : List (Nat × Notice.Cause) := [
  (0, .rejected (.duplicateColumn "crates" "id")),
  (0, .rejected (.secondPrimaryKey "crates")),
  (0, .rejected (.unpairedForeignKey "crates" 1 2)),
  (1, .unreadable "odd"),
  (2, .unknownTable "barrels"),
  (3, .rejected (.duplicateColumn "crates" "id")),
  (3, .rejected (.secondPrimaryKey "crates")),
  (3, .rejected (.unpairedForeignKey "crates" 1 2)),
  (3, .rejected (.duplicateTable "crates"))]

theorem withstands_moody {texts : List String} (hb : "b" ∉ texts) : Withstands moody texts := by
  intro text htext message
  rw [moody, if_neg (ne_of_mem_of_not_mem htext hb)]
  repeat' split
  all_goals simp

theorem kept_leftOut : (ofScript moody "t;c;u;t").map (fun d =>
    (d.schema.tables, d.notices.map fun n => (n.index, n.cause))) =
      .ok ([(tableOf crates).1], leftOut) := by
  decide +kernel

/-- Such a reader stops at the first text that it breaks down at. Where there is none it
leaves a record of all that was left out. -/
theorem ofScript_fails_or_records_moody :
    (∃ f, assessScript moody "t;b;c;b" = .error f ∧ f.cause = ⟨1, "gone"⟩ ∧
      f.text = "Failed to analyze schema: statement #1: gone") ∧
    ∃ d, ofScript moody "t;c;u;t" = .ok d ∧ Recorded moody ["t", "c", "u", "t"] d.notices ∧
      d.schema.WellFormed ∧ d.schema.tables = [(tableOf crates).1] ∧
      d.notices.map (fun n => (n.index, n.cause)) = leftOut := by
  have hstop : Script.statements "t;b;c;b" = ["t", "b", "c", "b"] := by decide +kernel
  have hread : Script.statements "t;c;u;t" = ["t", "c", "u", "t"] := by decide +kernel
  constructor
  · obtain ⟨-, hfirst, hassess, htext, -⟩ := ofScript_fails_or_records moody "t;b;c;b"
    rw [hstop] at hfirst
    have hfault : assessScript moody "t;b;c;b" = .error { cause := ⟨1, "gone"⟩ } :=
      (hassess _).2 ((hfirst _).2
        ⟨["t"], "b", ["c", "b"], rfl, withstands_moody (by decide), rfl, rfl⟩)
    exact ⟨_, hfault, rfl, (htext _ hfault).2.trans (by decide +kernel)⟩
  · obtain ⟨-, -, -, -, hrecord⟩ := ofScript_fails_or_records moody "t;c;u;t"
    rw [hread] at hrecord
    obtain ⟨d, hd, -, hnotices, -, hwell, -⟩ := hrecord (withstands_moody (by decide))
    have hkept := kept_leftOut
    rw [hd] at hkept
    injection hkept with hkept
    exact ⟨d, hd, hnotices, hwell, congrArg Prod.fst hkept, congrArg Prod.snd hkept⟩

end Draft

end NormalForms
