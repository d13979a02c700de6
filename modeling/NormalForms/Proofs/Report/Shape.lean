import NormalForms.Proofs.Report.Reading
import NormalForms.Reading

/-!
# The number of lines of a report

A report has one line for each table, finding and notice besides its headings, and
what stands in a cell adds none. A message is written as it is, though, and it may
take over texts of the script or of its reader: each line break in these makes the
report longer by a line (`length_lines_render`).
-/

namespace NormalForms

open Text Script

/-! ## Line breaks of a text -/

namespace Text

theorem length_extend {c : Char} {ps : List (List Char)} (h : ps ≠ []) :
    (extend c ps).length = ps.length := by
  cases ps with
  | nil => exact absurd rfl h
  | cons p ps => rfl

/-- Each place to cut at makes one more piece. -/
theorem length_fields (cut : Char → Bool) (cs : List Char) :
    (fields cut cs).length = cs.countP cut + 1 := by
  induction cs with
  | nil => rfl
  | cons c cs ih =>
    cases hc : cut c with
    | true => simp [fields, hc, ih]
    | false => simp [fields, hc, length_extend (fields_ne_nil cut cs), ih]

end Text

/-- The number of line feeds and carriage returns in a text. -/
def lineBreaks (s : String) : Nat := s.toList.countP isLineBreak

theorem length_lines (s : String) : (lines s).length = lineBreaks s + 1 := by
  rw [lines, List.length_map, length_fields, lineBreaks]

theorem lineBreaks_append (s t : String) : lineBreaks (s ++ t) = lineBreaks s + lineBreaks t := by
  rw [lineBreaks, String.toList_append, List.countP_append]
  rfl

theorem lineBreaks_eq_zero_iff {s : String} : lineBreaks s = 0 ↔ HasNoBreak s.toList := by
  rw [lineBreaks, List.countP_eq_zero]
  simp only [HasNoBreak, Bool.not_eq_true]

theorem lineBreaks_eq_zero {s : String} (h : HasNoBreak s.toList) : lineBreaks s = 0 :=
  lineBreaks_eq_zero_iff.2 h

theorem lineBreaks_repr (n : Nat) : lineBreaks n.repr = 0 :=
  lineBreaks_eq_zero fun c hc => (Report.isPlain_repr n c hc).2

theorem lineBreaks_join_append (ss ss' : List String) : lineBreaks (String.join (ss ++ ss')) =
    lineBreaks (String.join ss) + lineBreaks (String.join ss') := by
  rw [lineBreaks, String.toList_join, List.flatMap_append, List.countP_append, ← String.toList_join,
    ← String.toList_join]
  rfl

theorem lineBreaks_join_cons (s : String) (ss : List String) :
    lineBreaks (String.join (s :: ss)) = lineBreaks s + lineBreaks (String.join ss) := by
  rw [lineBreaks, String.toList_join, List.flatMap_cons, List.countP_append, ← String.toList_join]
  rfl

theorem hasNoBreak_join {ss : List String} :
    HasNoBreak (String.join ss).toList ↔ ∀ s ∈ ss, HasNoBreak s.toList := by
  simp only [HasNoBreak, String.toList_join, List.mem_flatMap, forall_exists_index, and_imp]
  exact ⟨fun h s hs c hc => h c s hs hc, fun h c s hs hc => h s hs c hc⟩

/-! ## Line breaks of a message -/

/-- The texts of the script that a message takes over. -/
def Rejection.quotes : Rejection → List String
  | duplicateTable table => [table]
  | duplicateColumn table column => [column, table]
  | secondPrimaryKey table => [table]
  | unpairedForeignKey table _ _ => [table]

theorem Rejection.lineBreaks_message (r : Rejection) :
    lineBreaks r.message = lineBreaks (String.join r.quotes) := by
  cases r <;> unfold Rejection.message <;>
    simp (disch := decide) only [Rejection.quotes, lineBreaks_append, lineBreaks_repr,
      lineBreaks_eq_zero, lineBreaks_join_cons, Nat.zero_add, Nat.add_zero]

/-- The texts of the script, and of its reader, that a message takes over. -/
def Notice.Cause.quotes : Notice.Cause → List String
  | unreadable message => [message]
  | rejected reason => reason.quotes
  | unknownTable name => [name]

theorem Notice.Cause.lineBreaks_message (c : Notice.Cause) :
    lineBreaks c.message = lineBreaks (String.join c.quotes) := by
  cases c with
  | unreadable message => exact (Nat.add_zero _).symm
  | rejected reason => exact reason.lineBreaks_message
  | unknownTable name =>
    unfold Notice.Cause.message
    simp (disch := decide) only [Notice.Cause.quotes, lineBreaks_append, lineBreaks_eq_zero,
      lineBreaks_join_cons, Nat.zero_add, Nat.add_zero]

namespace Report

/-! ## Lines of the parts -/

theorem length_lines_noticeItem (n : Notice) :
    (Text.lines (noticeItem n)).length = 1 + lineBreaks (String.join n.cause.quotes) := by
  have hitem : lineBreaks (noticeItem n) = lineBreaks (String.join n.cause.quotes) := by
    unfold noticeItem
    simp (disch := decide) only [lineBreaks_append, lineBreaks_repr, lineBreaks_eq_zero,
      Nat.zero_add]
    exact n.cause.lineBreaks_message
  rw [length_lines, hitem, Nat.add_comm]

/-- The lines of a table of so many rows, or of the text that there is none. -/
def bodyLines (rows : Nat) : Nat := if rows = 0 then 1 else rows + 2

theorem length_tableBody (none head ruler : String) (rows : List String) :
    (tableBody none head ruler rows).length = bodyLines rows.length := by
  cases rows with
  | nil => rfl
  | cons row rows => rfl

/-- The lines of a report of so many tables, findings against each form, and notices: the
front, the heading of the tables and the end of the last line are seven, the heading of a
form with the blank lines around it three. -/
def lineCount (tables : Nat) (findings : Form → Nat) (notices : Nat) : Nat :=
  7 + bodyLines tables + (3 + bodyLines (findings .first)) + (3 + bodyLines (findings .second)) +
    (3 + bodyLines (findings .third)) + if notices = 0 then 0 else 3 + notices

theorem length_lines_tablePart (a : Assessment) :
    ((tablePart a).flatMap Text.lines).length = 2 + bodyLines a.schema.tables.length := by
  rw [flatMap_lines_tablePart, tablePart_eq, tableSection, List.length_cons, List.length_cons,
    length_tableBody, List.length_map]
  omega

theorem length_lines_formPart (a : Assessment) (form : Form) :
    ((formPart a form).flatMap Text.lines).length = 3 + bodyLines (a.findings form).length := by
  rw [flatMap_lines_formPart, formPart_eq, formSection, List.length_cons, List.length_cons,
    List.length_cons, length_tableBody, List.length_map]
  omega

theorem length_lines_formParts (a : Assessment) :
    ((Form.all.flatMap (formPart a)).flatMap Text.lines).length =
      (3 + bodyLines (a.findings .first).length) + (3 + bodyLines (a.findings .second).length) +
        (3 + bodyLines (a.findings .third).length) := by
  have hforms : Form.all.flatMap (formPart a) =
      formPart a .first ++ (formPart a .second ++ (formPart a .third ++ [])) := rfl
  rw [hforms, List.append_nil, List.flatMap_append, List.flatMap_append, List.length_append,
    List.length_append, length_lines_formPart, length_lines_formPart, length_lines_formPart]
  omega

/-- The texts that the messages of some notices take over. -/
def quotes (ns : List Notice) : List String := ns.flatMap fun n => n.cause.quotes

/-- The items alone may take more than one line each. -/
theorem length_lines_noticeItems (ns : List Notice) :
    ((ns.map noticeItem).flatMap Text.lines).length =
      ns.length + lineBreaks (String.join (quotes ns)) := by
  induction ns with
  | nil => rfl
  | cons n ns ih =>
    rw [List.map_cons, List.flatMap_cons, List.length_append, ih, length_lines_noticeItem,
      List.length_cons, quotes, quotes, List.flatMap_cons, lineBreaks_join_append]
    omega

theorem length_lines_noticePart (a : Assessment) :
    ((noticePart a).flatMap Text.lines).length =
      (if a.notices.length = 0 then 0 else 3 + a.notices.length) +
        lineBreaks (String.join (quotes a.notices)) := by
  have hitems := length_lines_noticeItems a.notices
  have hhead : (["", "## Parse Warnings", ""].flatMap Text.lines).length = 3 := rfl
  unfold noticePart
  cases hn : a.notices with
  | nil => rfl
  | cons n ns =>
    rw [hn] at hitems
    show ((["", "## Parse Warnings", ""] ++ (n :: ns).map noticeItem).flatMap Text.lines).length = _
    rw [List.flatMap_append, List.length_append, hhead, hitems, List.length_cons, if_neg (by omega)]
    omega

theorem length_lines_render (a : Assessment) : (Text.lines (render a)).length =
    lineCount a.schema.tables.length (fun form => (a.findings form).length) a.notices.length +
      lineBreaks (String.join (quotes a.notices)) := by
  have hparts : parts a =
      front a ++ tablePart a ++ Form.all.flatMap (formPart a) ++ noticePart a := rfl
  have hfront : (front a).length = 4 := rfl
  rw [render, lines_join_feed, hparts, List.flatMap_append, List.flatMap_append,
    List.flatMap_append, List.length_append, List.length_append, List.length_append,
    List.length_append, flatMap_lines_front, hfront, length_lines_tablePart,
    length_lines_formParts, length_lines_noticePart, List.length_singleton, lineCount]
  omega

/-- **A report has as many lines as its parts ask for**, and one more for each line break
in the texts that its messages take over. So the numbers of tables, findings and notices
fix the number of lines just if no such text holds a break, whatever the names are that
stand in the tables of the report. -/
theorem lines_counted (a : Assessment) :
    (Text.lines (render a)).length =
        lineCount a.schema.tables.length (fun form => (a.findings form).length)
            a.notices.length + lineBreaks (String.join (quotes a.notices)) ∧
      ((Text.lines (render a)).length =
          lineCount a.schema.tables.length (fun form => (a.findings form).length)
            a.notices.length ↔
        ∀ n ∈ a.notices, ∀ text ∈ n.cause.quotes, HasNoBreak text.toList) := by
  refine ⟨length_lines_render a, ?_⟩
  rw [length_lines_render, Nat.add_eq_left, lineBreaks_eq_zero_iff, hasNoBreak_join, quotes,
    List.forall_mem_flatMap]

/-- A name of two lines makes the report of a statement longer. -/
theorem exists_longer_report : ∃ a b,
    assessScript (Dialect.reader .generic) "ALTER TABLE a ADD UNIQUE (x)" = .ok a ∧
    assessScript (Dialect.reader .generic) "ALTER TABLE \"a\nb\" ADD UNIQUE (x)" = .ok b ∧
    a.schema.tables.length = b.schema.tables.length ∧
    (∀ form, (a.findings form).length = (b.findings form).length) ∧
    a.notices.length = b.notices.length ∧
    (Text.lines (render a)).length ≠ (Text.lines (render b)).length := by
  refine ⟨⟨{ name := "parsed_schema" }, some .third, [], [], [],
      [⟨0, "ALTER TABLE a ADD UNIQUE (x)", .unknownTable "a"⟩]⟩,
    ⟨{ name := "parsed_schema" }, some .third, [], [], [],
      [⟨0, "ALTER TABLE \"a\nb\" ADD UNIQUE (x)", .unknownTable "a\nb"⟩]⟩,
    by decide +kernel, by decide +kernel, rfl, fun form => ?_, rfl, ?_⟩
  · cases form <;> rfl
  · rw [length_lines_render, length_lines_render]
    decide

end Report

end NormalForms
