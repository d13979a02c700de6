import Mathlib.Data.List.Basic
import NormalForms.Proofs.Remedy.Layout
import NormalForms.Report

/-!
# Reading a report back

A reader of a report finds a table under its heading, as the lines that begin with a
vertical bar, and cuts a row of it at the bars that no backslash stands before. Whatever
the names and texts of an assessment, the rows are those of its tables and its findings,
and cell by cell they say what is in these, with line breaks as spaces.
-/

namespace NormalForms.Report

open Text Script

/-! ## Rows -/

/-- The pieces of a row between the vertical bars that do not follow a backslash. The flag
says whether the character before does. -/
def cutBars (escaped : Bool) : List Char → List (List Char)
  | [] => [[]]
  | c :: cs =>
    if c = '|' ∧ escaped = false then [] :: cutBars false cs
    else extend c (cutBars (c == '\\') cs)

/-- A piece without the space on each side. -/
def unpadded? : List Char → Option (List Char)
  | ' ' :: cs => if cs.getLast? = some ' ' then some cs.dropLast else none
  | _ => none

/-- Reads a bar after a backslash as a bar. -/
def unescape : List Char → List Char
  | [] => []
  | '\\' :: '|' :: cs => '|' :: unescape cs
  | c :: cs => c :: unescape cs

/-- The cells of a row, which begins and ends with a bar. -/
def readRow? (line : String) : Option (List String) :=
  match cutBars false line.toList with
  | [] :: pieces =>
    if pieces.getLast? = some [] then
      (pieces.dropLast.mapM unpadded?).map (·.map fun cs => String.ofList (unescape cs))
    else none
  | _ => none

/-- The characters of a cell. -/
def escape (cs : List Char) : List Char :=
  cs.flatMap fun c => if c = '|' then ['\\', '|'] else [breakToSpace c]

theorem escape_cons_bar (cs : List Char) : escape ('|' :: cs) = '\\' :: '|' :: escape cs := rfl

theorem escape_cons {c : Char} (h : c ≠ '|') (cs : List Char) :
    escape (c :: cs) = breakToSpace c :: escape cs := by
  rw [escape, List.flatMap_cons, if_neg h]
  rfl

theorem breakToSpace_ne_bar {c : Char} (h : c ≠ '|') : breakToSpace c ≠ '|' := by
  unfold breakToSpace
  split
  · decide
  · exact h

/-- No bar of a cell is a place to cut: the cell goes on to the bar after its space. -/
theorem cutBars_escape (escaped : Bool) (cs rest : List Char) :
    cutBars escaped (escape cs ++ ' ' :: '|' :: rest) =
      (escape cs ++ [' ']) :: cutBars false rest := by
  induction cs generalizing escaped with
  | nil => rfl
  | cons c cs ih =>
    by_cases hbar : c = '|'
    · subst hbar
      rw [escape_cons_bar, List.cons_append, List.cons_append, cutBars,
        if_neg fun h => absurd h.1 (by decide), cutBars, if_neg fun h => absurd h.2 (by decide), ih]
      rfl
    · rw [escape_cons hbar, List.cons_append, cutBars,
        if_neg fun h => breakToSpace_ne_bar hbar h.1, ih]
      rfl

theorem escape_ne_bar_cons (cs ds : List Char) : escape cs ≠ '|' :: ds := by
  cases cs with
  | nil => exact (List.cons_ne_nil _ _).symm
  | cons c cs =>
    by_cases hbar : c = '|'
    · subst hbar
      rw [escape_cons_bar]
      exact fun h => absurd (List.cons.inj h).1 (by decide)
    · rw [escape_cons hbar]
      exact fun h => breakToSpace_ne_bar hbar (List.cons.inj h).1

/-- **What is written in a cell can be read**, but for line breaks. -/
theorem unescape_escape (cs : List Char) : unescape (escape cs) = cs.map breakToSpace := by
  induction cs with
  | nil => rfl
  | cons c cs ih =>
    by_cases hbar : c = '|'
    · subst hbar
      rw [escape_cons_bar, unescape, ih]
      rfl
    · -- a backslash of the text stands before no bar of it
      rw [escape_cons hbar, unescape, ih]
      · rfl
      · exact fun ds _ h => escape_ne_bar_cons cs ds h

/-- A cell with a space on each side. -/
def padded (s : String) : List Char := ' ' :: (escape s.toList ++ [' '])

theorem unpadded?_padded (s : String) : unpadded? (padded s) = some (escape s.toList) := by
  rw [padded, unpadded?, List.getLast?_concat, if_pos rfl, List.dropLast_concat]

/-- The characters of a row: a bar, and then each cell with another one after it. -/
theorem toList_row (s : String) (ss : List String) :
    (row ((s :: ss).map cell)).toList = '|' :: (s :: ss).flatMap fun s => padded s ++ ['|'] := by
  have hcells : (String.intercalate " | " ((s :: ss).map cell)).toList ++ [' ', '|'] =
      escape s.toList ++ [' ', '|'] ++ ss.flatMap fun s => padded s ++ ['|'] := by
    induction ss generalizing s with
    | nil => simp [escape]
    | cons t ss ih =>
      rw [List.map_cons, List.map_cons, String.intercalate_cons_cons, ← List.map_cons,
        String.toList_append, List.append_assoc, ih t, List.flatMap_cons]
      simp [escape, padded]
  have hend : " |".toList = [' ', '|'] := rfl
  rw [row, String.toList_append, String.toList_append, List.append_assoc, hend, hcells]
  simp [padded]

theorem cutBars_padded (s : String) (rest : List Char) :
    cutBars false (padded s ++ '|' :: rest) = padded s :: cutBars false rest := by
  rw [padded, List.cons_append, List.append_assoc, List.singleton_append, cutBars,
    if_neg fun h => absurd h.1 (by decide), cutBars_escape]
  rfl

theorem cutBars_cells (ss : List String) :
    cutBars false (ss.flatMap fun s => padded s ++ ['|']) = ss.map padded ++ [[]] := by
  induction ss with
  | nil => rfl
  | cons s ss ih =>
    rw [List.flatMap_cons, List.append_assoc, List.singleton_append, cutBars_padded, ih,
      List.map_cons, List.cons_append]

theorem mapM_unpadded? (ss : List String) :
    (ss.map padded).mapM unpadded? = some (ss.map fun s => escape s.toList) := by
  induction ss with
  | nil => rfl
  | cons s ss ih =>
    rw [List.map_cons, List.mapM_cons, ih, unpadded?_padded]
    rfl

/-- **A row is read back** cell by cell, with line breaks as spaces. -/
theorem readRow?_row (s : String) (ss : List String) :
    readRow? (row ((s :: ss).map cell)) = some ((s :: ss).map oneLine) := by
  have hcut : cutBars false (row ((s :: ss).map cell)).toList =
      [] :: ((s :: ss).map padded ++ [[]]) := by
    rw [toList_row, cutBars, if_pos ⟨rfl, rfl⟩, cutBars_cells]
  have hread : ∀ t : String, String.ofList (unescape (escape t.toList)) = oneLine t := by
    intro t
    rw [unescape_escape, ← toList_oneLine, String.ofList_toList]
  rw [readRow?, hcut]
  simp only [List.getLast?_concat, List.dropLast_concat, if_pos, mapM_unpadded?, Option.map_some,
    List.map_map]
  exact congrArg some (List.map_congr_left fun t _ => hread t)

example : readRow? (row [cell "a\\|b", cell "|\r\n "]) = some ["a\\|b", "|   "] := by decide +kernel

/-! ## Rows of an assessment -/

/-- A text that stands in a cell as it is. -/
def IsPlain (s : String) : Prop := ∀ c ∈ s.toList, c ≠ '|' ∧ isLineBreak c = false

section IsPlain

variable {s : String}

theorem IsPlain.oneLine_eq (h : IsPlain s) : oneLine s = s :=
  oneLine_eq_self fun c hc => (h c hc).2

theorem IsPlain.cell_eq (h : IsPlain s) : cell s = s := by
  refine String.toList_inj.1 ?_
  rw [toList_cell]
  refine (List.flatMap_congr fun c hc => ?_).trans (List.flatMap_singleton' s.toList)
  rw [if_neg (h c hc).1, breakToSpace, (h c hc).2]
  rfl

end IsPlain

theorem isPlain_repr (n : Nat) : IsPlain n.repr := by
  intro c hc
  rw [Nat.repr, String.toList_ofList] at hc
  have hdigit := Nat.isDigit_of_mem_toDigits (b := 10) (by decide) (by decide) hc
  refine ⟨?_, Bool.eq_false_iff.2 fun hbreak => ?_⟩
  · rintro rfl
    exact absurd hdigit (by decide)
  · rcases Bool.or_eq_true_iff.1 hbreak with hbreak | hbreak <;>
      rw [eq_of_beq hbreak] at hdigit <;> exact absurd hdigit (by decide)

theorem isPlain_title (kind : Finding.Kind) : IsPlain kind.title := by
  cases kind <;> simp [IsPlain, Finding.Kind.title, isLineBreak]

theorem tableRow_eq (t : Table) : tableRow t =
    row ([t.name, t.columns.length.repr, keyLabel t, t.foreignKeys.length.repr].map cell) := by
  simp only [tableRow, List.map_cons, List.map_nil, (isPlain_repr _).cell_eq]

theorem findingRow_eq (f : Finding) : findingRow f =
    row ([f.table, f.columnText?.getD "", f.kind.title, f.description,
      f.suggestion?.getD ""].map cell) := by
  simp only [findingRow, List.map_cons, List.map_nil, (isPlain_title _).cell_eq]

/-- What a row says of a table. -/
def tableCells (t : Table) : List String :=
  [oneLine t.name, t.columns.length.repr, oneLine (keyLabel t), t.foreignKeys.length.repr]

/-- What a row says of a finding. -/
def findingCells (f : Finding) : List String :=
  [oneLine f.table, oneLine (f.columnText?.getD ""), f.kind.title, oneLine f.description,
    oneLine (f.suggestion?.getD "")]

theorem readRow?_tableRow (t : Table) : readRow? (tableRow t) = some (tableCells t) := by
  rw [tableRow_eq, readRow?_row]
  simp only [List.map_cons, List.map_nil, (isPlain_repr _).oneLine_eq, tableCells]

theorem readRow?_findingRow (f : Finding) : readRow? (findingRow f) = some (findingCells f) := by
  rw [findingRow_eq, readRow?_row]
  simp only [List.map_cons, List.map_nil, (isPlain_title _).oneLine_eq, findingCells]

/-! ## Sections -/

def isHeading (line : String) : Bool := startsWith line "## "

def isRow (line : String) : Bool := startsWith line "|"

/-- The lines under a heading, up to the next one. -/
def linesUnder (heading : String) (ls : List String) : List String :=
  ((ls.dropWhile (· != heading)).drop 1).takeWhile fun line => !isHeading line

/-- The lines of the table under a heading of the report. -/
def tableUnder (heading report : String) : List String :=
  (linesUnder heading (lines report)).filter isRow

/-- A heading and the lines under it, which stand between blank ones. -/
structure Section where
  heading : String
  body : List String

/-- Lines without a heading. -/
def IsLead (ls : List String) : Prop := ∀ line ∈ ls, isHeading line = false

namespace Section

def lines (s : Section) : List String := s.heading :: "" :: (s.body ++ [""])

theorem isLead_tail {s : Section} (h : IsLead s.body) : IsLead ("" :: (s.body ++ [""])) :=
  List.forall_mem_cons.2 ⟨rfl, List.forall_mem_append.2 ⟨h, List.forall_mem_singleton.2 rfl⟩⟩

end Section

/-- **A section is found** under its heading, if no section before has the same heading. -/
theorem linesUnder_section {front : List String} {before after : List Section} {s : Section}
    (hfront : IsLead front) (hheadings : ∀ u ∈ s :: after, isHeading u.heading = true)
    (hbodies : ∀ u ∈ before ++ [s], IsLead u.body)
    (hnew : ∀ u ∈ before, u.heading ≠ s.heading) :
    linesUnder s.heading (front ++ (before ++ s :: after).flatMap Section.lines) =
      "" :: (s.body ++ [""]) := by
  obtain ⟨hheading, hafter⟩ := List.forall_mem_cons.1 hheadings
  obtain ⟨hbefore, hbody⟩ := List.forall_mem_append.1 hbodies
  have hother : ∀ line, isHeading line = false → (line != s.heading) = true := by
    rintro line hline
    refine bne_iff_ne.2 ?_
    rintro rfl
    rw [hheading] at hline
    cases hline
  have hearlier : ∀ line ∈ front ++ before.flatMap Section.lines, (line != s.heading) = true := by
    refine List.forall_mem_append.2 ⟨fun line hline => hother line (hfront line hline), ?_⟩
    intro line hline
    obtain ⟨u, hu, hline⟩ := List.mem_flatMap.1 hline
    rcases List.mem_cons.1 hline with rfl | hline
    · exact bne_iff_ne.2 (hnew u hu)
    · exact hother line (Section.isLead_tail (hbefore u hu) line hline)
  have hunder : ∀ line ∈ "" :: (s.body ++ [""]), (!isHeading line) = true := fun line hline => by
    rw [Section.isLead_tail (hbody s List.mem_cons_self) line hline]
    rfl
  have hnext : (after.flatMap Section.lines).takeWhile (fun line => !isHeading line) = [] := by
    cases after with
    | nil => rfl
    | cons u us =>
      rw [List.flatMap_cons, Section.lines, List.cons_append, List.takeWhile_cons,
        hafter u List.mem_cons_self]
      rfl
  rw [linesUnder, List.flatMap_append, ← List.append_assoc, List.dropWhile_append_of_pos hearlier,
    List.flatMap_cons, Section.lines, List.cons_append, List.dropWhile_cons_of_neg (by simp),
    List.drop_one, List.tail_cons, List.takeWhile_append_of_pos hunder, hnext, List.append_nil]

/-! ## The sections of a report -/

/-- A table in Markdown, or a line that says that there is none. -/
def tableBody (none head ruler : String) (rows : List String) : List String :=
  if rows.isEmpty then [none] else head :: ruler :: rows

def tableHead : String := "| Table | Columns | Primary key | Foreign keys |"

def tableRuler : String := "|-------|---------|-------------|--------------|"

def tableSection (a : Assessment) : Section where
  heading := "## Tables"
  body := tableBody "_No tables found._" tableHead tableRuler (a.schema.tables.map tableRow)

def formHeading (form : Form) : String := "## " ++ form.label ++ " Issues"

def findingHead : String := "| Table | Column(s) | Kind | Finding | Suggestion |"

def findingRuler : String := "|-------|-----------|------|---------|------------|"

def formSection (a : Assessment) (form : Form) : Section where
  heading := formHeading form
  body := tableBody "_None._" findingHead findingRuler ((a.findings form).map findingRow)

/-- The notices, whose messages may take several lines. -/
def noticeSections (a : Assessment) : List Section :=
  if a.notices.isEmpty then []
  else [{ heading := "## Parse Warnings", body := (a.notices.map noticeItem).flatMap Text.lines }]

/-- The sections that show a table. -/
def tableSections (a : Assessment) : List Section :=
  tableSection a :: Form.all.map (formSection a)

def sections (a : Assessment) : List Section := tableSections a ++ noticeSections a

/-- The lines before the first heading. -/
def front (a : Assessment) : List String :=
  ["# Schema Normalization Report", "", "**Achieved normal form:** " ++ a.label, ""]

theorem tablePart_eq (a : Assessment) :
    tablePart a = (tableSection a).heading :: "" :: (tableSection a).body := by
  simp only [tablePart, tableSection, tableBody, tableHead, tableRuler, List.isEmpty_map]

theorem formPart_eq (a : Assessment) (form : Form) :
    formPart a form = "" :: (formSection a form).heading :: "" :: (formSection a form).body := by
  simp only [formPart, formSection, formHeading, tableBody, findingHead, findingRuler,
    List.isEmpty_map]

/-! ## Lines of a report -/

/-- A line of a table in Markdown. -/
structure IsRowLine (line : String) : Prop where
  hasNoBreak : HasNoBreak line.toList
  isRow : isRow line = true

/-- A line that is neither a heading nor of a table. -/
structure IsTextLine (line : String) : Prop where
  hasNoBreak : HasNoBreak line.toList
  isHeading : isHeading line = false
  isRow : isRow line = false

theorem isHeading_of_isRow {line : String} (h : isRow line = true) : isHeading line = false := by
  refine Bool.eq_false_iff.2 fun hheading => ?_
  obtain ⟨cs, hcs⟩ := List.isPrefixOf_iff_prefix.1 h
  obtain ⟨ds, hds⟩ := List.isPrefixOf_iff_prefix.1 hheading
  rw [← hcs] at hds
  exact absurd (List.cons.inj hds).1 (by decide)

theorem hasNoBreak_escape_cell (cs : List Char) : HasNoBreak (escape cs) := by
  intro c hc
  obtain ⟨d, -, hc⟩ := List.mem_flatMap.1 hc
  split at hc
  · simp only [List.mem_cons, List.not_mem_nil, or_false] at hc
    rcases hc with rfl | rfl <;> rfl
  · cases List.mem_singleton.1 hc
    exact isLineBreak_breakToSpace d

/-- Every row is one line. -/
theorem isRowLine_row (s : String) (ss : List String) : IsRowLine (row ((s :: ss).map cell)) := by
  refine ⟨?_, ?_⟩
  · rw [toList_row, hasNoBreak_cons]
    refine ⟨rfl, fun c hc => ?_⟩
    obtain ⟨t, -, hc⟩ := List.mem_flatMap.1 hc
    have hcell : HasNoBreak (padded t ++ ['|']) := by
      simp [padded, hasNoBreak_escape_cell, isLineBreak]
    exact hcell c hc
  · rw [isRow, startsWith, toList_row]
    rfl

/-- Lines that hold no break are not cut. -/
theorem flatMap_lines {ls : List String} (h : ∀ line ∈ ls, HasNoBreak line.toList) :
    ls.flatMap Text.lines = ls := by
  refine (List.flatMap_congr fun line hline => ?_).trans (List.flatMap_singleton' ls)
  rw [Text.lines, fields_lastLine (h line hline), List.map_singleton, String.ofList_toList]

section TableBody

variable {none head ruler : String} {rows : List String}

theorem hasNoBreak_tableBody (hnone : IsTextLine none)
    (hrows : ∀ line ∈ head :: ruler :: rows, IsRowLine line) :
    ∀ line ∈ tableBody none head ruler rows, HasNoBreak line.toList := by
  unfold tableBody
  split
  · exact List.forall_mem_singleton.2 hnone.hasNoBreak
  · exact fun line hline => (hrows line hline).hasNoBreak

theorem isLead_tableBody (hnone : IsTextLine none)
    (hrows : ∀ line ∈ head :: ruler :: rows, IsRowLine line) :
    IsLead (tableBody none head ruler rows) := by
  unfold tableBody
  split
  · exact List.forall_mem_singleton.2 hnone.isHeading
  · exact fun line hline => isHeading_of_isRow (hrows line hline).isRow

theorem filter_tableBody (hnone : IsTextLine none)
    (hrows : ∀ line ∈ head :: ruler :: rows, IsRowLine line) :
    (tableBody none head ruler rows).filter isRow =
      if rows.isEmpty then [] else head :: ruler :: rows := by
  unfold tableBody
  split
  · rw [List.filter_singleton, hnone.isRow]
    rfl
  · exact List.filter_eq_self.2 fun line hline => (hrows line hline).isRow

end TableBody

theorem isTextLine_noTables : IsTextLine "_No tables found._" :=
  ⟨by simp [isLineBreak], rfl, rfl⟩

theorem isTextLine_noFindings : IsTextLine "_None._" := ⟨by simp [isLineBreak], rfl, rfl⟩

theorem isRowLine_tables (ts : List Table) :
    ∀ line ∈ tableHead :: tableRuler :: ts.map tableRow, IsRowLine line := by
  refine List.forall_mem_cons.2 ⟨⟨by simp [tableHead, isLineBreak], rfl⟩,
    List.forall_mem_cons.2 ⟨⟨by simp [tableRuler, isLineBreak], rfl⟩, fun line hline => ?_⟩⟩
  obtain ⟨t, -, rfl⟩ := List.mem_map.1 hline
  rw [tableRow_eq]
  exact isRowLine_row _ _

theorem isRowLine_findings (fs : List Finding) :
    ∀ line ∈ findingHead :: findingRuler :: fs.map findingRow, IsRowLine line := by
  refine List.forall_mem_cons.2 ⟨⟨by simp [findingHead, isLineBreak], rfl⟩,
    List.forall_mem_cons.2 ⟨⟨by simp [findingRuler, isLineBreak], rfl⟩, fun line hline => ?_⟩⟩
  obtain ⟨f, -, rfl⟩ := List.mem_map.1 hline
  rw [findingRow_eq]
  exact isRowLine_row _ _

theorem flatMap_lines_front (a : Assessment) : (front a).flatMap Text.lines = front a := by
  have hlabel : HasNoBreak a.label.toList := by
    rw [Assessment.label]
    rcases a.achieved with _ | (_ | _ | _) <;>
      simp [Form.achievedLabel, Form.label, isLineBreak]
  refine flatMap_lines ?_
  simp [front, isLineBreak, hlabel]

theorem flatMap_lines_tablePart (a : Assessment) :
    (tablePart a).flatMap Text.lines = tablePart a := by
  have hheading : HasNoBreak "## Tables".toList := by simp [isLineBreak]
  rw [tablePart_eq]
  refine flatMap_lines (List.forall_mem_cons.2 ⟨hheading, List.forall_mem_cons.2 ⟨by decide, ?_⟩⟩)
  exact hasNoBreak_tableBody isTextLine_noTables (isRowLine_tables a.schema.tables)

theorem flatMap_lines_formPart (a : Assessment) (form : Form) :
    (formPart a form).flatMap Text.lines = formPart a form := by
  have hheading : HasNoBreak (formHeading form).toList := by
    cases form <;> simp [formHeading, Form.label, isLineBreak]
  rw [formPart_eq]
  refine flatMap_lines (List.forall_mem_cons.2 ⟨by decide,
    List.forall_mem_cons.2 ⟨hheading, List.forall_mem_cons.2 ⟨by decide, ?_⟩⟩⟩)
  exact hasNoBreak_tableBody isTextLine_noFindings (isRowLine_findings (a.findings form))

/-- The line feed after the last part, and the notices. -/
theorem flatMap_lines_noticePart (a : Assessment) :
    (noticePart a).flatMap Text.lines ++ [""] =
      "" :: (noticeSections a).flatMap Section.lines := by
  unfold noticePart noticeSections
  split
  · rfl
  · have hempty : Text.lines "" = [""] := rfl
    have hheading : Text.lines "## Parse Warnings" = ["## Parse Warnings"] := rfl
    simp [Section.lines, hempty, hheading]

/-- **The lines of a report** are those of its sections, one after the other. -/
theorem lines_render (a : Assessment) :
    Text.lines (render a) = front a ++ (sections a).flatMap Section.lines := by
  have hforms : (Form.all.flatMap (formPart a)).flatMap Text.lines =
      Form.all.flatMap (formPart a) := by
    rw [List.flatMap_assoc]
    exact List.flatMap_congr fun form _ => flatMap_lines_formPart a form
  have hfollow : ∀ (forms : List Form) (rest : List String),
      forms.flatMap (formPart a) ++ "" :: rest =
        "" :: ((forms.map (formSection a)).flatMap Section.lines ++ rest) := by
    intro forms rest
    induction forms with
    | nil => rfl
    | cons form forms ih => simp [formPart_eq, Section.lines, ih]
  rw [render, lines_join_feed, parts, List.flatMap_append, List.flatMap_append, List.flatMap_append,
    List.append_assoc, flatMap_lines_noticePart, List.append_assoc, hforms, hfollow,
    flatMap_lines_tablePart, tablePart_eq, ← front, flatMap_lines_front, sections,
    tableSections, List.cons_append, List.flatMap_cons, List.flatMap_append, Section.lines]
  simp

/-! ## Reading back -/

theorem isHeading_formHeading (form : Form) : isHeading (formHeading form) = true := by
  cases form <;> rfl

theorem isHeading_sections (a : Assessment) : ∀ s ∈ sections a, isHeading s.heading = true := by
  have hplain : isHeading "## Tables" = true ∧ isHeading "## Parse Warnings" = true := ⟨rfl, rfl⟩
  have htables : ∀ s ∈ tableSections a, isHeading s.heading = true := by
    refine List.forall_mem_cons.2 ⟨hplain.1, fun s hs => ?_⟩
    obtain ⟨form, -, rfl⟩ := List.mem_map.1 hs
    exact isHeading_formHeading form
  refine List.forall_mem_append.2 ⟨htables, ?_⟩
  unfold noticeSections
  split
  · exact List.forall_mem_nil _
  · exact List.forall_mem_singleton.2 hplain.2

theorem isLead_tableSections (a : Assessment) : ∀ s ∈ tableSections a, IsLead s.body := by
  refine List.forall_mem_cons.2 ⟨?_, fun s hs => ?_⟩
  · exact isLead_tableBody isTextLine_noTables (isRowLine_tables a.schema.tables)
  · obtain ⟨form, -, rfl⟩ := List.mem_map.1 hs
    exact isLead_tableBody isTextLine_noFindings (isRowLine_findings (a.findings form))

theorem isLead_front (a : Assessment) : IsLead (front a) := by
  refine List.forall_mem_cons.2 ⟨rfl, List.forall_mem_cons.2 ⟨rfl, List.forall_mem_cons.2
    ⟨?_, List.forall_mem_singleton.2 rfl⟩⟩⟩
  rw [isHeading, startsWith, String.toList_append]
  rfl

theorem nodup_headings (a : Assessment) : ((tableSections a).map Section.heading).Nodup := by
  have hheadings : (tableSections a).map Section.heading =
      ["## Tables", formHeading .first, formHeading .second, formHeading .third] := rfl
  rw [hheadings]
  simp [formHeading, Form.label]

/-- The table under a heading is that of the section. -/
theorem tableUnder_heading {a : Assessment} {s : Section} (hs : s ∈ tableSections a) :
    tableUnder s.heading (render a) = s.body.filter isRow := by
  obtain ⟨before, after, hsplit⟩ := List.append_of_mem hs
  have hsections : sections a = before ++ s :: (after ++ noticeSections a) := by
    rw [sections, hsplit, List.append_assoc, List.cons_append]
  have hnew : ∀ u ∈ before, u.heading ≠ s.heading := by
    have hnodup := nodup_headings a
    rw [hsplit, List.map_append, List.map_cons] at hnodup
    exact fun u hu => (List.nodup_append.1 hnodup).2.2 _ (List.mem_map_of_mem hu) _
      List.mem_cons_self
  have hbodies : ∀ u ∈ before ++ [s], IsLead u.body := by
    intro u hu
    refine isLead_tableSections a u ?_
    rw [hsplit]
    rcases List.mem_append.1 hu with hu | hu
    · exact List.mem_append_left _ hu
    · cases List.mem_singleton.1 hu
      exact List.mem_append_right _ List.mem_cons_self
  have hheadings : ∀ u ∈ s :: (after ++ noticeSections a), isHeading u.heading = true := by
    intro u hu
    refine isHeading_sections a u ?_
    rw [hsections]
    exact List.mem_append_right _ hu
  have hblank : isRow "" = false := rfl
  rw [tableUnder, lines_render, hsections,
    linesUnder_section (isLead_front a) hheadings hbodies hnew, List.filter_cons, hblank,
    if_neg Bool.false_ne_true, List.filter_append, List.filter_singleton, hblank]
  exact List.append_nil _

/-- The lines are a head with a row for each list of cells, as many as the head has; there are
none without rows. -/
inductive Shows : List String → List String → List (List String) → Prop
  | nothing (head : List String) : Shows [] head []
  | table {line ruler : String} {rows head : List String} {cells : List (List String)}
      (hhead : readRow? line = some head) (hrows : rows.map readRow? = cells.map some)
      (hwidth : ∀ row ∈ cells, row.length = head.length) :
      Shows (line :: ruler :: rows) head cells

theorem shows_filter_tableBody {none line ruler : String} {head : List String} {α : Type}
    {xs : List α} {rowOf : α → String} {cellsOf : α → List String} (hnone : IsTextLine none)
    (hlines : ∀ l ∈ line :: ruler :: xs.map rowOf, IsRowLine l) (hhead : readRow? line = some head)
    (hread : ∀ x, readRow? (rowOf x) = some (cellsOf x))
    (hwidth : ∀ x, (cellsOf x).length = head.length) :
    Shows ((tableBody none line ruler (xs.map rowOf)).filter isRow) head (xs.map cellsOf) := by
  rw [filter_tableBody hnone hlines]
  cases xs with
  | nil => exact .nothing head
  | cons x xs =>
    refine .table hhead ?_ ?_
    · rw [List.map_map, List.map_map]
      exact List.map_congr_left fun y _ => hread y
    · intro cells hcells
      obtain ⟨y, -, rfl⟩ := List.mem_map.1 hcells
      exact hwidth y

/-- **A report can be read back**, whatever the names and texts of the assessment. Under the
heading of the tables stands a table with a row for each of them, and under the heading of
a form one with a row for each finding against it, in order. A row has as many cells as the
head, and these say what is in the table or the finding, with line breaks as spaces. -/
theorem rows_read_back (a : Assessment) :
    Shows (tableUnder "## Tables" (render a)) ["Table", "Columns", "Primary key", "Foreign keys"]
      (a.schema.tables.map fun t =>
        [oneLine t.name, t.columns.length.repr, oneLine (keyLabel t), t.foreignKeys.length.repr]) ∧
    ∀ form : Form, Shows (tableUnder ("## " ++ form.label ++ " Issues") (render a))
      ["Table", "Column(s)", "Kind", "Finding", "Suggestion"]
      ((a.findings form).map fun f =>
        [oneLine f.table, oneLine (f.columnText?.getD ""), f.kind.title, oneLine f.description,
          oneLine (f.suggestion?.getD "")]) := by
  have htableHead : readRow? tableHead =
      some ["Table", "Columns", "Primary key", "Foreign keys"] := rfl
  have hfindingHead : readRow? findingHead =
      some ["Table", "Column(s)", "Kind", "Finding", "Suggestion"] := rfl
  constructor
  · have hunder := tableUnder_heading (a := a) (s := tableSection a) List.mem_cons_self
    rw [show (tableSection a).heading = "## Tables" from rfl] at hunder
    rw [hunder]
    exact shows_filter_tableBody isTextLine_noTables (isRowLine_tables _) htableHead
      readRow?_tableRow fun _ => rfl
  · intro form
    have hmem : formSection a form ∈ tableSections a :=
      List.mem_cons_of_mem _ (List.mem_map_of_mem (by cases form <;> decide))
    have hunder := tableUnder_heading hmem
    rw [show (formSection a form).heading = "## " ++ form.label ++ " Issues" from rfl] at hunder
    rw [hunder]
    exact shows_filter_tableBody isTextLine_noFindings (isRowLine_findings _) hfindingHead
      readRow?_findingRow fun _ => rfl

end NormalForms.Report
