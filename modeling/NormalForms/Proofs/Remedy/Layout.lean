import NormalForms.Proofs.Identifier.Quoting
import NormalForms.Remedy

/-!
# The layout of a remedy

The steps of a remedy are comments and blank lines, but for one that creates a
table or adds a key: a remedy is laid out with one statement. Names cannot
disturb this, since they are written as one quoted token on one line; types can,
and are asked to be self-contained texts on one line (`WellTyped`).
-/

namespace NormalForms

open Identifier Text Script

namespace Remedy

theorem isInert_of_mem_commentLines {text line : String} (h : line ∈ commentLines text) :
    IsInert line.toList := by
  obtain ⟨l, hl, rfl⟩ := List.mem_map.1 h
  obtain ⟨cs, hcs, rfl⟩ := List.mem_map.1 (List.mem_filter.1 hl).1
  have ht : ("-- " ++ String.ofList cs).toList = '-' :: '-' :: ' ' :: cs := by simp
  rw [ht]
  exact isInert_comment (List.forall_mem_cons.2 ⟨rfl, hasNoBreak_of_mem_fields hcs⟩)

/-! ## Entries -/

theorem Entry.render_column (name dataType : String) (notNull isKey : Bool) :
    (Entry.column name dataType notNull isKey).render = quote name ++ " " ++ dataType ++
      (if notNull then " NOT NULL" else "") ++ if isKey then " PRIMARY KEY" else "" := rfl

theorem Entry.render_primaryKey (columns : List String) :
    (Entry.primaryKey columns).render = "PRIMARY KEY (" ++ quoteList columns ++ ")" := rfl

theorem Entry.render_foreignKey (columns : List String) (target : String)
    (targetColumns : List String) :
    (Entry.foreignKey columns target targetColumns).render =
      "FOREIGN KEY (" ++ quoteList columns ++ ") REFERENCES " ++ quote target ++
        if targetColumns.isEmpty then "" else "(" ++ quoteList targetColumns ++ ")" := rfl

/-- The type of a column is self-contained and on one line. -/
def Entry.WellTyped : Entry → Prop
  | .column _ dataType _ _ => isSelfContained dataType = true ∧ HasNoBreak dataType.toList
  | _ => True

/-- The type of a column is on one line. -/
def Entry.IsOneLine : Entry → Prop
  | .column _ dataType _ _ => HasNoBreak dataType.toList
  | _ => True

theorem Entry.WellTyped.isOneLine {e : Entry} (h : e.WellTyped) : e.IsOneLine := by
  cases e with
  | column name dataType notNull isKey => exact h.2
  | surrogateKey | primaryKey | foreignKey => trivial

theorem Entry.hasNoBreak_render {e : Entry} (h : e.IsOneLine) : HasNoBreak e.render.toList := by
  cases e with
  | surrogateKey => decide
  | column name dataType notNull isKey =>
    simp only [render_column, String.toList_append, toList_quote, hasNoBreak_append]
    refine ⟨⟨⟨⟨hasNoBreak_quoted _, by decide⟩, h⟩, ?_⟩, ?_⟩
    · cases notNull <;> decide
    · cases isKey <;> decide
  | primaryKey columns =>
    simp only [render_primaryKey, String.toList_append, hasNoBreak_append]
    exact ⟨⟨by decide, hasNoBreak_quoteList columns⟩, by decide⟩
  | foreignKey columns target targetColumns =>
    simp only [render_foreignKey, String.toList_append, toList_quote, hasNoBreak_append]
    refine ⟨⟨⟨⟨by decide, hasNoBreak_quoteList columns⟩, by decide⟩, hasNoBreak_quoted _⟩, ?_⟩
    split
    · decide
    · simp only [String.toList_append, hasNoBreak_append]
      exact ⟨⟨by decide, hasNoBreak_quoteList targetColumns⟩, by decide⟩

/-- An entry is quiet in front of a neutral character. -/
theorem Entry.quiet_render {e : Entry} (h : e.WellTyped) {d : Char} (hd : isNeutral d = true)
    (hstar : d ≠ '*') : Quiet (e.render.toList ++ [d]) := by
  have hq : Quiet [d] := quiet_of_neutral (by rw [List.all_cons, hd]; rfl)
  cases e with
  | surrogateKey => exact (quiet_of_neutral (by decide)).append hq
  | column name dataType notNull isKey =>
    -- The type needs the character after it, whether that is `d` or a space.
    have ht : ∃ c cs, (if notNull then " NOT NULL" else "").toList ++
        ((if isKey then " PRIMARY KEY" else "").toList ++ [d]) = c :: cs ∧
        isNeutral c = true ∧ c ≠ '*' ∧ Quiet cs := by
      cases notNull <;> cases isKey
      · exact ⟨d, [], rfl, hd, hstar, quiet_nil⟩
      · exact ⟨' ', _, rfl, rfl, by decide, (quiet_of_neutral (by decide)).append hq⟩
      · exact ⟨' ', _, rfl, rfl, by decide, (quiet_of_neutral (by decide)).append hq⟩
      · exact ⟨' ', _, rfl, rfl, by decide,
          (quiet_of_neutral (by decide)).append ((quiet_of_neutral (by decide)).append hq)⟩
    obtain ⟨c, cs, he, hc, hcstar, hcs⟩ := ht
    have htype : Quiet (dataType.toList ++ [c]) := quietFrom_settles h.1 hc hcstar
    simp only [render_column, String.toList_append, toList_quote, List.append_assoc]
    rw [he, ← List.singleton_append, ← List.append_assoc dataType.toList]
    exact (quiet_quoted _).append ((quiet_of_neutral (by decide)).append (htype.append hcs))
  | primaryKey columns =>
    simp only [render_primaryKey, String.toList_append]
    exact (((quiet_of_neutral (by decide)).append (quiet_quoteList columns)).append
      (quiet_of_neutral (by decide))).append hq
  | foreignKey columns target targetColumns =>
    simp only [render_foreignKey, String.toList_append, toList_quote]
    refine (Quiet.append ?_ ?_).append hq
    · exact (((quiet_of_neutral (by decide)).append (quiet_quoteList columns)).append
        (quiet_of_neutral (by decide))).append (quiet_quoted _)
    · split
      · exact quiet_nil
      · simp only [String.toList_append]
        exact ((quiet_of_neutral (by decide)).append (quiet_quoteList targetColumns)).append
          (quiet_of_neutral (by decide))

/-- Something of every entry can be seen. -/
theorem Entry.exists_visible (e : Entry) : ∃ c ∈ e.render.toList, isBlank c = false := by
  cases e with
  | surrogateKey => exact ⟨'i', by decide, rfl⟩
  | column name dataType notNull isKey =>
    obtain ⟨c, hc, hb⟩ := exists_visible_quoted name.toList
    exact ⟨c, by simp [render_column, hc], hb⟩
  | primaryKey columns => exact ⟨'P', by simp [render_primaryKey], rfl⟩
  | foreignKey columns target targetColumns => exact ⟨'F', by simp [render_foreignKey], rfl⟩

theorem mem_entryLines {es : List Entry} {line : String} (h : line ∈ entryLines es) :
    ∃ e ∈ es, line = "    " ++ e.render ∨ line = "    " ++ e.render ++ "," := by
  induction es with
  | nil => cases h
  | cons e es ih =>
    cases es with
    | nil => exact ⟨e, List.mem_cons_self, .inl (List.mem_singleton.1 h)⟩
    | cons e' es =>
      rcases List.mem_cons.1 h with rfl | h
      · exact ⟨e, List.mem_cons_self, .inr rfl⟩
      · obtain ⟨e'', he, h⟩ := ih h
        exact ⟨e'', List.mem_cons_of_mem e he, h⟩

theorem isCodeLine_indented {e : Entry} (h : e.WellTyped) (sep : List Char)
    (hsep : HasNoBreak sep) (hq : Quiet (e.render.toList ++ (sep ++ ['\n']))) :
    IsCodeLine (' ' :: ' ' :: ' ' :: ' ' :: (e.render.toList ++ sep)) := by
  obtain ⟨c, hc, hv⟩ := e.exists_visible
  refine ⟨?_, ?_, ?_⟩
  · exact (@hasNoBreak_append [' ', ' ', ' ', ' '] _).2
      ⟨by decide, hasNoBreak_append.2 ⟨Entry.hasNoBreak_render h.isOneLine, hsep⟩⟩
  · exact isExecutable_of_visible (by decide) ⟨c, by simp [hc], hv⟩
  · rw [← List.append_assoc] at hq
    exact (@quiet_of_neutral [' ', ' ', ' ', ' '] (by decide)).append hq

theorem isCodeLine_entryLine {es : List Entry} (h : ∀ e ∈ es, e.WellTyped) {line : String}
    (hline : line ∈ entryLines es) : IsCodeLine line.toList := by
  obtain ⟨e, he, hline⟩ := mem_entryLines hline
  rcases hline with rfl | rfl
  · have hq := Entry.quiet_render (h e he) (d := '\n') rfl (by decide)
    simpa using isCodeLine_indented (h e he) [] (List.forall_mem_nil _) hq
  · have hq := (Entry.quiet_render (h e he) (d := ',') rfl (by decide)).append
      (@quiet_of_neutral ['\n'] rfl)
    rw [List.append_assoc] at hq
    simpa using isCodeLine_indented (h e he) [','] (by decide) hq

/-- A name on a line of code. -/
theorem isCodeLine_around (c : Char) (as bs : List Char) (hc : isBlank c = false)
    (ha : (c :: as).all isNeutral = true) (ha' : HasNoBreak (c :: as))
    (hb : bs.all isNeutral = true) (hb' : HasNoBreak bs) (name : List Char) :
    IsCodeLine (c :: (as ++ (quoted name ++ bs))) ∧ Quiet (c :: (as ++ (quoted name ++ bs))) := by
  have hq : Quiet (c :: (as ++ (quoted name ++ bs))) :=
    (quiet_of_neutral ha).append ((quiet_quoted name).append (quiet_of_neutral hb))
  have hdash : c ≠ '-' := by
    rintro rfl
    cases ha
  refine ⟨⟨?_, ?_, hq.append (quiet_of_neutral rfl)⟩, hq⟩
  · exact (@hasNoBreak_append (c :: as) _).2
      ⟨ha', hasNoBreak_append.2 ⟨hasNoBreak_quoted name, hb'⟩⟩
  · exact isExecutable_of_visible hdash ⟨c, List.mem_cons_self, hc⟩

/-! ## Steps -/

def Step.WellTyped : Step → Prop
  | .createTable _ entries => ∀ e ∈ entries, e.WellTyped
  | _ => True

/-- The first line of a statement that creates a table. -/
def tableHead (name : String) : String := "CREATE TABLE " ++ quote name ++ " ("

/-- The statement that adds a numbered key, without its semicolon. -/
def keyStatement (table : String) : String :=
  "ALTER TABLE " ++ quote table ++ " ADD COLUMN id INT AUTO_INCREMENT PRIMARY KEY"

/-- The statement that creates a table, without its semicolon. -/
def tableStatement (name : String) (entries : List Entry) : List Char :=
  unlines ((tableHead name :: entryLines entries).map String.toList) ++ [')']

/-- The statements of a step. -/
def Step.statements : Step → List (List Char)
  | .addSurrogateKey table => [(keyStatement table).toList]
  | .createTable name entries => [tableStatement name entries]
  | .note _ | .blank | .dropColumn _ _ => []

theorem keyStatement_eq (table : String) : keyStatement table =
    "ALTER TABLE " ++ quote table ++ " ADD COLUMN id INT AUTO_INCREMENT PRIMARY KEY" := rfl

theorem isStatement_keyStatement (table : String) : IsStatement (keyStatement table).toList := by
  have ht : (keyStatement table).toList = 'A' :: ("LTER TABLE ".toList ++ (quoted table.toList ++
      " ADD COLUMN id INT AUTO_INCREMENT PRIMARY KEY".toList)) := by
    rw [keyStatement_eq]
    simp
  have hy : " ADD COLUMN id INT AUTO_INCREMENT PRIMARY KEY".toList =
      " ADD COLUMN id INT AUTO_INCREMENT PRIMARY KE".toList ++ ['Y'] := by
    simp
  obtain ⟨hline, hq⟩ := isCodeLine_around 'A' "LTER TABLE ".toList
    " ADD COLUMN id INT AUTO_INCREMENT PRIMARY KEY".toList rfl (by decide) (by decide)
    (by decide) (by decide) table.toList
  rw [ht]
  refine isStatement_of_line hline hq rfl ?_
  rw [hy, ← List.append_assoc, ← List.append_assoc, ← List.cons_append]
  exact @trimEnd_append_of_ne_nil _ ['Y'] (List.cons_ne_nil _ _)

theorem isStatement_tableStatement {name : String} {entries : List Entry}
    (h : ∀ e ∈ entries, e.WellTyped) : IsStatement (tableStatement name entries) := by
  have ht : (tableHead name).toList =
      'C' :: ("REATE TABLE ".toList ++ (quoted name.toList ++ " (".toList)) := by
    simp [tableHead]
  have hhead : IsCodeLine (tableHead name).toList := by
    rw [ht]
    exact (isCodeLine_around 'C' "REATE TABLE ".toList " (".toList rfl (by decide) (by decide)
      (by decide) (by decide) name.toList).1
  have hlines : ∀ l ∈ (tableHead name :: entryLines entries).map String.toList, IsCodeLine l := by
    intro l hl
    obtain ⟨line, hline, rfl⟩ := List.mem_map.1 hl
    rcases List.mem_cons.1 hline with rfl | hline
    · exact hhead
    · exact isCodeLine_entryLine h hline
  have hlast : IsCodeLine [')'] :=
    ⟨by decide, rfl, @quiet_of_neutral [')', '\n'] (by decide)⟩
  refine isStatement_of_lines hlines hlast (quiet_of_neutral (by decide)) ?_ (by decide)
  rw [List.map_cons, unlines_cons, ht]
  rfl

/-- A step is laid out with its statements. -/
theorem Step.layout {s : Step} (h : s.WellTyped) :
    Layout (unlines (s.lines.map String.toList)) s.statements := by
  have hcomment : ∀ text, Layout (unlines ((commentLines text).map String.toList)) [] := by
    intro text
    refine layout_unlines fun l hl => ?_
    obtain ⟨line, hline, rfl⟩ := List.mem_map.1 hl
    exact isInert_of_mem_commentLines hline
  cases s with
  | note text => exact hcomment text
  | blank => exact .line isInert_nil .done
  | dropColumn table column => exact hcomment _
  | addSurrogateKey table =>
    have ht : unlines ((Step.addSurrogateKey table).lines.map String.toList) =
        (keyStatement table).toList ++ ';' :: '\n' :: [] := by
      simp [Step.lines, unlines, keyStatement_eq]
    rw [ht]
    exact .statement (isStatement_keyStatement table) .done
  | createTable name entries =>
    have ht : unlines ((Step.createTable name entries).lines.map String.toList) =
        tableStatement name entries ++ ';' :: '\n' :: [] := by
      rw [Step.lines, ← List.cons_append, List.map_append, unlines_append, tableStatement,
        List.append_assoc]
      rfl
    rw [ht]
    exact .statement (isStatement_tableStatement h) .done

def statements (r : Remedy) : List (List Char) := r.steps.flatMap Step.statements

/-- **A remedy is laid out** with the statements of its steps. -/
theorem layout {r : Remedy} (h : ∀ s ∈ r.steps, s.WellTyped) :
    Layout (unlines (r.lines.map String.toList)) r.statements := by
  rcases r with ⟨steps⟩
  show Layout (unlines ((steps.flatMap Step.lines).map String.toList))
    (steps.flatMap Step.statements)
  induction steps with
  | nil => exact .done
  | cons s steps ih =>
    obtain ⟨hs, hsteps⟩ := List.forall_mem_cons.1 h
    rw [List.flatMap_cons, List.flatMap_cons, List.map_append, unlines_append]
    exact (Step.layout hs).append (ih hsteps)

end Remedy

end NormalForms
