import NormalForms.Proofs.Remedy.Moving

/-!
# The lines of a remedy

No step breaks one of its lines, whatever the names and types of the table, so
cutting the text of a remedy at every line break gives its lines back. Which of
them suggest to drop a column can then be told: the last ones, one for each
column that moves.
-/

namespace NormalForms

open Identifier Text Script

namespace Remedy

/-! ## Lines -/

def Step.IsOneLine : Step → Prop
  | .createTable _ entries => ∀ e ∈ entries, e.IsOneLine
  | .note _ | .blank | .addSurrogateKey _ | .dropColumn _ _ => True

theorem hasNoBreak_of_mem_commentLines {text line : String} (h : line ∈ commentLines text) :
    HasNoBreak line.toList :=
  (isInert_of_mem_commentLines h).hasNoBreak

theorem hasNoBreak_of_mem_entryLines {es : List Entry} (h : ∀ e ∈ es, e.IsOneLine) {line : String}
    (hl : line ∈ entryLines es) : HasNoBreak line.toList := by
  obtain ⟨e, he, rfl | rfl⟩ := mem_entryLines hl
  · simp [isLineBreak, Entry.hasNoBreak_render (h e he)]
  · simp [isLineBreak, Entry.hasNoBreak_render (h e he)]

theorem Step.hasNoBreak_of_mem_lines {s : Step} (h : s.IsOneLine) {line : String}
    (hl : line ∈ s.lines) : HasNoBreak line.toList := by
  cases s with
  | note | dropColumn => exact hasNoBreak_of_mem_commentLines hl
  | blank =>
    cases List.mem_singleton.1 hl
    decide
  | addSurrogateKey table =>
    cases List.mem_singleton.1 hl
    simp [isLineBreak]
  | createTable name entries =>
    rcases List.mem_cons.1 hl with rfl | hl
    · simp [isLineBreak]
    · rcases List.mem_append.1 hl with hl | hl
      · exact hasNoBreak_of_mem_entryLines h hl
      · cases List.mem_singleton.1 hl
        decide

/-- **Cutting a remedy** into lines gives its lines back. -/
theorem lines_render {r : Remedy} (hne : r.lines ≠ []) (h : ∀ s ∈ r.steps, s.IsOneLine) :
    Text.lines r.render = r.lines := by
  have hb : ∀ l ∈ r.lines.map String.toList, HasNoBreak l := by
    intro l hl
    obtain ⟨line, hline, rfl⟩ := List.mem_map.1 hl
    obtain ⟨s, hs, hline⟩ := List.mem_flatMap.1 hline
    exact Step.hasNoBreak_of_mem_lines (h s hs) hline
  have hofList : String.ofList ∘ String.toList = id := funext fun _ => String.ofList_toList
  rw [Text.lines, render, String.toList_intercalate]
  show (fields isLineBreak (['\n'].intercalate _)).map String.ofList = _
  rw [fields_intercalate (fun he => hne (List.map_eq_nil_iff.1 he)) hb, List.map_map, hofList,
    List.map_id]

theorem commentLines_of_hasNoBreak {text : String} (h : HasNoBreak text.toList)
    (hne : text ≠ "") : commentLines text = ["-- " ++ text] := by
  rw [commentLines, Text.lines, fields_lastLine h]
  simp [hne]

/-! ## Suggestions to drop a column -/

/-- The comment that suggests to drop a column of a table. -/
def dropLine (table column : String) : String :=
  "-- ALTER TABLE " ++ quote table ++ " DROP COLUMN " ++ quote column ++ ";"

/-- The line suggests to drop something of some table. -/
def IsDropLine (line : String) : Prop :=
  ∃ table rest, line = "-- ALTER TABLE " ++ quote table ++ " DROP COLUMN " ++ rest

theorem isDropLine_dropLine (table column : String) : IsDropLine (dropLine table column) :=
  ⟨table, quote column ++ ";", String.append_assoc⟩

theorem alterComment_eq (table rest : String) :
    "-- ALTER TABLE " ++ table ++ " DROP COLUMN " ++ rest =
      "-- " ++ ("ALTER TABLE " ++ table ++ " DROP COLUMN " ++ rest) := by
  refine String.toList_inj.1 ?_
  simp

/-- A suggestion to drop something is a comment. -/
theorem IsDropLine.exists_dropText {line : String} (h : IsDropLine line) :
    ∃ table rest, line = "-- " ++ dropText table rest := by
  obtain ⟨table, rest, rfl⟩ := h
  exact ⟨table, rest, alterComment_eq (quote table) rest⟩

theorem hasNoBreak_dropText (table : String) {rest : String} (h : HasNoBreak rest.toList) :
    HasNoBreak (dropText table rest).toList := by
  simp [dropText, isLineBreak, h]

theorem dropText_ne_empty (table rest : String) : dropText table rest ≠ "" := by
  intro he
  simpa [dropText] using congrArg String.toList he

theorem lines_dropColumn (table column : String) :
    (Step.dropColumn table column).lines = [dropLine table column] := by
  have hrest : HasNoBreak (quote column ++ ";").toList := by
    simp [isLineBreak]
  have htext : Step.lines (.dropColumn table column) =
      commentLines (dropText table (quote column ++ ";")) :=
    congrArg commentLines String.append_assoc
  have hline : "-- " ++ dropText table (quote column ++ ";") = dropLine table column :=
    (alterComment_eq (quote table) (quote column ++ ";")).symm.trans String.append_assoc.symm
  rw [htext, commentLines_of_hasNoBreak (hasNoBreak_dropText table hrest) (dropText_ne_empty _ _),
    hline]

theorem lines_dropNote : commentLines "After migration, drop the moved columns:" =
    ["-- After migration, drop the moved columns:"] := by
  decide +kernel

theorem not_isDropLine_dropNote : ¬ IsDropLine "-- After migration, drop the moved columns:" := by
  rintro ⟨table, rest, he⟩
  simpa using congrArg String.toList he

theorem flatMap_lines_dropSteps (t : Table) (columns : List Column) :
    (dropSteps t columns).flatMap Step.lines =
      "" :: "-- After migration, drop the moved columns:" ::
        columns.map fun c => dropLine t.name c.name := by
  have hdrop : ((names columns).map (Step.dropColumn t.name)).flatMap Step.lines =
      columns.map fun c => dropLine t.name c.name := by
    rw [List.flatMap_map, names, List.flatMap_map, List.map_eq_flatMap]
    exact congrArg (columns.flatMap ·) (funext fun c => lines_dropColumn t.name c.name)
  rw [dropSteps, List.flatMap_cons, List.flatMap_cons, hdrop, Step.lines, Step.lines,
    lines_dropNote]
  rfl

theorem not_isDropLine_of_keepsColumns {s : Step} (h : s.KeepsColumns) {line : String}
    (hl : line ∈ s.lines) : ¬ IsDropLine line := by
  intro hd
  obtain ⟨table, rest, rfl⟩ := hd.exists_dropText
  cases s with
  | note text =>
    have hne : text ≠ "" := by
      rintro rfl
      cases hl
    rw [Step.lines, commentLines_of_hasNoBreak h.1 hne, List.mem_singleton] at hl
    exact h.2 table rest (String.append_right_inj _ |>.1 hl).symm
  | blank => simpa using congrArg String.toList (List.mem_singleton.1 hl)
  | addSurrogateKey | createTable | dropColumn => cases h

theorem not_isDropLine_createTable {name : String} {entries : List Entry} {line : String}
    (hl : line ∈ (Step.createTable name entries).lines) : ¬ IsDropLine line := by
  rintro ⟨table, rest, rfl⟩
  have hstart : ∀ s : String, "-- ALTER TABLE " ++ quote table ++ " DROP COLUMN " ++ rest = s →
      s.toList.head? = some '-' := by
    rintro s rfl
    simp
  rcases List.mem_cons.1 hl with he | hl
  · simpa using hstart _ he
  · rcases List.mem_append.1 hl with hl | hl
    · obtain ⟨e, -, he | he⟩ := mem_entryLines hl
      · simpa using hstart _ he
      · simpa using hstart _ he
    · simpa using hstart _ (List.mem_singleton.1 hl)

/-! ## Remedies that add a key -/

theorem lines_render_surrogateKey (t : Table) :
    Text.lines (surrogateKey t).render = (Step.addSurrogateKey t.name).lines := by
  have hone : ∀ s ∈ (surrogateKey t).steps, s.IsOneLine := List.forall_mem_singleton.2 trivial
  have hne : (surrogateKey t).lines ≠ [] := List.cons_ne_nil _ _
  exact lines_render hne hone

/-- Adding a key drops nothing. -/
theorem not_isDropLine_surrogateKey {t : Table} {line : String}
    (hl : line ∈ Text.lines (surrogateKey t).render) : ¬ IsDropLine line := by
  rw [lines_render_surrogateKey] at hl
  rintro ⟨table, rest, he⟩
  simpa using congrArg String.toList (he.symm.trans (List.mem_singleton.1 hl))

/-! ## Remedies that move columns -/

namespace Moves

variable {t : Table} {columns : List Column} {r : Remedy}

theorem isOneLine (h : Moves t columns r) : ∀ s ∈ r.steps, s.IsOneLine := by
  refine h.forall_steps (fun s hs => ?_) fun _ _ he e hm => (he e hm).isOneLine
  cases s with
  | note | blank | dropColumn => trivial
  | addSurrogateKey | createTable => cases hs

/-- The lines that suggest to drop columns come last, after one that says so. -/
theorem exists_lines (h : Moves t columns r) : ∃ ls, (∀ line ∈ ls, ¬ IsDropLine line) ∧
    r.lines = ls ++ "-- After migration, drop the moved columns:" ::
      columns.map fun c => dropLine t.name c.name := by
  obtain ⟨heading, name, entries, comments, hsteps, -, hcomments⟩ := h
  obtain ⟨hheading, hcomments⟩ := List.forall_mem_cons.1 hcomments
  refine ⟨(Step.note heading).lines ++ ((Step.createTable name entries).lines ++
    (comments.flatMap Step.lines ++ [""])), ?_, ?_⟩
  · refine List.forall_mem_append.2 ⟨fun _ => not_isDropLine_of_keepsColumns hheading,
      List.forall_mem_append.2 ⟨fun _ => not_isDropLine_createTable,
        List.forall_mem_append.2 ⟨fun line hl => ?_, ?_⟩⟩⟩
    · obtain ⟨s, hs, hl⟩ := List.mem_flatMap.1 hl
      exact not_isDropLine_of_keepsColumns (hcomments s hs) hl
    · exact fun _ => not_isDropLine_of_keepsColumns (s := .blank) trivial
  · rw [Remedy.lines, hsteps, List.flatMap_cons, List.flatMap_cons, List.flatMap_append,
      flatMap_lines_dropSteps]
    simp only [List.append_assoc, List.singleton_append]

theorem lines_render (h : Moves t columns r) : Text.lines r.render = r.lines := by
  obtain ⟨ls, -, hl⟩ := h.exists_lines
  refine Remedy.lines_render ?_ h.isOneLine
  rw [hl]
  exact List.append_ne_nil_of_right_ne_nil _ (List.cons_ne_nil _ _)

/-- **What is dropped** by a remedy are the columns that it moves. -/
theorem isDropLine_iff (h : Moves t columns r) {line : String} :
    line ∈ Text.lines r.render ∧ IsDropLine line ↔
      ∃ c ∈ columns, line = dropLine t.name c.name := by
  obtain ⟨ls, hls, hl⟩ := h.exists_lines
  rw [h.lines_render, hl]
  constructor
  · rintro ⟨hm, hd⟩
    rcases List.mem_append.1 hm with hm | hm
    · exact absurd hd (hls line hm)
    · rcases List.mem_cons.1 hm with rfl | hm
      · exact absurd hd not_isDropLine_dropNote
      · obtain ⟨c, hc, rfl⟩ := List.mem_map.1 hm
        exact ⟨c, hc, rfl⟩
  · rintro ⟨c, hc, rfl⟩
    refine ⟨List.mem_append_right _ ?_, isDropLine_dropLine _ _⟩
    exact List.mem_cons_of_mem _ (List.mem_map_of_mem hc)

end Moves

end Remedy

end NormalForms
