import NormalForms.Proofs.Finding.Columns
import NormalForms.Proofs.Improvement.Executable
import NormalForms.Proofs.Remedy.Lines

/-!
# The lines of an improvement script

Names, types and descriptions of a schema may hold line breaks. None of them
gets into an improvement script as it is, so that every line of the script has
one of a few shapes (`IsScriptLine`): to a reader of the script it is plain that
a line which is not a comment creates a table or adds a key, and that no step of
a migration is ever executed (`IsMigration`).
-/

namespace NormalForms

open Identifier Text Script

namespace Improvement

/-- What a line of a script about the schema `s` can be. -/
inductive IsScriptLine (s : Schema) : String → Prop
  | empty : IsScriptLine s ""
  | comment (text : String) : IsScriptLine s ("-- " ++ text)
  | tableHead (name : String) : IsScriptLine s ("CREATE TABLE " ++ name ++ " (")
  | entry (text : String) : IsScriptLine s ("    " ++ text)
  | tableEnd : IsScriptLine s ");"
  | key {t : Table} (ht : t ∈ s.tables) : IsScriptLine s
      ("ALTER TABLE " ++ quote t.name ++ " ADD COLUMN id INT AUTO_INCREMENT PRIMARY KEY;")

/-- The line does a step of a migration: it moves data, drops a column, or adds a
foreign key. -/
def IsMigration (line : String) : Prop :=
  (∃ start ∈ ["INSERT", "SELECT", "DROP COLUMN", "ADD FOREIGN KEY"],
    startsWith line start = true) ∨
  ∃ table rest, line = "ALTER TABLE " ++ quote table ++ " DROP COLUMN" ++ rest ∨
    line = "ALTER TABLE " ++ quote table ++ " ADD FOREIGN KEY" ++ rest

/-- What follows the name in a line that changes a table is told by the line. -/
theorem alter_inj {a b x y : String}
    (h : "ALTER TABLE " ++ quote a ++ x = "ALTER TABLE " ++ quote b ++ y)
    (hx : x.toList.head? = some ' ') (hy : y.toList.head? = some ' ') : x = y := by
  obtain ⟨xs, hxs⟩ := List.head?_eq_some_iff.1 hx
  obtain ⟨ys, hys⟩ := List.head?_eq_some_iff.1 hy
  have hc := congrArg String.toList h
  simp only [String.toList_append, toList_quote, List.append_assoc, hxs, hys] at hc
  refine String.toList_inj.1 ?_
  rw [hxs, hys, quoted_append_inj (List.append_cancel_left hc)]

theorem IsScriptLine.not_isMigration {s : Schema} {line : String} (h : IsScriptLine s line) :
    ¬ IsMigration line := by
  rintro (⟨start, hs, hstart⟩ | ⟨table, rest, he⟩)
  · simp only [List.mem_cons, List.not_mem_nil, or_false] at hs
    cases h <;> rcases hs with rfl | rfl | rfl | rfl <;>
      simp [startsWith, List.isPrefixOf] at hstart
  · have hstart : startsWith line "ALTER TABLE " = true := by
      rcases he with rfl | rfl <;> simp [startsWith, List.isPrefixOf]
    cases h with
    | key ht =>
      rcases he with he | he
      · have hrest := alter_inj (he.trans String.append_assoc) (by simp) (by simp)
        simpa using congrArg String.toList hrest
      · have hrest := alter_inj (he.trans String.append_assoc) (by simp) (by simp)
        simpa using congrArg String.toList hrest
    | empty | comment | tableHead | entry | tableEnd =>
      simp [startsWith, List.isPrefixOf] at hstart

/-! ## The lines of a remedy -/

variable {s : Schema} {t : Table}

theorem isScriptLine_of_mem_commentLines {text line : String}
    (h : line ∈ Remedy.commentLines text) : IsScriptLine s line := by
  obtain ⟨l, -, rfl⟩ := List.mem_map.1 h
  exact .comment l

theorem isScriptLine_of_isComment {step : Remedy.Step} (h : step.IsComment) :
    ∀ line ∈ step.lines, IsScriptLine s line := by
  intro line hl
  cases step with
  | note | dropColumn => exact isScriptLine_of_mem_commentLines hl
  | blank =>
    cases List.mem_singleton.1 hl
    exact .empty
  | addSurrogateKey | createTable => cases h

theorem isScriptLine_createTable {name : String} {entries : List Remedy.Entry} :
    ∀ line ∈ (Remedy.Step.createTable name entries).lines, IsScriptLine s line := by
  intro line hl
  rcases List.mem_cons.1 hl with rfl | hl
  · exact .tableHead (quote name)
  · rcases List.mem_append.1 hl with hl | hl
    · obtain ⟨e, -, rfl | rfl⟩ := Remedy.mem_entryLines hl
      · exact .entry e.render
      · rw [String.append_assoc]
        exact .entry (e.render ++ ",")
    · cases List.mem_singleton.1 hl
      exact .tableEnd

theorem isScriptLine_of_moves {columns : List Column} {r : Remedy} (h : r.Moves t columns) :
    ∀ line ∈ Text.lines r.render, IsScriptLine s line := by
  rw [h.lines_render]
  intro line hl
  obtain ⟨step, hs, hl⟩ := List.mem_flatMap.1 hl
  exact h.forall_steps (P := fun step => ∀ line ∈ step.lines, IsScriptLine s line)
    (fun _ => isScriptLine_of_isComment) (fun _ _ _ => isScriptLine_createTable) step hs line hl

theorem isScriptLine_surrogateKey (ht : t ∈ s.tables) :
    ∀ line ∈ Text.lines (Remedy.surrogateKey t).render, IsScriptLine s line := by
  rw [Remedy.lines_render_surrogateKey]
  exact List.forall_mem_singleton.2 (.key ht)

/-- **Every line of a remedy** has one of the shapes. -/
theorem isScriptLine_of_isAbout {f : Finding} (ht : t ∈ s.tables) (h : f.IsAbout t)
    {remedy : String} (hr : f.remedy? = some remedy) :
    ∀ line ∈ Text.lines remedy, IsScriptLine s line := by
  obtain ⟨r, rfl, rfl | ⟨cs, hmoves⟩⟩ := h.exists_remedy hr
  · exact isScriptLine_surrogateKey ht
  · exact isScriptLine_of_moves hmoves

/-! ## The end of a remedy -/

/-- The last character of the text is not a blank. -/
def EndsVisibly (text : String) : Prop :=
  ∃ cs c, text.toList = cs ++ [c] ∧ isBlank c = false

theorem EndsVisibly.append {text : String} (h : EndsVisibly text) (front : String) :
    EndsVisibly (front ++ text) := by
  obtain ⟨cs, c, ht, hc⟩ := h
  refine ⟨front.toList ++ cs, c, ?_, hc⟩
  rw [String.toList_append, ht, List.append_assoc]

theorem EndsVisibly.withoutTrailingBlanks_eq {text : String} (h : EndsVisibly text) :
    withoutTrailingBlanks text = text := by
  obtain ⟨cs, c, ht, hc⟩ := h
  have htrim : trimEnd [c] = [c] := trimEnd_cons_visible hc []
  rw [withoutTrailingBlanks, ht, trimEnd_append_of_ne_nil (by simp [htrim]), htrim, ← ht,
    String.ofList_toList]

theorem endsVisibly_render {r : Remedy} {ls : List String} {l : String} (h : r.lines = ls ++ [l])
    (hl : EndsVisibly l) : EndsVisibly r.render := by
  obtain ⟨cs, c, ht, hc⟩ := hl
  refine ⟨unlines (ls.map String.toList) ++ cs, c, ?_, hc⟩
  rw [Remedy.render, String.toList_intercalate, h, List.map_append, List.map_singleton,
    List.append_assoc, ← ht]
  exact intercalate_append_singleton _ _

theorem endsVisibly_surrogateKey (t : Table) : EndsVisibly (Remedy.surrogateKey t).render := by
  have hl : EndsVisibly " ADD COLUMN id INT AUTO_INCREMENT PRIMARY KEY;" :=
    ⟨" ADD COLUMN id INT AUTO_INCREMENT PRIMARY KEY".toList, ';', by decide +kernel, rfl⟩
  have hlines : (Remedy.surrogateKey t).lines = [] ++ [_] := rfl
  exact endsVisibly_render hlines (hl.append _)

theorem endsVisibly_of_moves {columns : List Column} {r : Remedy} (h : r.Moves t columns) :
    EndsVisibly r.render := by
  obtain ⟨ls, -, hl⟩ := h.exists_lines
  rcases List.eq_nil_or_concat columns with rfl | ⟨cs, c, rfl⟩
  · exact endsVisibly_render hl
      ⟨"-- After migration, drop the moved columns".toList, ':', by decide +kernel, rfl⟩
  · have hsemicolon : EndsVisibly ";" := ⟨[], ';', rfl, rfl⟩
    rw [List.concat_eq_append, List.map_append, ← List.cons_append, ← List.append_assoc] at hl
    exact endsVisibly_render hl (hsemicolon.append _)

theorem endsVisibly_of_isAbout {f : Finding} (h : f.IsAbout t) {remedy : String}
    (hr : f.remedy? = some remedy) : EndsVisibly remedy := by
  obtain ⟨r, rfl, rfl | ⟨cs, hmoves⟩⟩ := h.exists_remedy hr
  · exact endsVisibly_surrogateKey t
  · exact endsVisibly_of_moves hmoves

/-! ## The whole script -/

theorem lines_render (a : Assessment) :
    Text.lines (render a) = (parts a).flatMap Text.lines ++ [""] :=
  lines_join_feed (parts a)

theorem isScriptLine_of_hasNoBreak {line : String} (hb : HasNoBreak line.toList)
    (h : IsScriptLine s line) : ∀ l ∈ Text.lines line, IsScriptLine s l := by
  rw [Text.lines, fields_lastLine hb]
  simpa using h

/-- The lines of the parts of a script about one finding. -/
theorem isScriptLine_section {f : Finding} (ht : t ∈ s.tables) (h : f.IsAbout t)
    {ls : List String} (hs : section? f = some ls) :
    ∀ part ∈ ls, ∀ line ∈ Text.lines part, IsScriptLine s line := by
  unfold section? at hs
  split at hs
  · cases hs
  · rename_i remedy hr
    split at hs
    · cases hs
    · cases hs
      refine List.forall_mem_append.2 ⟨List.forall_mem_cons.2 ⟨?_, fun part hp => ?_⟩,
        List.forall_mem_singleton.2 ?_⟩
      · exact isScriptLine_of_hasNoBreak (by decide) .empty
      · exact isScriptLine_of_hasNoBreak (Remedy.hasNoBreak_of_mem_commentLines hp)
          (isScriptLine_of_mem_commentLines hp)
      · rw [(endsVisibly_of_isAbout h hr).withoutTrailingBlanks_eq]
        exact isScriptLine_of_isAbout ht h hr

theorem isScriptLine_formPart {a : Assessment} {form : Form}
    (h : ∀ f ∈ a.findings form, ∃ t ∈ s.tables, f.IsAbout t) :
    ∀ part ∈ formPart a form, ∀ line ∈ Text.lines part, IsScriptLine s line := by
  unfold formPart
  split
  · exact List.forall_mem_nil _
  · refine List.forall_mem_cons.2 ⟨?_, List.forall_mem_cons.2 ⟨?_, fun part hp => ?_⟩⟩
    · exact isScriptLine_of_hasNoBreak (by decide) .empty
    · refine isScriptLine_of_hasNoBreak (isInert_formLine form).hasNoBreak ?_
      rw [String.append_assoc]
      exact .comment _
    · obtain ⟨ls, hls, hp⟩ := List.mem_flatten.1 hp
      obtain ⟨f, hf, hs⟩ := List.mem_filterMap.1 hls
      obtain ⟨t, ht, habout⟩ := h f hf
      exact isScriptLine_section ht habout hs part hp

theorem isScriptLine_render {a : Assessment}
    (h : ∀ form, ∀ f ∈ a.findings form, ∃ t ∈ s.tables, f.IsAbout t) :
    ∀ line ∈ Text.lines (render a), IsScriptLine s line := by
  rw [lines_render]
  refine List.forall_mem_append.2 ⟨fun line hl => ?_, List.forall_mem_singleton.2 .empty⟩
  obtain ⟨part, hp, hl⟩ := List.mem_flatMap.1 hl
  rcases List.mem_cons.1 hp with rfl | hp
  · exact isScriptLine_of_hasNoBreak (by decide)
      (.comment "SQL statements to improve schema normalization") line hl
  · rcases List.mem_cons.1 hp with rfl | hp
    · refine isScriptLine_of_hasNoBreak (isInert_levelLine a).hasNoBreak ?_ line hl
      rw [levelLine_eq]
      exact .comment _
    · obtain ⟨form, -, hp⟩ := List.mem_flatMap.1 hp
      exact isScriptLine_formPart (h form) part hp line hl

end Improvement

/-- **Every line of an improvement script** has one of the shapes, whatever the
names and types in the schema, and none does a step of a migration. -/
theorem Schema.lines_improvement (s : Schema) (notices : List Notice) {line : String}
    (hl : line ∈ Text.lines (Improvement.render (s.assess notices))) :
    Improvement.IsScriptLine s line ∧ ¬ Improvement.IsMigration line := by
  have hshape : Improvement.IsScriptLine s line :=
    Improvement.isScriptLine_render (fun _ _ => exists_isAbout_of_mem_findings) line hl
  exact ⟨hshape, hshape.not_isMigration⟩

/-- A table without a key whose name has a second line. -/
def twoLined : Table where
  name := "a\rSELECT"
  columns := [{ name := "b", dataType := "INT" }]

/-- In the script for such a table the name stays on the line of its statement. -/
theorem Schema.lines_improvement_twoLined :
    let shop : Schema := { name := "shop", tables := [twoLined] }
    Schema.ofTables "shop" [twoLined] = .ok shop ∧
    "ALTER TABLE \"a SELECT\" ADD COLUMN id INT AUTO_INCREMENT PRIMARY KEY;" ∈
      Text.lines (Improvement.render (shop.assess [])) ∧
    Improvement.IsScriptLine shop
      "ALTER TABLE \"a SELECT\" ADD COLUMN id INT AUTO_INCREMENT PRIMARY KEY;" ∧
    ¬ Improvement.IsMigration
      "ALTER TABLE \"a SELECT\" ADD COLUMN id INT AUTO_INCREMENT PRIMARY KEY;" := by
  intro shop
  have hl : "ALTER TABLE \"a SELECT\" ADD COLUMN id INT AUTO_INCREMENT PRIMARY KEY;" ∈
      Text.lines (Improvement.render (shop.assess [])) := by
    -- part by part, which is less to evaluate than the script as one text
    rw [Improvement.lines_render]
    decide +kernel
  exact ⟨by decide +kernel, hl, shop.lines_improvement [] hl⟩

end NormalForms
