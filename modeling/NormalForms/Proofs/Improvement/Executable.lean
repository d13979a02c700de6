import NormalForms.Improvement
import NormalForms.Proofs.Check.Remedy
import Mathlib.Data.List.Forall2
import Mathlib.Data.List.TakeWhile

/-!
# What an improvement script executes

An improvement script is laid out: its headings, and what the remedies suggest
beside their statements, are comments. What is left to execute is one statement
for each finding that is more than advice, in the order of the findings,
whatever the names in the schema.
-/

namespace NormalForms

open Text Script

namespace Improvement

/-- The characters of lines that are each followed by a line feed. -/
def textOf (parts : List String) : List Char := unlines (parts.map String.toList)

theorem textOf_append (as bs : List String) : textOf (as ++ bs) = textOf as ++ textOf bs := by
  rw [textOf, List.map_append, unlines_append, textOf, textOf]

theorem toList_render (a : Assessment) : (render a).toList = textOf (parts a) :=
  toList_join_feed (parts a)

theorem layout_textOf {ls : List String} (h : ∀ line ∈ ls, IsInert line.toList) :
    Layout (textOf ls) [] := by
  refine layout_unlines fun l hl => ?_
  obtain ⟨line, hline, rfl⟩ := List.mem_map.1 hl
  exact h line hline

/-! ## One finding -/

/-- A remedy is its lines, but for the line feed after the last one. -/
theorem trimEnd_render (r : Remedy) :
    trimEnd r.render.toList = trimEnd (unlines (r.lines.map String.toList)) := by
  rw [Remedy.render, String.toList_intercalate]
  rcases List.eq_nil_or_concat (r.lines.map String.toList) with h | ⟨ls, l, h⟩
  · rw [h]
    rfl
  · have hu : unlines (ls ++ [l]) = (unlines ls ++ l) ++ ['\n'] := by
      rw [unlines_append, unlines_cons, List.append_assoc]
      rfl
    rw [h, List.concat_eq_append, hu, @trimEnd_append_of_eq_nil _ ['\n'] rfl]
    exact congrArg trimEnd (intercalate_append_singleton ls l)

theorem trimEnd_of_isBlankText {s : String} (h : isBlankText s = true) : trimEnd s.toList = [] := by
  refine List.reverse_eq_nil_iff.2 (List.dropWhile_eq_nil_iff.2 fun c hc => ?_)
  exact List.all_eq_true.1 h c (List.mem_reverse.1 hc)

/-- The section of a finding holds the statement of its remedy, after comments. -/
theorem layout_section {f : Finding} {b : List Char} (h : f.Offers b) :
    ∃ ls, section? f = some ls ∧ Layout (textOf ls) [b] := by
  obtain ⟨r, hr, hw, hb⟩ := h
  have hl : Layout (unlines (r.lines.map String.toList)) [b] := hb ▸ Remedy.layout hw
  have hne : isBlankText r.render = false := by
    refine Bool.eq_false_iff.2 fun hblank => ?_
    have ht := trimEnd_of_isBlankText hblank
    rw [trimEnd_render] at ht
    exact hl.trimEnd_ne_nil (List.cons_ne_nil _ _) ht
  refine ⟨_, by simp only [section?, hr, hne]; rfl, ?_⟩
  rw [textOf_append]
  refine @Layout.append _ _ [] [b] (layout_textOf ?_) ?_
  · exact List.forall_mem_cons.2 ⟨isInert_nil, fun line => Remedy.isInert_of_mem_commentLines⟩
  · have ht : textOf [withoutTrailingBlanks r.render] = trimEnd r.render.toList ++ ['\n'] := by
      simp [textOf, unlines, withoutTrailingBlanks]
    rw [ht, trimEnd_render]
    exact hl.trimEnd

theorem section?_eq_none {f : Finding} (h : f.remedy? = none) : section? f = none := by
  rw [section?, h]

/-! ## All findings -/

/-- The text holds the statements `bs`, and these answer the findings that are
more than advice. -/
def Serves (cs : List Char) (fs : List Finding) : Prop :=
  ∃ bs, Layout cs bs ∧ List.Forall₂ (fun b f => Finding.AnsweredBy f (String.ofList b)) bs
    (fs.filter fun f => !f.isAdvice)

theorem serves_nil : Serves [] [] := ⟨[], .done, .nil⟩

theorem Serves.append {cs ds : List Char} {fs gs : List Finding} (h : Serves cs fs)
    (h' : Serves ds gs) : Serves (cs ++ ds) (fs ++ gs) := by
  obtain ⟨as, ha, hf⟩ := h
  obtain ⟨bs, hb, hg⟩ := h'
  refine ⟨as ++ bs, ha.append hb, ?_⟩
  rw [List.filter_append]
  exact List.rel_append hf hg

theorem Serves.after_inert {ms : List String} {fs : List Finding} (h : Serves (textOf ms) fs)
    (ls : List String) (hl : ∀ line ∈ ls, IsInert line.toList) :
    Serves (textOf (ls ++ ms)) fs := by
  have hls : Serves (textOf ls) [] := ⟨[], layout_textOf hl, .nil⟩
  rw [textOf_append]
  exact hls.append h

theorem serves_section {f : Finding} (h : f.IsServed) :
    Serves (textOf ((section? f).getD [])) [f] := by
  rcases h with ⟨ha, hr⟩ | ⟨ha, b, hb, hanswer⟩
  · rw [section?_eq_none hr]
    refine ⟨[], .done, ?_⟩
    rw [List.filter_cons_of_neg (by rw [ha]; decide)]
    exact .nil
  · obtain ⟨ls, hs, hl⟩ := layout_section hb
    rw [hs]
    refine ⟨[b], hl, ?_⟩
    rw [List.filter_cons_of_pos (by rw [ha]; rfl)]
    exact .cons hanswer .nil

theorem serves_sections {fs : List Finding} (h : ∀ f ∈ fs, f.IsServed) :
    Serves (textOf (fs.filterMap section?).flatten) fs := by
  induction fs with
  | nil => exact serves_nil
  | cons f fs ih =>
    obtain ⟨hf, hfs⟩ := List.forall_mem_cons.1 h
    have hcons : ((f :: fs).filterMap section?).flatten =
        (section? f).getD [] ++ (fs.filterMap section?).flatten := by
      rw [List.filterMap_cons]
      cases section? f <;> rfl
    rw [hcons, textOf_append]
    exact (serves_section hf).append (ih hfs)

theorem isInert_heading {text : String} (h : HasNoBreak text.toList) :
    IsInert ("-- " ++ text).toList := by
  have ht : ("-- " ++ text).toList = '-' :: '-' :: ' ' :: text.toList := by simp
  rw [ht]
  exact isInert_comment (List.forall_mem_cons.2 ⟨rfl, h⟩)

theorem isInert_formLine (form : Form) : IsInert ("-- " ++ form.label ++ " issues").toList := by
  rw [String.append_assoc]
  exact isInert_heading (by cases form <;> decide)

theorem levelLine_eq (a : Assessment) : "-- Current normalization level: " ++ a.label =
    "-- " ++ ("Current normalization level: " ++ a.label) := by
  rw [← String.append_assoc]
  rfl

theorem isInert_levelLine (a : Assessment) :
    IsInert ("-- Current normalization level: " ++ a.label).toList := by
  rw [levelLine_eq]
  refine isInert_heading ?_
  rw [Assessment.label]
  rcases a.achieved with _ | (_ | _ | _) <;> decide

theorem serves_formPart {a : Assessment} {form : Form} (h : ∀ f ∈ a.findings form, f.IsServed) :
    Serves (textOf (formPart a form)) (a.findings form) := by
  unfold formPart
  split
  · rename_i he
    rw [List.isEmpty_iff.1 he]
    exact serves_nil
  · exact (serves_sections h).after_inert ["", _]
      (List.forall_mem_cons.2 ⟨isInert_nil, List.forall_mem_singleton.2 (isInert_formLine form)⟩)

theorem serves_render {a : Assessment} (h : ∀ form, ∀ f ∈ a.findings form, f.IsServed) :
    Serves (render a).toList a.allFindings := by
  have hforms : ∀ forms : List Form,
      Serves (textOf (forms.flatMap (formPart a))) (forms.flatMap a.findings) := by
    intro forms
    induction forms with
    | nil => exact serves_nil
    | cons form forms ih =>
      rw [List.flatMap_cons, List.flatMap_cons, textOf_append]
      exact (serves_formPart (h form)).append ih
  have htitle : IsInert "-- SQL statements to improve schema normalization".toList :=
    isInert_comment (by decide)
  rw [toList_render]
  exact (hforms Form.all).after_inert [_, _]
    (List.forall_mem_cons.2 ⟨htitle, List.forall_mem_singleton.2 (isInert_levelLine a)⟩)

end Improvement

/-- **What an improvement script executes**: for each finding that is more than
advice, in order, one statement that answers it. -/
theorem Schema.executable_improvement {s : Schema}
    (h : ∀ t ∈ s.tables, ∀ c ∈ t.columns, isSelfContained c.dataType = true)
    (notices : List Notice) :
    List.Forall₂ (fun statement f => Finding.AnsweredBy f statement)
      (executable (Improvement.render (s.assess notices)))
      ((s.assess notices).allFindings.filter fun f =>
        f.kind != .structuredData && f.kind != .calculatedField) := by
  have hserved : ∀ form, ∀ f ∈ (s.assess notices).findings form, f.IsServed :=
    fun form f hf => isServed_of_mem_findings h hf
  obtain ⟨bs, hl, hanswer⟩ := Improvement.serves_render hserved
  have hadvice : (fun f : Finding => f.kind != .structuredData && f.kind != .calculatedField) =
      fun f => !f.isAdvice := by
    funext f
    rw [Finding.isAdvice, Bool.not_or]
    rfl
  rw [hl.executable_eq, hadvice]
  exact List.forall₂_map_left_iff.2 hanswer

/-- A table without a key whose names hold quotes, semicolons and line feeds. -/
def awkward : Table where
  name := "a\"; DROP TABLE b;\n--"
  columns :=
    [{ name := "tags'\n;", dataType := "ENUM('x;y',\n'--')" },
      { name := "[total", dataType := "DECIMAL(8,2)" }]

/-- The script for such a table executes a new key and a new table. -/
theorem Schema.executable_improvement_awkward :
    let shop : Schema := { name := "shop", tables := [awkward] }
    Schema.ofTables "shop" [awkward] = .ok shop ∧
    (((shop.assess []).allFindings.filter fun f =>
      f.kind != .structuredData && f.kind != .calculatedField).map Finding.kind =
        [.missingPrimaryKey, .multiValuedColumn]) ∧
    List.Forall₂ (fun statement f => Finding.AnsweredBy f statement)
      (executable (Improvement.render (shop.assess [])))
      ((shop.assess []).allFindings.filter fun f =>
        f.kind != .structuredData && f.kind != .calculatedField) :=
  ⟨by decide +kernel, by decide +kernel, Schema.executable_improvement (by decide +kernel) []⟩

end NormalForms
