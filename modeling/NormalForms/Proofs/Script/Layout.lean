import NormalForms.Proofs.Script.Quiet
import NormalForms.Proofs.Text.Trimming
import NormalForms.Text.Line

/-!
# Scripts of comments and statements

`executable` is what is left of the statements of a script without their blank
lines and their comments. A script is laid out (`Layout`) if it consists of
inert lines, each empty or a comment, and of statements, each with a semicolon
and a line feed after it. What is left to execute of such a script are its
statements, as they stand (`Layout.executable_eq`).
-/

namespace NormalForms.Script

open Text

/-! ## What is left to execute -/

/-- Neither a blank line nor a comment. -/
def isExecutable (line : String) : Bool := !isBlankText line && !startsWith line "--"

/-- A statement without the lines that execute nothing. -/
def withoutComments (statement : String) : String :=
  String.intercalate "\n" ((lines statement).filter isExecutable)

/-- What is left of the statements of a script, where anything is. -/
def executable (script : String) : List String :=
  ((statements script).map withoutComments).filter fun s => s != ""

/-! ## Cutting into lines -/

def HasNoBreak (l : List Char) : Prop := ∀ c ∈ l, isLineBreak c = false

instance (l : List Char) : Decidable (HasNoBreak l) :=
  decidable_of_iff ((l.all fun c => !isLineBreak c) = true) (by simp [HasNoBreak])

/-- Each line with a line feed after it. -/
def unlines (ls : List (List Char)) : List Char := ls.flatMap fun l => l ++ ['\n']

theorem unlines_cons (l : List Char) (ls : List (List Char)) :
    unlines (l :: ls) = l ++ '\n' :: unlines ls := by
  rw [unlines, List.flatMap_cons, ← unlines, List.append_assoc]
  rfl

theorem unlines_append (ls ms : List (List Char)) : unlines (ls ++ ms) = unlines ls ++ unlines ms :=
  List.flatMap_append

theorem fields_lastLine {l : List Char} (h : HasNoBreak l) : fields isLineBreak l = [l] :=
  fields_of_forall h

theorem fields_line {l : List Char} (h : HasNoBreak l) (cs : List Char) :
    fields isLineBreak (l ++ '\n' :: cs) = l :: fields isLineBreak cs := by
  rw [fields_append_cons rfl, fields_lastLine h, List.singleton_append]

theorem fields_intercalate {ls : List (List Char)} (hne : ls ≠ []) (h : ∀ l ∈ ls, HasNoBreak l) :
    fields isLineBreak (List.intercalate ['\n'] ls) = ls := by
  induction ls with
  | nil => exact absurd rfl hne
  | cons l ls ih =>
    obtain ⟨hl, hls⟩ := List.forall_mem_cons.1 h
    cases ls with
    | nil => simpa using fields_lastLine hl
    | cons m ls =>
      rw [List.intercalate_cons_cons, List.append_assoc, List.singleton_append, fields_line hl,
        ih (List.cons_ne_nil m ls) hls]

theorem fields_unlines (ls : List (List Char)) :
    fields isLineBreak (unlines ls) = ls.flatMap (fields isLineBreak) ++ [[]] := by
  induction ls with
  | nil => rfl
  | cons l ls ih =>
    rw [unlines_cons, fields_append_cons rfl, ih, List.flatMap_cons, List.append_assoc]

theorem toList_join_feed (parts : List String) :
    (String.join (parts.map (· ++ "\n"))).toList = unlines (parts.map String.toList) := by
  rw [String.toList_join, unlines, List.flatMap_map, List.flatMap_map]
  exact congrArg (parts.flatMap ·) (funext fun _ => String.toList_append)

/-- The lines of parts that are each followed by a line feed. -/
theorem lines_join_feed (parts : List String) :
    lines (String.join (parts.map (· ++ "\n"))) = parts.flatMap lines ++ [""] := by
  rw [lines, toList_join_feed, fields_unlines, List.map_append, List.flatMap_map,
    List.map_flatMap]
  rfl

/-! ## Inert lines -/

/-- A line that is empty or a comment. -/
structure IsInert (l : List Char) : Prop where
  hasNoBreak : HasNoBreak l
  empty_or_comment : l = [] ∨ ∃ cs, l = '-' :: '-' :: cs

theorem isInert_nil : IsInert [] := ⟨List.forall_mem_nil _, .inl rfl⟩

theorem isInert_comment {cs : List Char} (h : HasNoBreak cs) : IsInert ('-' :: '-' :: cs) :=
  ⟨List.forall_mem_cons.2 ⟨rfl, List.forall_mem_cons.2 ⟨rfl, h⟩⟩, .inr ⟨cs, rfl⟩⟩

theorem IsInert.quiet {l : List Char} (h : IsInert l) : Quiet (l ++ ['\n']) := by
  rcases h.empty_or_comment with rfl | ⟨cs, rfl⟩
  · exact quiet_of_neutral rfl
  · refine quiet_comment fun hm => ?_
    have := h.hasNoBreak '\n' (List.mem_cons_of_mem _ (List.mem_cons_of_mem _ hm))
    cases this

theorem IsInert.isExecutable_eq {l : List Char} (h : IsInert l) :
    isExecutable (String.ofList l) = false := by
  rcases h.empty_or_comment with rfl | ⟨cs, rfl⟩
  · rfl
  · simp [isExecutable, startsWith]

theorem IsInert.trimEnd {l : List Char} (h : IsInert l) : IsInert (trimEnd l) := by
  rcases h.empty_or_comment with rfl | ⟨cs, rfl⟩
  · exact isInert_nil
  · have hcs : HasNoBreak (Text.trimEnd cs) := fun c hc =>
      h.hasNoBreak c (List.mem_cons_of_mem _ (List.mem_cons_of_mem _ (mem_of_mem_trimEnd hc)))
    rw [trimEnd_cons_visible rfl, trimEnd_cons_visible rfl]
    exact isInert_comment hcs

/-- Of inert lines, trimming leaves nothing that executes. -/
theorem isExecutable_trimEnd_unlines {ls : List (List Char)} (h : ∀ l ∈ ls, IsInert l) :
    ∀ l ∈ fields isLineBreak (trimEnd (unlines ls)), isExecutable (String.ofList l) = false := by
  induction ls with
  | nil =>
    intro l hl
    cases List.mem_singleton.1 hl
    rfl
  | cons l ls ih =>
    obtain ⟨hl, hls⟩ := List.forall_mem_cons.1 h
    rw [unlines_cons]
    by_cases hn : trimEnd ('\n' :: unlines ls) = []
    · rw [trimEnd_append_of_eq_nil hn, fields_lastLine hl.trimEnd.hasNoBreak]
      exact List.forall_mem_singleton.2 hl.trimEnd.isExecutable_eq
    · have hu : trimEnd (unlines ls) ≠ [] := fun hu => hn (trimEnd_feed_of_eq_nil hu)
      rw [trimEnd_append_of_ne_nil hn, trimEnd_feed_of_ne_nil hu, fields_line hl.hasNoBreak]
      exact List.forall_mem_cons.2 ⟨hl.isExecutable_eq, ih hls⟩

/-- Trimming removes whole lines in front of what starts visibly. -/
theorem trimStart_unlines {ls : List (List Char)} (h : ∀ l ∈ ls, IsInert l) {cs : List Char}
    (hcs : trimStart cs = cs) :
    ∃ ms, (∀ l ∈ ms, IsInert l) ∧ trimStart (unlines ls ++ cs) = unlines ms ++ cs := by
  induction ls with
  | nil => exact ⟨[], List.forall_mem_nil _, hcs⟩
  | cons l ls ih =>
    obtain ⟨hl, hls⟩ := List.forall_mem_cons.1 h
    rcases hl.empty_or_comment with rfl | ⟨ds, rfl⟩
    · exact ih hls
    · exact ⟨_, h, rfl⟩

/-! ## Statements -/

/-- A statement: quiet, visible at both ends, and without a line that executes
nothing. -/
structure IsStatement (b : List Char) : Prop where
  quiet : Quiet b
  ne_nil : b ≠ []
  trimStart_eq : trimStart b = b
  trimEnd_eq : trimEnd b = b
  withoutComments_eq : withoutComments (String.ofList b) = String.ofList b

theorem withoutComments_intercalate {ls : List (List Char)} (hne : ls ≠ [])
    (hb : ∀ l ∈ ls, HasNoBreak l) (he : ∀ l ∈ ls, isExecutable (String.ofList l) = true) :
    withoutComments (String.ofList (List.intercalate ['\n'] ls)) =
      String.ofList (List.intercalate ['\n'] ls) := by
  have hf : (ls.map String.ofList).filter isExecutable = ls.map String.ofList := by
    refine List.filter_eq_self.2 fun s hs => ?_
    obtain ⟨l, hl, rfl⟩ := List.mem_map.1 hs
    exact he l hl
  rw [withoutComments, lines, String.toList_ofList, fields_intercalate hne hb, hf,
    ← String.toList_inj, String.toList_intercalate, String.toList_ofList, List.map_map]
  simp [Function.comp_def]

theorem intercalate_append_singleton (ls : List (List Char)) (l : List Char) :
    List.intercalate ['\n'] (ls ++ [l]) = unlines ls ++ l := by
  induction ls with
  | nil => simp [unlines]
  | cons m ls ih =>
    rw [unlines_cons, List.append_assoc, List.cons_append, List.cons_append, ← ih]
    cases ls with
    | nil => simp
    | cons n ls => simp [List.intercalate_cons_cons]

theorem isExecutable_of_visible {c : Char} {cs : List Char} (hc : c ≠ '-')
    (hv : ∃ d ∈ c :: cs, isBlank d = false) : isExecutable (String.ofList (c :: cs)) = true := by
  obtain ⟨d, hd, hb⟩ := hv
  have hall : (c :: cs).all isBlank = false :=
    List.all_eq_false.2 ⟨d, hd, by rw [hb]; decide⟩
  have hstart : "--".toList.isPrefixOf (c :: cs) = false := by
    simp [List.isPrefixOf, Ne.symm hc]
  rw [isExecutable, isBlankText, startsWith, String.toList_ofList, hall, hstart]
  rfl

/-- A line of a statement: quiet up to its end, and not one that executes
nothing. -/
structure IsCodeLine (l : List Char) : Prop where
  hasNoBreak : HasNoBreak l
  isExecutable_eq : isExecutable (String.ofList l) = true
  quiet : Quiet (l ++ ['\n'])

theorem IsCodeLine.ne_nil {l : List Char} (h : IsCodeLine l) : l ≠ [] := by
  rintro rfl
  have he := h.isExecutable_eq
  cases he

theorem quiet_unlines {ls : List (List Char)} (h : ∀ l ∈ ls, IsCodeLine l) :
    Quiet (unlines ls) := by
  induction ls with
  | nil => exact quiet_nil
  | cons l ls ih =>
    obtain ⟨hl, hls⟩ := List.forall_mem_cons.1 h
    exact hl.quiet.append (ih hls)

/-- Lines of code are a statement, if the last one ends in code. -/
theorem isStatement_of_lines {ls : List (List Char)} {l : List Char}
    (h : ∀ m ∈ ls, IsCodeLine m) (hl : IsCodeLine l) (hq : Quiet l)
    (hs : trimStart (unlines ls ++ l) = unlines ls ++ l) (ht : trimEnd l = l) :
    IsStatement (unlines ls ++ l) := by
  have hall : ∀ m ∈ ls ++ [l], IsCodeLine m :=
    List.forall_mem_append.2 ⟨h, List.forall_mem_singleton.2 hl⟩
  refine ⟨(quiet_unlines h).append hq, ?_, hs, ?_, ?_⟩
  · exact fun he => hl.ne_nil (List.append_eq_nil_iff.1 he).2
  · rw [trimEnd_append_of_ne_nil (by rw [ht]; exact hl.ne_nil), ht]
  · rw [← intercalate_append_singleton]
    exact withoutComments_intercalate (by simp) (fun m hm => (hall m hm).hasNoBreak)
      fun m hm => (hall m hm).isExecutable_eq

theorem isStatement_of_line {l : List Char} (hl : IsCodeLine l) (hq : Quiet l)
    (hs : trimStart l = l) (ht : trimEnd l = l) : IsStatement l :=
  @isStatement_of_lines [] l (List.forall_mem_nil _) hl hq hs ht

/-- Inert lines in front of a statement do not count. -/
theorem withoutComments_unlines {ls : List (List Char)} (h : ∀ l ∈ ls, IsInert l)
    (cs : List Char) :
    withoutComments (String.ofList (unlines ls ++ cs)) = withoutComments (String.ofList cs) := by
  induction ls with
  | nil => rfl
  | cons l ls ih =>
    obtain ⟨hl, hls⟩ := List.forall_mem_cons.1 h
    rw [← ih hls]
    simp only [withoutComments, lines, String.toList_ofList]
    rw [unlines_cons, List.append_assoc, List.cons_append, fields_line hl.hasNoBreak, List.map_cons,
      List.filter_cons_of_neg (by rw [hl.isExecutable_eq]; decide)]

/-! ## Layouts -/

/-- The text of a script and the statements in it. -/
inductive Layout : List Char → List (List Char) → Prop where
  | done : Layout [] []
  | line {l cs : List Char} {bs : List (List Char)} :
    IsInert l → Layout cs bs → Layout (l ++ '\n' :: cs) bs
  | statement {b cs : List Char} {bs : List (List Char)} :
    IsStatement b → Layout cs bs → Layout (b ++ ';' :: '\n' :: cs) (b :: bs)

theorem Layout.append {cs ds : List Char} {as bs : List (List Char)} (h : Layout cs as)
    (h' : Layout ds bs) : Layout (cs ++ ds) (as ++ bs) := by
  induction h with
  | done => exact h'
  | line hl _ ih =>
    rw [List.append_assoc, List.cons_append]
    exact .line hl ih
  | statement hb _ ih =>
    rw [List.append_assoc, List.cons_append, List.cons_append]
    exact .statement hb ih

theorem layout_unlines {ls : List (List Char)} (h : ∀ l ∈ ls, IsInert l) :
    Layout (unlines ls) [] := by
  induction ls with
  | nil => exact .done
  | cons l ls ih =>
    obtain ⟨hl, hls⟩ := List.forall_mem_cons.1 h
    rw [unlines_cons]
    exact .line hl (ih hls)

/-- A script with a statement is not blank. -/
theorem Layout.trimEnd_ne_nil {cs : List Char} {bs : List (List Char)} (h : Layout cs bs)
    (hb : bs ≠ []) : trimEnd cs ≠ [] := by
  induction h with
  | done => exact absurd rfl hb
  | line _ _ ih =>
    rw [trimEnd_append_of_ne_nil (by rw [trimEnd_feed_of_ne_nil (ih hb)]; exact List.cons_ne_nil _ _),
      trimEnd_feed_of_ne_nil (ih hb)]
    simp
  | statement _ _ _ =>
    rw [trimEnd_append_of_ne_nil (by rw [trimEnd_cons_visible rfl]; exact List.cons_ne_nil _ _),
      trimEnd_cons_visible rfl]
    simp

/-- What trimming makes of a line feed and a script after it. -/
theorem Layout.trimEnd_feed {cs : List Char} {bs : List (List Char)} (h : Layout cs bs)
    (ht : Layout (trimEnd cs ++ ['\n']) bs) :
    ∃ ds, trimEnd ('\n' :: cs) ++ ['\n'] = '\n' :: ds ∧ Layout ds bs := by
  by_cases hc : Text.trimEnd cs = []
  · cases bs with
    | nil => exact ⟨[], by rw [trimEnd_feed_of_eq_nil hc]; rfl, .done⟩
    | cons b bs => exact absurd hc (h.trimEnd_ne_nil (List.cons_ne_nil b bs))
  · exact ⟨_, by rw [trimEnd_feed_of_ne_nil hc]; rfl, ht⟩

/-- Trimming the end of a script keeps its statements. -/
theorem Layout.trimEnd {cs : List Char} {bs : List (List Char)} (h : Layout cs bs) :
    Layout (trimEnd cs ++ ['\n']) bs := by
  induction h with
  | done => exact .line isInert_nil .done
  | @line l cs bs hl h ih =>
    obtain ⟨ds, hds, hd⟩ := h.trimEnd_feed ih
    by_cases hc : Text.trimEnd ('\n' :: cs) = []
    · rw [hc] at hds
      cases hds
      rw [trimEnd_append_of_eq_nil hc]
      exact .line hl.trimEnd hd
    · rw [trimEnd_append_of_ne_nil hc, List.append_assoc, hds]
      exact .line hl hd
  | statement hb h ih =>
    obtain ⟨ds, hds, hd⟩ := h.trimEnd_feed ih
    rw [trimEnd_append_of_ne_nil (by rw [trimEnd_cons_visible rfl]; exact List.cons_ne_nil _ _),
      trimEnd_cons_visible rfl, List.append_assoc, List.cons_append, hds]
    exact .statement hb hd

/-- The segments of a script and the statements in them: inert lines lead to
each statement, and follow the last one. -/
inductive Cut : List (List Char) → List (List Char) → Prop where
  | last {ls : List (List Char)} : (∀ l ∈ ls, IsInert l) → Cut [unlines ls] []
  | next {ls ps bs : List (List Char)} {b : List Char} :
    (∀ l ∈ ls, IsInert l) → IsStatement b → Cut ps bs → Cut ((unlines ls ++ b) :: ps) (b :: bs)

theorem Cut.line {p l : List Char} {ps bs : List (List Char)} (h : Cut (p :: ps) bs)
    (hl : IsInert l) : Cut ((l ++ '\n' :: p) :: ps) bs := by
  cases h with
  | last hls =>
    rw [← unlines_cons]
    exact .last (List.forall_mem_cons.2 ⟨hl, hls⟩)
  | next hls hb h =>
    rw [← List.cons_append, ← List.append_assoc, ← unlines_cons]
    exact .next (List.forall_mem_cons.2 ⟨hl, hls⟩) hb h

theorem cut_line {l cs : List Char} {bs : List (List Char)} (hl : IsInert l)
    (h : Cut (scan .code cs) bs) : Cut (scan .code (l ++ '\n' :: cs)) bs := by
  obtain ⟨p, ps, hp⟩ := List.exists_cons_of_ne_nil (scan_ne_nil .code cs)
  rw [hp] at h
  rw [← List.singleton_append, ← List.append_assoc, hl.quiet cs, hp, foldr_extend,
    List.append_assoc]
  exact h.line hl

/-- A script is cut at the semicolons after its statements, and nowhere else. -/
theorem Layout.cut {cs : List Char} {bs : List (List Char)} (h : Layout cs bs) :
    Cut (scan .code cs) bs := by
  induction h with
  | done => exact @Cut.last [] (List.forall_mem_nil _)
  | line hl _ ih => exact cut_line hl ih
  | @statement b cs bs hb _ ih =>
    have hs : scan .code (';' :: '\n' :: cs) = [] :: scan .code ('\n' :: cs) := rfl
    rw [hb.quiet, hs, foldr_extend, List.append_nil]
    exact @Cut.next [] _ _ _ (List.forall_mem_nil _) hb (cut_line isInert_nil ih)

/-- What is left to execute of the segments of a script. -/
def executableOf (segments : List (List Char)) : List String :=
  ((((segments.map trim).filter fun s => !s.isEmpty).map String.ofList).map withoutComments).filter
    fun s => s != ""

theorem executableOf_cons (p : List Char) (ps : List (List Char)) :
    executableOf (p :: ps) =
      if withoutComments (String.ofList (trim p)) = "" then executableOf ps
      else withoutComments (String.ofList (trim p)) :: executableOf ps := by
  unfold executableOf
  rw [List.map_cons]
  cases ht : trim p with
  | nil => rfl
  | cons c cs =>
    rw [List.filter_cons_of_pos rfl, List.map_cons, List.map_cons]
    by_cases h : withoutComments (String.ofList (c :: cs)) = ""
    · rw [if_pos h, List.filter_cons_of_neg (by rw [h]; decide)]
    · rw [if_neg h, List.filter_cons_of_pos (by rwa [bne_iff_ne])]

theorem Cut.executableOf_eq {ps bs : List (List Char)} (h : Cut ps bs) :
    executableOf ps = bs.map String.ofList := by
  induction h with
  | @last ls hls =>
    obtain ⟨ms, hms, ht⟩ := trimStart_unlines hls (show trimStart [] = [] from rfl)
    rw [List.append_nil, List.append_nil] at ht
    have hw : withoutComments (String.ofList (trim (unlines ls))) = "" := by
      have hf : ((fields isLineBreak (trimEnd (unlines ms))).map String.ofList).filter
          isExecutable = [] := by
        refine List.filter_eq_nil_iff.2 fun s hs => ?_
        obtain ⟨l, hl, rfl⟩ := List.mem_map.1 hs
        rw [isExecutable_trimEnd_unlines hms l hl]
        decide
      rw [trim, ht, withoutComments, lines, String.toList_ofList, hf]
      rfl
    rw [executableOf_cons, if_pos hw]
    rfl
  | @next ls ps bs b hls hb _ ih =>
    obtain ⟨ms, hms, ht⟩ := trimStart_unlines hls hb.trimStart_eq
    have he : trimEnd (unlines ms ++ b) = unlines ms ++ b := by
      rw [trimEnd_append_of_ne_nil (by rw [hb.trimEnd_eq]; exact hb.ne_nil), hb.trimEnd_eq]
    have hw : withoutComments (String.ofList (trim (unlines ls ++ b))) = String.ofList b := by
      rw [trim, ht, he, withoutComments_unlines hms, hb.withoutComments_eq]
    have hne : String.ofList b ≠ "" := fun h => hb.ne_nil (by simpa using h)
    rw [executableOf_cons, hw, if_neg hne, ih]
    rfl

/-- **What is left to execute of a script that is laid out** are its statements. -/
theorem Layout.executable_eq {script : String} {bs : List (List Char)}
    (h : Layout script.toList bs) : executable script = bs.map String.ofList :=
  h.cut.executableOf_eq

end NormalForms.Script
