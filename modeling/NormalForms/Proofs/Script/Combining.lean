import NormalForms.Proofs.Script.Rejoining

/-!
# Scripts made of several texts

`combine` puts a semicolon on a line of its own after each text. A text is finished
(`IsFinished`) if no region is open at its end but perhaps a comment that the line
feed in front of that semicolon ends. Nothing of a finished text runs over into the
next one: the statements of the script are those of the texts, one text after the
other (`statements_combine`), whether a text ends in a semicolon, in blanks, or in a
character that could have opened a comment.

The region that is open at the end of a text tells the mode in which the text
leaves the scan, and the other way round (`isFinished_iff`).
-/

namespace NormalForms.Script

open Text

/-! ## Regions that are open at the end -/

/-- At the end of the script, a region of the bounds `b` is open. -/
inductive LeavesOpen (b : Bounds) : List Char → Prop
  | unclosed {body : List Char} : ¬ b.closer <:+: body → LeavesOpen b (b.opener ++ body)
  | plain {c : Char} {cs : List Char} :
    IsOutside (c :: cs) → LeavesOpen b cs → LeavesOpen b (c :: cs)
  | closed {b' : Bounds} {body rest : List Char} :
    b' ∈ bounds → ClosesFirst b'.closer body rest → LeavesOpen b rest →
      LeavesOpen b (b'.opener ++ (body ++ (b'.closer ++ rest)))

/-- No region is open at the end of the script but perhaps a comment up to the end
of a line. -/
def IsFinished (cs : List Char) : Prop :=
  ∀ b ∈ bounds, LeavesOpen b cs → b.closer = ['\n']

/-- The scan is in mode `m` from the opener to the closer. -/
structure Bounds.Keeps (b : Bounds) (m : Mode) : Prop where
  opens : ∀ cs, endMode .code (b.opener ++ cs) = endMode m cs
  stays : ∀ {c cs}, ¬ b.closer <+: c :: cs → endMode m (c :: cs) = endMode m cs
  closes : ∀ cs, endMode m (b.closer ++ cs) = endMode .code cs
  ne_code : m ≠ .code
  line_iff : m = .lineComment ↔ b.closer = ['\n']

theorem keeps_quoted {o q : Char} (ho : ∀ cs, opensComment o cs = false)
    (henter : Mode.enter o = .quoted q) (hq : q ≠ '\n') :
    Bounds.Keeps ⟨[o], [q]⟩ (.quoted q) where
  opens cs := by rw [List.singleton_append, endMode_code_cons (ho cs), henter]
  stays {c cs} hc := by
    have hne : c ≠ q := fun he => hc (he ▸ ⟨cs, rfl⟩)
    rw [endMode, if_neg hne]
  closes cs := by rw [List.singleton_append, endMode, if_pos rfl]
  ne_code := by simp
  line_iff := by simp [hq]

theorem keeps_lineComment : Bounds.Keeps ⟨['-', '-'], ['\n']⟩ .lineComment where
  opens cs := rfl
  stays {c cs} hc := by
    have hne : c ≠ '\n' := fun he => hc (he ▸ ⟨cs, rfl⟩)
    rw [endMode, if_neg hne]
  closes cs := rfl
  ne_code := by simp
  line_iff := by simp

theorem keeps_blockComment : Bounds.Keeps ⟨['/', '*'], ['*', '/']⟩ .blockComment where
  opens cs := rfl
  stays {c cs} hc := by
    rw [endMode]
    rintro tail rfl rfl
    exact hc ⟨tail, rfl⟩
  closes cs := rfl
  ne_code := by simp
  line_iff := by simp

theorem exists_keeps {b : Bounds} (h : b ∈ bounds) : ∃ m, b.Keeps m := by
  simp only [bounds, List.mem_cons, List.not_mem_nil, or_false] at h
  rcases h with rfl | rfl | rfl | rfl | rfl | rfl
  · exact ⟨_, keeps_quoted (fun _ => rfl) rfl (by decide)⟩
  · exact ⟨_, keeps_quoted (fun _ => rfl) rfl (by decide)⟩
  · exact ⟨_, keeps_quoted (fun _ => rfl) rfl (by decide)⟩
  · exact ⟨_, keeps_quoted (fun _ => rfl) rfl (by decide)⟩
  · exact ⟨_, keeps_lineComment⟩
  · exact ⟨_, keeps_blockComment⟩

theorem Bounds.Keeps.endMode_closed {b : Bounds} {m : Mode} (hm : b.Keeps m)
    {body rest : List Char} (h : ClosesFirst b.closer body rest) :
    endMode .code (b.opener ++ (body ++ (b.closer ++ rest))) = endMode .code rest := by
  rw [hm.opens]
  induction body with
  | nil => exact hm.closes rest
  | cons c body ih => rw [List.cons_append, hm.stays h.not_prefix, ih h.tail]

theorem Bounds.Keeps.endMode_unclosed {b : Bounds} {m : Mode} (hm : b.Keeps m)
    {body : List Char} (h : ¬ b.closer <:+: body) : endMode .code (b.opener ++ body) = m := by
  rw [hm.opens]
  induction body with
  | nil => rw [endMode]
  | cons c body ih =>
    rw [List.infix_cons_iff, not_or] at h
    rw [hm.stays h.1, ih h.2]

theorem endMode_outside {c : Char} {cs : List Char} (h : IsOutside (c :: cs)) :
    endMode .code (c :: cs) = endMode .code cs := by
  rw [endMode_code_cons (opensComment_of_isOutside h), enter_of_isOutside h]

/-- The mode of an open region is the mode at the end. -/
theorem LeavesOpen.endMode_eq {b : Bounds} {m : Mode} (hm : b.Keeps m) {cs : List Char}
    (h : LeavesOpen b cs) : endMode .code cs = m := by
  induction h with
  | unclosed hno => exact hm.endMode_unclosed hno
  | plain hout _ ih => rw [endMode_outside hout, ih]
  | closed hb' hfirst _ ih =>
    obtain ⟨m', hm'⟩ := exists_keeps hb'
    rw [hm'.endMode_closed hfirst, ih]

/-- **A script ends in code, or in a region that is open.** -/
theorem endMode_eq_code_or_leavesOpen (cs : List Char) :
    endMode .code cs = .code ∨ ∃ b ∈ bounds, LeavesOpen b cs := by
  obtain ⟨ps, hps⟩ := Regions.exists_pieces cs
  induction hps with
  | done => exact .inl rfl
  | plain hout _ ih =>
    rw [endMode_outside hout]
    exact ih.imp_right fun ⟨b, hb, hopen⟩ => ⟨b, hb, .plain hout hopen⟩
  | closed hb' hfirst _ ih =>
    obtain ⟨m', hm'⟩ := exists_keeps hb'
    rw [hm'.endMode_closed hfirst]
    exact ih.imp_right fun ⟨b, hb, hopen⟩ => ⟨b, hb, .closed hb' hfirst hopen⟩
  | @unclosed b _ hb hno => exact .inr ⟨b, hb, .unclosed hno⟩

theorem isFinished_iff {cs : List Char} :
    IsFinished cs ↔ endMode .code cs = .code ∨ endMode .code cs = .lineComment := by
  constructor
  · intro h
    rcases endMode_eq_code_or_leavesOpen cs with hcode | ⟨b, hb, hopen⟩
    · exact .inl hcode
    · obtain ⟨m, hm⟩ := exists_keeps hb
      right
      rw [hopen.endMode_eq hm, hm.line_iff]
      exact h b hb hopen
  · intro h b hb hopen
    obtain ⟨m, hm⟩ := exists_keeps hb
    rw [hopen.endMode_eq hm] at h
    exact hm.line_iff.1 (h.resolve_left hm.ne_code)

instance (cs : List Char) : Decidable (IsFinished cs) := decidable_of_iff _ isFinished_iff.symm

/-! ## One text after another -/

/-- Segments as statements: trimmed, where anything remains. -/
def trimmedOf (segments : List (List Char)) : List (List Char) :=
  (segments.map trim).filter fun s => !s.isEmpty

/-- A finished text is cut off by the separator after it. -/
theorem scan_finished {cs : List Char} (h : IsFinished cs) (ds : List Char) :
    scan .code (cs ++ (separator ++ ds)) =
      runOn (scan .code cs) (['\n'] :: extend '\n' (scan .code ds)) := by
  have hsmooth : IsSmooth (separator ++ ds) := isSmooth_feed _
  rw [scan_append _ _ hsmooth]
  -- a comment up to the end of the line is left by the first character of the separator
  rcases isFinished_iff.1 h with hend | hend <;> rw [hend] <;> rfl

/-- The line feed at the end of the last segment is trimmed off with the blanks
that are there. -/
theorem map_trim_runOn_feed {ps : List (List Char)} (h : ps ≠ []) (qs : List (List Char)) :
    (runOn ps (['\n'] :: qs)).map trim = ps.map trim ++ qs.map trim := by
  induction ps with
  | nil => exact absurd rfl h
  | cons p ps ih =>
    by_cases hps : ps = []
    · subst hps
      show (p.foldr extend (['\n'] :: qs)).map trim = _
      rw [foldr_extend, List.map_cons, trim_append_feed]
      rfl
    · rw [runOn_cons_of_ne_nil hps, List.map_cons, ih hps]
      rfl

theorem trimmedOf_finished {cs : List Char} (h : IsFinished cs) (ds : List Char) :
    trimmedOf (segments (cs ++ (separator ++ ds))) =
      trimmedOf (segments cs) ++ trimmedOf (segments ds) := by
  have hne : scan .code ds ≠ [] := scan_ne_nil _ _
  rw [trimmedOf, segments, scan_finished h, map_trim_runOn_feed (scan_ne_nil _ _),
    map_trim_extend_feed hne, List.filter_append]
  rfl

theorem toList_combine_cons (text : String) (texts : List String) :
    (combine (text :: texts)).toList = text.toList ++ (separator ++ (combine texts).toList) := by
  simp [combine, separator]

/-- **The statements of several finished texts** are those of the first, those of the
second, and so on. -/
theorem statements_combine {texts : List String} (h : ∀ text ∈ texts, IsFinished text.toList) :
    statements (combine texts) = texts.flatMap statements := by
  induction texts with
  | nil => rfl
  | cons text texts ih =>
    obtain ⟨htext, htexts⟩ := List.forall_mem_cons.1 h
    have hsplit := trimmedOf_finished htext (combine texts).toList
    rw [← toList_combine_cons] at hsplit
    have hmap := congrArg (List.map String.ofList) hsplit
    rw [List.map_append] at hmap
    rw [List.flatMap_cons, ← ih htexts]
    exact hmap

end NormalForms.Script
