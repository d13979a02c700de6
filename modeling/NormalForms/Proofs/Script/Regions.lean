import NormalForms.Proofs.Script.Quiet
import NormalForms.Proofs.Text.Trimming

/-!
# The regions of a script

A script consists of regions and of single characters outside them. A region
starts with an opener and ends with the first closer after it, or with the
script where there is none: `bounds` lists the openers with their closers.
`Regions` cuts a script into its pieces, and a script has one such cut.

The scan takes the script apart at the semicolons that are pieces of their own,
and nowhere else (`Regions.scan_eq`). Its modes stand for the closers it waits for
(`Bounds.Drives`), so that the scan of one region follows by induction on what the
region holds.
-/

namespace NormalForms.Script

open Text

/-! ## Openers and closers -/

structure Bounds where
  opener : List Char
  closer : List Char
  deriving DecidableEq, Repr

/-- String literals and quoted names, comments up to the end of a line, and
comments between two marks. -/
def bounds : List Bounds :=
  [⟨['\''], ['\'']⟩, ⟨['"'], ['"']⟩, ⟨['\x60'], ['\x60']⟩, ⟨['['], [']']⟩,
    ⟨['-', '-'], ['\n']⟩, ⟨['/', '*'], ['*', '/']⟩]

/-- Does no region start here? -/
def IsOutside (cs : List Char) : Prop := ∀ b ∈ bounds, ¬ b.opener <+: cs

/-- In `body ++ closer ++ rest`, the closer after `body` is the first one. -/
def ClosesFirst (closer body rest : List Char) : Prop :=
  ∀ before after, before ++ (closer ++ after) = body ++ (closer ++ rest) →
    body.length ≤ before.length

theorem opener_ne_nil {b : Bounds} (h : b ∈ bounds) : b.opener ≠ [] := by
  revert b
  decide

theorem eq_of_head?_opener {b b' : Bounds} (h : b ∈ bounds) (h' : b' ∈ bounds)
    (he : b.opener.head? = b'.opener.head?) : b = b' := by
  have hall : ∀ b ∈ bounds, ∀ b' ∈ bounds, b.opener.head? = b'.opener.head? → b = b' := by
    decide
  exact hall b h b' h' he

/-- At most one region starts at a place. -/
theorem eq_of_opener_prefix {b b' : Bounds} (h : b ∈ bounds) (h' : b' ∈ bounds) {cs : List Char}
    (hp : b.opener <+: cs) (hp' : b'.opener <+: cs) : b = b' := by
  have hhead : ∀ {b : Bounds}, b ∈ bounds → b.opener <+: cs → b.opener.head? = cs.head? := by
    rintro b hb ⟨rest, rfl⟩
    exact (List.head?_append_of_ne_nil _ (opener_ne_nil hb)).symm
  exact eq_of_head?_opener h h' ((hhead h hp).trans (hhead h' hp').symm)

theorem ClosesFirst.tail {closer body rest : List Char} {c : Char}
    (h : ClosesFirst closer (c :: body) rest) : ClosesFirst closer body rest := by
  intro before after he
  have hlen := h (c :: before) after (by rw [List.cons_append, he, List.cons_append])
  exact Nat.le_of_succ_le_succ hlen

/-- Before the first closer there is no closer. -/
theorem ClosesFirst.not_prefix {closer body rest : List Char} {c : Char}
    (h : ClosesFirst closer (c :: body) rest) :
    ¬ closer <+: c :: (body ++ (closer ++ rest)) := by
  rintro ⟨after, he⟩
  have hlen := h [] after he
  exact absurd hlen (Nat.not_succ_le_zero _)

/-- There is one first closer. -/
theorem ClosesFirst.unique {closer body rest body' rest' : List Char}
    (h : ClosesFirst closer body rest) (h' : ClosesFirst closer body' rest')
    (he : body ++ (closer ++ rest) = body' ++ (closer ++ rest')) : body = body' ∧ rest = rest' := by
  have hle := h body' rest' he.symm
  have hge := h' body rest he
  obtain ⟨hbody, htail⟩ := List.append_inj he (Nat.le_antisymm hle hge)
  exact ⟨hbody, List.append_cancel_left htail⟩

/-- Where there is a closer there is a first one. -/
theorem exists_closesFirst {closer cs : List Char} (h : closer <:+: cs) :
    ∃ body rest, cs = body ++ (closer ++ rest) ∧ ClosesFirst closer body rest := by
  induction cs with
  | nil =>
    have hnil := List.eq_nil_of_infix_nil h
    exact ⟨[], [], by rw [hnil]; rfl, fun _ _ _ => Nat.zero_le _⟩
  | cons c cs ih =>
    by_cases hp : closer <+: c :: cs
    · obtain ⟨rest, he⟩ := hp
      exact ⟨[], rest, he.symm, fun _ _ _ => Nat.zero_le _⟩
    · have hcs : closer <:+: cs := (List.infix_cons_iff.1 h).resolve_left hp
      obtain ⟨body, rest, rfl, hfirst⟩ := ih hcs
      refine ⟨c :: body, rest, rfl, fun before after he => ?_⟩
      cases before with
      | nil => exact absurd ⟨after, he⟩ hp
      | cons d before =>
        have htail := hfirst before after (List.cons.inj he).2
        exact Nat.succ_le_succ htail

/-! ## Pieces -/

/-- A character outside all regions, or a region with its opener and closer. -/
inductive Piece where
  | plain (c : Char)
  | region (text : List Char)
  deriving DecidableEq, Repr

def Piece.text : Piece → List Char
  | .plain c => [c]
  | .region text => text

/-- A script and its pieces, from left to right. -/
inductive Regions : List Char → List Piece → Prop
  | done : Regions [] []
  | plain {c : Char} {cs : List Char} {ps : List Piece} :
    IsOutside (c :: cs) → Regions cs ps → Regions (c :: cs) (.plain c :: ps)
  | closed {b : Bounds} {body rest : List Char} {ps : List Piece} :
    b ∈ bounds → ClosesFirst b.closer body rest → Regions rest ps →
      Regions (b.opener ++ (body ++ (b.closer ++ rest)))
        (.region (b.opener ++ body ++ b.closer) :: ps)
  | unclosed {b : Bounds} {body : List Char} :
    b ∈ bounds → ¬ b.closer <:+: body →
      Regions (b.opener ++ body) [.region (b.opener ++ body)]

namespace Regions

/-- Every script has pieces. -/
theorem exists_pieces (cs : List Char) : ∃ ps, Regions cs ps := by
  -- a region is passed over as a whole, so the induction is on what is left of the script
  induction hn : cs.length using Nat.strongRecOn generalizing cs with
  | ind n ih =>
    subst hn
    by_cases hout : IsOutside cs
    · cases cs with
      | nil => exact ⟨[], .done⟩
      | cons c cs =>
        obtain ⟨ps, hps⟩ := ih cs.length (Nat.lt_succ_self _) cs rfl
        exact ⟨_, .plain hout hps⟩
    · simp only [IsOutside, not_forall, not_not] at hout
      obtain ⟨b, hb, tail, rfl⟩ := hout
      by_cases hcloser : b.closer <:+: tail
      · obtain ⟨body, rest, rfl, hfirst⟩ := exists_closesFirst hcloser
        have hpos := List.length_pos_iff.2 (opener_ne_nil hb)
        have hlt : rest.length < (b.opener ++ (body ++ (b.closer ++ rest))).length := by
          simp only [List.length_append]
          omega
        obtain ⟨ps, hps⟩ := ih rest.length hlt rest rfl
        exact ⟨_, .closed hb hfirst hps⟩
      · exact ⟨_, .unclosed hb hcloser⟩

/-- The pieces are the script. -/
theorem flatMap_text {cs : List Char} {ps : List Piece} (h : Regions cs ps) :
    ps.flatMap Piece.text = cs := by
  induction h with
  | done => rfl
  | plain _ _ ih => rw [List.flatMap_cons, ih]; rfl
  | closed _ _ _ ih =>
    rw [List.flatMap_cons, ih]
    simp only [Piece.text, List.append_assoc]
  | unclosed _ _ => exact List.flatMap_singleton _ _

/-- **A script has no other pieces.** -/
theorem unique {cs : List Char} {ps qs : List Piece} (h : Regions cs ps) (h' : Regions cs qs) :
    ps = qs := by
  induction h generalizing qs with
  -- the other cut may start in any way; only its script is known to be the same
  | done =>
    generalize hcs : ([] : List Char) = cs at h'
    cases h' with
    | done => rfl
    | plain _ _ => cases hcs
    | closed hb _ _ => exact absurd (List.append_eq_nil_iff.1 hcs.symm).1 (opener_ne_nil hb)
    | unclosed hb _ => exact absurd (List.append_eq_nil_iff.1 hcs.symm).1 (opener_ne_nil hb)
  | @plain c cs ps hout _ ih =>
    generalize hds : c :: cs = ds at h'
    cases h' with
    | done => cases hds
    | plain _ hqs =>
      cases hds
      rw [ih hqs]
    | closed hb _ _ => exact absurd ⟨_, hds.symm⟩ (hout _ hb)
    | unclosed hb _ => exact absurd ⟨_, hds.symm⟩ (hout _ hb)
  | @closed b body rest ps hb hfirst _ ih =>
    generalize hds : b.opener ++ (body ++ (b.closer ++ rest)) = ds at h'
    cases h' with
    | done => exact absurd (List.append_eq_nil_iff.1 hds).1 (opener_ne_nil hb)
    | plain hout _ => exact absurd ⟨_, hds⟩ (hout b hb)
    | closed hb' hfirst' hqs =>
      cases eq_of_opener_prefix hb hb' ⟨_, hds⟩ (List.prefix_append _ _)
      obtain ⟨rfl, rfl⟩ := hfirst.unique hfirst' (List.append_cancel_left hds)
      rw [ih hqs]
    | unclosed hb' hno =>
      cases eq_of_opener_prefix hb hb' ⟨_, hds⟩ (List.prefix_append _ _)
      exact absurd ⟨body, rest, by simpa using List.append_cancel_left hds⟩ hno
  | @unclosed b body hb hno =>
    generalize hds : b.opener ++ body = ds at h'
    cases h' with
    | done => exact absurd (List.append_eq_nil_iff.1 hds).1 (opener_ne_nil hb)
    | plain hout _ => exact absurd ⟨_, hds⟩ (hout b hb)
    | @closed b' body' rest' _ hb' _ _ =>
      cases eq_of_opener_prefix hb hb' ⟨_, hds⟩ (List.prefix_append _ _)
      exact absurd ⟨body', rest', by simpa using (List.append_cancel_left hds).symm⟩ hno
    | unclosed _ _ => rfl

end Regions

/-! ## The scan goes from piece to piece -/

/-- The scan reads the opener into the mode `m`, stays there until the closer,
and is then back in code. -/
structure Bounds.Drives (b : Bounds) (m : Mode) : Prop where
  opens : ∀ cs, scan .code (b.opener ++ cs) = b.opener.foldr extend (scan m cs)
  stays : ∀ {c cs}, ¬ b.closer <+: c :: cs → scan m (c :: cs) = extend c (scan m cs)
  closes : ∀ cs, scan m (b.closer ++ cs) = b.closer.foldr extend (scan .code cs)

theorem drives_quoted {o q : Char} (ho : ∀ cs, opensComment o cs = false) (hs : o ≠ ';')
    (henter : Mode.enter o = .quoted q) : Bounds.Drives ⟨[o], [q]⟩ (.quoted q) where
  opens cs := by
    rw [List.singleton_append, scan_code_cons (ho cs) hs, henter]
    rfl
  stays {c cs} hc := by
    have hne : c ≠ q := fun he => hc (he ▸ ⟨cs, rfl⟩)
    rw [scan, if_neg hne]
  closes cs := by
    rw [List.singleton_append, scan, if_pos rfl]
    rfl

theorem drives_lineComment : Bounds.Drives ⟨['-', '-'], ['\n']⟩ .lineComment where
  opens cs := rfl
  stays {c cs} hc := by
    have hne : c ≠ '\n' := fun he => hc (he ▸ ⟨cs, rfl⟩)
    rw [scan, if_neg hne]
  closes cs := rfl

theorem drives_blockComment : Bounds.Drives ⟨['/', '*'], ['*', '/']⟩ .blockComment where
  opens cs := rfl
  stays {c cs} hc := by
    rw [scan]
    rintro tail rfl rfl
    exact hc ⟨tail, rfl⟩
  closes cs := rfl

/-- Every region has a mode of its own. -/
theorem exists_drives {b : Bounds} (h : b ∈ bounds) : ∃ m, b.Drives m := by
  simp only [bounds, List.mem_cons, List.not_mem_nil, or_false] at h
  rcases h with rfl | rfl | rfl | rfl | rfl | rfl
  · exact ⟨_, drives_quoted (fun _ => rfl) (by decide) rfl⟩
  · exact ⟨_, drives_quoted (fun _ => rfl) (by decide) rfl⟩
  · exact ⟨_, drives_quoted (fun _ => rfl) (by decide) rfl⟩
  · exact ⟨_, drives_quoted (fun _ => rfl) (by decide) rfl⟩
  · exact ⟨_, drives_lineComment⟩
  · exact ⟨_, drives_blockComment⟩

/-- Up to the first closer and over it, nothing cuts. -/
theorem Bounds.Drives.scan_closed {b : Bounds} {m : Mode} (hm : b.Drives m)
    {body rest : List Char} (h : ClosesFirst b.closer body rest) :
    scan m (body ++ (b.closer ++ rest)) = (body ++ b.closer).foldr extend (scan .code rest) := by
  induction body with
  | nil => exact hm.closes rest
  | cons c body ih => rw [List.cons_append, hm.stays h.not_prefix, ih h.tail]; rfl

/-- Without a closer, nothing cuts. -/
theorem Bounds.Drives.scan_unclosed {b : Bounds} {m : Mode} (hm : b.Drives m)
    {body : List Char} (h : ¬ b.closer <:+: body) : scan m body = body.foldr extend [[]] := by
  induction body with
  | nil => cases m <;> rfl
  | cons c body ih =>
    rw [List.infix_cons_iff, not_or] at h
    rw [hm.stays h.1, ih h.2]
    rfl

theorem opensComment_of_isOutside {c : Char} {cs : List Char} (h : IsOutside (c :: cs)) :
    opensComment c cs = false := by
  by_contra ho
  simp only [opensComment, Bool.not_eq_false, Bool.or_eq_true, Bool.and_eq_true,
    beq_iff_eq, List.head?_eq_some_iff] at ho
  rcases ho with ⟨rfl, ds, rfl⟩ | ⟨rfl, ds, rfl⟩
  · exact h ⟨['-', '-'], ['\n']⟩ (by decide) ⟨ds, rfl⟩
  · exact h ⟨['/', '*'], ['*', '/']⟩ (by decide) ⟨ds, rfl⟩

theorem enter_of_isOutside {c : Char} {cs : List Char} (h : IsOutside (c :: cs)) :
    Mode.enter c = .code := by
  have hne : ∀ b ∈ bounds, b.opener ≠ [c] := fun b hb he => h b hb ⟨cs, by rw [he]; rfl⟩
  have h1 : c ≠ '\'' := fun he => hne ⟨['\''], ['\'']⟩ (by decide) (he ▸ rfl)
  have h2 : c ≠ '"' := fun he => hne ⟨['"'], ['"']⟩ (by decide) (he ▸ rfl)
  have h3 : c ≠ '\x60' := fun he => hne ⟨['\x60'], ['\x60']⟩ (by decide) (he ▸ rfl)
  have h4 : c ≠ '[' := fun he => hne ⟨['['], [']']⟩ (by decide) (he ▸ rfl)
  simp [Mode.enter, h1, h2, h3, h4]

/-- A character outside all regions opens no comment and leads to no other mode. -/
theorem scan_outside {c : Char} {cs : List Char} (h : IsOutside (c :: cs)) (hc : c ≠ ';') :
    scan .code (c :: cs) = extend c (scan .code cs) := by
  rw [scan_code_cons (opensComment_of_isOutside h) hc, enter_of_isOutside h]

/-! ## Cutting at the semicolons outside all regions -/

/-- The texts between the semicolons that are pieces of their own. -/
def segmentsOf (ps : List Piece) : List (List Char) :=
  (ps.splitOn (.plain ';')).map fun qs => qs.flatMap Piece.text

theorem segmentsOf_semicolon (ps : List Piece) :
    segmentsOf (.plain ';' :: ps) = [] :: segmentsOf ps := by
  rw [segmentsOf, List.splitOn, List.splitOnP_cons_eq_if_modifyHead]
  rfl

theorem segmentsOf_cons {p : Piece} (h : p ≠ .plain ';') (ps : List Piece) :
    segmentsOf (p :: ps) = p.text.foldr extend (segmentsOf ps) := by
  have hp : (p == Piece.plain ';') = false := beq_false_of_ne h
  rw [segmentsOf, segmentsOf, List.splitOn, List.splitOn, List.splitOnP_cons_eq_if_modifyHead, hp]
  -- the piece goes in front of the first of the parts, of which there is always one
  cases hs : ps.splitOnP (· == Piece.plain ';') with
  | nil => exact absurd hs (List.splitOnP_ne_nil _ _)
  | cons q qs =>
    rw [List.map_cons, foldr_extend]
    rfl

theorem flatMap_text_intercalate (sep : List Piece) (pss : List (List Piece)) :
    (List.intercalate sep pss).flatMap Piece.text =
      List.intercalate (sep.flatMap Piece.text) (pss.map fun ps => ps.flatMap Piece.text) := by
  induction pss with
  | nil => rfl
  | cons ps pss ih =>
    cases pss with
    | nil => simp
    | cons qs pss =>
      rw [List.intercalate_cons_cons, List.flatMap_append, List.flatMap_append, ih]
      simp only [List.map_cons, List.intercalate_cons_cons]

/-- Semicolons between the segments make up the script again. -/
theorem intercalate_segmentsOf (ps : List Piece) :
    List.intercalate [';'] (segmentsOf ps) = ps.flatMap Piece.text := by
  have h := flatMap_text_intercalate [.plain ';'] (ps.splitOn (.plain ';'))
  rw [List.intercalate_splitOn] at h
  exact h.symm

/-- **The scan cuts a script between its pieces.** -/
theorem Regions.scan_eq {cs : List Char} {ps : List Piece} (h : Regions cs ps) :
    scan .code cs = segmentsOf ps := by
  induction h with
  | done => rfl
  | @plain c cs ps hout _ ih =>
    by_cases hc : c = ';'
    · subst hc
      rw [segmentsOf_semicolon, ← ih]
      rfl
    · rw [scan_outside hout hc, ih, segmentsOf_cons fun he => hc (Piece.plain.inj he)]
      rfl
  | closed hb hfirst _ ih =>
    obtain ⟨m, hm⟩ := exists_drives hb
    rw [hm.opens, hm.scan_closed hfirst, ih, segmentsOf_cons (by simp), ← List.foldr_append,
      ← List.append_assoc]
    rfl
  | unclosed hb hno =>
    obtain ⟨m, hm⟩ := exists_drives hb
    rw [hm.opens, hm.scan_unclosed hno, segmentsOf_cons (by simp), ← List.foldr_append]
    rfl

/-! ## Trimming -/

/-- `t` is `cs` without the blanks at its ends. -/
structure IsTrimOf (t cs : List Char) : Prop where
  surrounded : ∃ before after, cs = before ++ (t ++ after) ∧
    (∀ c ∈ before, isBlank c = true) ∧ ∀ c ∈ after, isBlank c = true
  starts : ∀ c ∈ t.head?, isBlank c = false
  ends : ∀ c ∈ t.getLast?, isBlank c = false

theorem isTrimOf_trim (cs : List Char) : IsTrimOf (trim cs) cs where
  surrounded := by
    have hstart : cs.takeWhile isBlank ++ trimStart cs = cs := List.takeWhile_append_dropWhile
    have hend : trim cs ++ (trimStart cs).rtakeWhile isBlank = trimStart cs :=
      List.rdropWhile_append_rtakeWhile
    refine ⟨cs.takeWhile isBlank, (trimStart cs).rtakeWhile isBlank, ?_, ?_, ?_⟩
    · rw [hend, hstart]
    · exact fun c hc => List.mem_takeWhile_imp hc
    · exact fun c hc => List.mem_rtakeWhile_imp hc
  starts := (isTrimmed_trim cs).starts
  ends := (isTrimmed_trim cs).ends

/-! ## Statements -/

/-- **A script is cut at the semicolons outside its regions, and nowhere else.**
It has one list of pieces, and they make it up. The segments between the
semicolons among them make it up again with the semicolons put back, and the
statements are the segments without the blanks at their ends, where anything
remains, in order. -/
theorem statements_eq_segmentsOf (script : String) :
    ∃ ps, (∀ qs, Regions script.toList qs ↔ qs = ps) ∧
      ps.flatMap Piece.text = script.toList ∧
      List.intercalate [';'] (segmentsOf ps) = script.toList ∧
      (∀ segment ∈ segmentsOf ps, IsTrimOf (trim segment) segment) ∧
      statements script =
        (((segmentsOf ps).map trim).filter fun s => !s.isEmpty).map String.ofList := by
  obtain ⟨ps, hps⟩ := Regions.exists_pieces script.toList
  have hunique : ∀ qs, Regions script.toList qs ↔ qs = ps := by
    intro qs
    constructor
    · exact fun hqs => hqs.unique hps
    · rintro rfl
      exact hps
  have htext : ps.flatMap Piece.text = script.toList := hps.flatMap_text
  have hjoin : List.intercalate [';'] (segmentsOf ps) = script.toList := by
    rw [intercalate_segmentsOf, htext]
  refine ⟨ps, hunique, htext, hjoin, fun segment _ => isTrimOf_trim segment, ?_⟩
  rw [statements, segments, hps.scan_eq]

example :
    statements "a[;]; ';--' b --;\n;/*/;*/ c '" = ["a[;]", "';--' b --;", "/*/;*/ c '"] := by
  decide +kernel

end NormalForms.Script
