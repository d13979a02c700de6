import NormalForms.Proofs.Script.Layout
import NormalForms.Proofs.Script.Regions

/-!
# Joining statements again

The scan goes through a text in single moves: it passes over a character, over two
that open or close a comment together, or it cuts at a semicolon (`Moves`). So the
scan of one text and of another after it are the scan of the two
(`scan_append`), from the mode in which the first text leaves the scan
(`endMode`), unless their ends make an opener or a closer together.

Each statement of a script is therefore scanned without a cut by itself, and is
in code or in a line comment at its end, but for the last one. Statements with
such an order to them may be joined by semicolons on lines of their own, and are
what is cut out of the joined script again (`statements_join`).
-/

namespace NormalForms.Script

open Text

/-! ## The mode at the end of a text -/

/-- The mode in which a text leaves the scan that comes to it in a mode. -/
def endMode : Mode → List Char → Mode
  | m, [] => m
  | .code, '-' :: '-' :: cs => endMode .lineComment cs
  | .code, '/' :: '*' :: cs => endMode .blockComment cs
  | .code, c :: cs => endMode (.enter c) cs
  | .quoted q, c :: cs => endMode (if c = q then .code else .quoted q) cs
  | .lineComment, c :: cs => endMode (if c = '\n' then .code else .lineComment) cs
  | .blockComment, '*' :: '/' :: cs => endMode .code cs
  | .blockComment, _ :: cs => endMode .blockComment cs

theorem endMode_code_cons {c : Char} {cs : List Char} (ho : opensComment c cs = false) :
    endMode .code (c :: cs) = endMode (.enter c) cs := by
  rw [endMode]
  · rintro tail rfl rfl
    simp [opensComment] at ho
  · rintro tail rfl rfl
    simp [opensComment] at ho

/-! ## Moves -/

/-- The first character makes no opener and no closer with one before it. -/
def IsSmooth (cs : List Char) : Prop := ∀ c ∈ cs.head?, c ≠ '-' ∧ c ≠ '*' ∧ c ≠ '/'

theorem isSmooth_nil : IsSmooth [] := fun _ h => by cases h

theorem IsSmooth.head_ne {c : Char} {cs : List Char} (h : IsSmooth (c :: cs)) :
    c ≠ '-' ∧ c ≠ '*' ∧ c ≠ '/' :=
  h c rfl

/-- `ds` goes on from where `cs` would: it starts with the same character, or
smoothly. -/
def Continues (cs ds : List Char) : Prop := ds.head? = cs.head? ∨ IsSmooth ds

theorem Continues.append {cs ds : List Char} (h : IsSmooth ds) : Continues cs (cs ++ ds) := by
  cases cs with
  | nil => exact .inr h
  | cons c cs => exact .inl rfl

/-- In mode `m`, the scan passes over `w` in front of `rest` and goes on in `m'`. -/
structure Moves (m : Mode) (w rest : List Char) (m' : Mode) : Prop where
  scan_eq : scan m (w ++ rest) = w.foldr extend (scan m' rest)
  endMode_eq : endMode m (w ++ rest) = endMode m' rest

theorem opensComment_continues {c : Char} {cs ds : List Char} (h : opensComment c cs = false)
    (hd : Continues cs ds) : opensComment c ds = false := by
  rcases hd with hd | hd
  · rwa [opensComment, hd]
  · cases ds with
    | nil => simp [opensComment]
    | cons d ds =>
      obtain ⟨hdash, hstar, -⟩ := hd.head_ne
      simp [opensComment, hdash, hstar]

theorem moves_quoted (q c : Char) (cs : List Char) :
    Moves (.quoted q) [c] cs (if c = q then .code else .quoted q) where
  scan_eq := by rw [List.singleton_append, scan]; rfl
  endMode_eq := by rw [List.singleton_append, endMode]

theorem moves_lineComment (c : Char) (cs : List Char) :
    Moves .lineComment [c] cs (if c = '\n' then .code else .lineComment) where
  scan_eq := by rw [List.singleton_append, scan]; rfl
  endMode_eq := by rw [List.singleton_append, endMode]

/-- **What the scan does first**, unless there is nothing to scan or it cuts: it
moves over some characters, and would do so whatever goes on from there. -/
theorem exists_moves {m : Mode} {cs : List Char} (hne : cs ≠ [])
    (hcut : ¬ (m = .code ∧ cs.head? = some ';')) :
    ∃ w rest m', w ≠ [] ∧ cs = w ++ rest ∧ ∀ ds, Continues rest ds → Moves m w ds m' := by
  obtain ⟨c, rest, rfl⟩ := List.exists_cons_of_ne_nil hne
  cases m with
  | code =>
    have hc : c ≠ ';' := fun he => hcut ⟨rfl, congrArg some he⟩
    cases ho : opensComment c rest with
    | true =>
      simp only [opensComment, Bool.or_eq_true, Bool.and_eq_true, beq_iff_eq,
        List.head?_eq_some_iff] at ho
      rcases ho with ⟨rfl, tail, rfl⟩ | ⟨rfl, tail, rfl⟩
      · exact ⟨['-', '-'], tail, .lineComment, List.cons_ne_nil _ _, rfl, fun _ _ => ⟨rfl, rfl⟩⟩
      · exact ⟨['/', '*'], tail, .blockComment, List.cons_ne_nil _ _, rfl, fun _ _ => ⟨rfl, rfl⟩⟩
    | false =>
      refine ⟨[c], rest, .enter c, List.cons_ne_nil _ _, rfl, fun ds hds => ?_⟩
      have hd := opensComment_continues ho hds
      exact ⟨scan_code_cons hd hc, endMode_code_cons hd⟩
  | quoted q =>
    exact ⟨[c], rest, _, List.cons_ne_nil _ _, rfl, fun ds _ => moves_quoted q c ds⟩
  | lineComment =>
    exact ⟨[c], rest, _, List.cons_ne_nil _ _, rfl, fun ds _ => moves_lineComment c ds⟩
  | blockComment =>
    by_cases hclose : c = '*' ∧ rest.head? = some '/'
    · obtain ⟨rfl, hslash⟩ := hclose
      obtain ⟨tail, rfl⟩ := List.head?_eq_some_iff.1 hslash
      exact ⟨['*', '/'], tail, .code, List.cons_ne_nil _ _, rfl, fun _ _ => ⟨rfl, rfl⟩⟩
    · refine ⟨[c], rest, .blockComment, List.cons_ne_nil _ _, rfl, fun ds hds => ?_⟩
      have hopen : ∀ tail, c = '*' → ds = '/' :: tail → False := by
        rintro tail rfl rfl
        rcases hds with hds | hds
        · exact hclose ⟨rfl, hds.symm⟩
        · exact hds.head_ne.2.2 rfl
      have hscan : scan .blockComment (c :: ds) = extend c (scan .blockComment ds) := by
        rw [scan]
        exact hopen
      have hend : endMode .blockComment (c :: ds) = endMode .blockComment ds := by
        rw [endMode]
        exact hopen
      exact ⟨hscan, hend⟩

theorem length_lt_of_append {w rest : List Char} (h : w ≠ []) :
    rest.length < (w ++ rest).length := by
  have hpos := List.length_pos_iff.2 h
  rw [List.length_append]
  omega

/-- What holds at the end of a text, and is handed back over every cut and every
move, holds of each text in each mode. -/
theorem scan_induction {P : Mode → List Char → Prop} (done : ∀ m, P m [])
    (cut : ∀ cs, P .code cs → P .code (';' :: cs))
    (move : ∀ {m w rest m'}, (∀ ds, Continues rest ds → Moves m w ds m') → P m' rest →
      P m (w ++ rest)) (m : Mode) (cs : List Char) : P m cs := by
  induction hn : cs.length using Nat.strongRecOn generalizing m cs with
  | ind n ih =>
    subst hn
    by_cases hne : cs = []
    · rw [hne]
      exact done m
    · by_cases hcut : m = .code ∧ cs.head? = some ';'
      · obtain ⟨rfl, hhead⟩ := hcut
        obtain ⟨rest, rfl⟩ := List.head?_eq_some_iff.1 hhead
        exact cut rest (ih rest.length (Nat.lt_succ_self _) .code rest rfl)
      · obtain ⟨w, rest, m', hw, rfl, hmove⟩ := exists_moves hne hcut
        exact move hmove (ih rest.length (length_lt_of_append hw) m' rest rfl)

/-! ## One text after another -/

/-- The segments of one text and those of the text after it: the last of the one
and the first of the other are the same segment. -/
def runOn : List (List Char) → List (List Char) → List (List Char)
  | [], qs => qs
  | [p], qs => p.foldr extend qs
  | p :: ps, qs => p :: runOn ps qs

theorem runOn_extend {ps : List (List Char)} (h : ps ≠ []) (c : Char) (qs : List (List Char)) :
    runOn (extend c ps) qs = extend c (runOn ps qs) := by
  obtain ⟨p, ps, rfl⟩ := List.exists_cons_of_ne_nil h
  cases ps <;> rfl

theorem runOn_foldr_extend {ps : List (List Char)} (h : ps ≠ []) (w : List Char)
    (qs : List (List Char)) :
    runOn (w.foldr extend ps) qs = w.foldr extend (runOn ps qs) := by
  induction w with
  | nil => rfl
  | cons c w ih =>
    have hne : w.foldr extend ps ≠ [] := by
      obtain ⟨p, ps, rfl⟩ := List.exists_cons_of_ne_nil h
      rw [foldr_extend]
      exact List.cons_ne_nil _ _
    rw [List.foldr_cons, runOn_extend hne, ih, List.foldr_cons]

theorem runOn_cons_of_ne_nil {ps : List (List Char)} (h : ps ≠ []) (p : List Char)
    (qs : List (List Char)) : runOn (p :: ps) qs = p :: runOn ps qs := by
  obtain ⟨p', ps, rfl⟩ := List.exists_cons_of_ne_nil h
  rfl

/-- **The scan of two texts**, the second of which starts smoothly. -/
theorem scan_append (m : Mode) (cs : List Char) {ds : List Char} (hd : IsSmooth ds) :
    scan m (cs ++ ds) = runOn (scan m cs) (scan (endMode m cs) ds) := by
  refine scan_induction (P := fun m cs =>
    scan m (cs ++ ds) = runOn (scan m cs) (scan (endMode m cs) ds)) ?_ ?_ ?_ m cs
  · intro m
    have hnil : scan m [] = [[]] := by rw [scan]
    rw [hnil, endMode]
    rfl
  · intro cs ih
    have hscan : ∀ cs, scan .code (';' :: cs) = [] :: scan .code cs := fun _ => rfl
    have hend : endMode .code (';' :: cs) = endMode .code cs := endMode_code_cons rfl
    rw [List.cons_append, hscan, hscan, hend, ih, runOn_cons_of_ne_nil (scan_ne_nil _ _)]
  · intro m w rest m' hmove ih
    have hcs := hmove rest (.inl rfl)
    have hboth := hmove (rest ++ ds) (.append hd)
    rw [List.append_assoc, hboth.scan_eq, ih, hcs.scan_eq, hcs.endMode_eq,
      runOn_foldr_extend (scan_ne_nil _ _)]

theorem endMode_append (m : Mode) (cs : List Char) {ds : List Char} (hd : IsSmooth ds) :
    endMode m (cs ++ ds) = endMode (endMode m cs) ds := by
  refine scan_induction (P := fun m cs =>
    endMode m (cs ++ ds) = endMode (endMode m cs) ds) ?_ ?_ ?_ m cs
  · intro m
    rw [endMode]
    rfl
  · intro cs ih
    have hend : ∀ cs, endMode .code (';' :: cs) = endMode .code cs := fun _ =>
      endMode_code_cons rfl
    rw [List.cons_append, hend, hend, ih]
  · intro m w rest m' hmove ih
    have hcs := hmove rest (.inl rfl)
    have hboth := hmove (rest ++ ds) (.append hd)
    rw [List.append_assoc, hboth.endMode_eq, ih, hcs.endMode_eq]

/-! ## Texts without a cut -/

/-- The scan comes through the text without a cut. -/
def IsWhole (m : Mode) (cs : List Char) : Prop := scan m cs = [cs]

theorem isWhole_nil (m : Mode) : IsWhole m [] := by
  rw [IsWhole, scan]

theorem IsWhole.foldr {m m' : Mode} {w cs : List Char} (hmove : Moves m w cs m')
    (h : IsWhole m' cs) : IsWhole m (w ++ cs) := by
  rw [IsWhole, hmove.scan_eq, h, foldr_extend]

/-- **The first segment** of a text has no cut in it. It is the whole text, or
there is a semicolon after it, met in code. -/
theorem of_scan_eq_cons {m : Mode} {cs p : List Char} {ps : List (List Char)}
    (h : scan m cs = p :: ps) :
    IsWhole m p ∧ ((ps = [] ∧ p = cs) ∨
      endMode m p = .code ∧ ∃ rest, cs = p ++ ';' :: rest ∧ scan .code rest = ps) := by
  refine scan_induction (P := fun m cs => ∀ p ps, scan m cs = p :: ps → IsWhole m p ∧
    ((ps = [] ∧ p = cs) ∨ endMode m p = .code ∧
      ∃ rest, cs = p ++ ';' :: rest ∧ scan .code rest = ps)) ?_ ?_ ?_ m cs p ps h
  · intro m p ps h
    obtain ⟨rfl, rfl⟩ := List.cons.inj ((isWhole_nil m).symm.trans h)
    exact ⟨isWhole_nil m, .inl ⟨rfl, rfl⟩⟩
  · intro cs _ p ps h
    obtain ⟨rfl, rfl⟩ := List.cons.inj h
    exact ⟨isWhole_nil _, .inr ⟨rfl, cs, rfl, rfl⟩⟩
  · intro m w rest m' hmove ih p ps h
    obtain ⟨q, qs, hq⟩ := List.exists_cons_of_ne_nil (scan_ne_nil m' rest)
    rw [(hmove rest (.inl rfl)).scan_eq, hq, foldr_extend] at h
    obtain ⟨rfl, rfl⟩ := List.cons.inj h
    obtain ⟨hwhole, hrest⟩ := ih q qs hq
    -- the segment may end inside `rest`, but it goes on from `w` as `rest` does
    have hgo : Continues rest q := by
      rcases hrest with ⟨-, rfl⟩ | ⟨-, rest', rfl, -⟩
      · exact .inl rfl
      · cases q with
        | nil => exact .inr isSmooth_nil
        | cons c q => exact .inl rfl
    have hw := hmove q hgo
    refine ⟨hwhole.foldr hw, ?_⟩
    rcases hrest with ⟨hnil, rfl⟩ | ⟨hend, rest', rfl, hscan⟩
    · exact .inl ⟨hnil, rfl⟩
    · exact .inr ⟨hw.endMode_eq.trans hend, rest', (List.append_assoc _ _ _).symm, hscan⟩

/-- A text without a cut has none in its beginning. -/
theorem IsWhole.of_append {m : Mode} {cs ds : List Char} (hd : IsSmooth ds)
    (h : IsWhole m (cs ++ ds)) : IsWhole m cs := by
  obtain ⟨p, ps, hp⟩ := List.exists_cons_of_ne_nil (scan_ne_nil m cs)
  obtain ⟨hwhole, hps⟩ := of_scan_eq_cons hp
  rcases hps with ⟨-, rfl⟩ | ⟨-, rest, rfl, hrest⟩
  · exact hwhole
  · have hps : ps ≠ [] := by
      rw [← hrest]
      exact scan_ne_nil _ _
    rw [IsWhole, scan_append m _ hd, hp, runOn_cons_of_ne_nil hps] at h
    have hcs := congrArg List.length (List.cons.inj h).1
    simp only [List.length_append, List.length_cons] at hcs
    omega

/-! ## Blanks around a text -/

theorem isNeutral_of_isBlank {c : Char} (h : isBlank c = true) : isNeutral c = true := by
  rw [isNeutral_iff]
  refine ⟨?_, ?_, ?_, ?_, ?_, ?_, ?_⟩ <;> rintro rfl <;> exact absurd h (by decide)

theorem isSmooth_of_isBlank {cs : List Char} (h : ∀ c ∈ cs, isBlank c = true) : IsSmooth cs := by
  intro c hc
  have hb := h c (List.mem_of_mem_head? hc)
  refine ⟨?_, ?_, ?_⟩ <;> rintro rfl <;> exact absurd hb (by decide)

theorem quiet_of_isBlank {cs : List Char} (h : ∀ c ∈ cs, isBlank c = true) : Quiet cs :=
  quiet_of_neutral (List.all_eq_true.2 fun c hc => isNeutral_of_isBlank (h c hc))

theorem endMode_of_isBlank {cs : List Char} (h : ∀ c ∈ cs, isBlank c = true) (ds : List Char) :
    endMode .code (cs ++ ds) = endMode .code ds := by
  induction cs with
  | nil => rfl
  | cons c cs ih =>
    obtain ⟨hc, hcs⟩ := List.forall_mem_cons.1 h
    have hn := isNeutral_of_isBlank hc
    rw [List.cons_append, endMode_code_cons (opensComment_of_isNeutral hn _),
      enter_of_isNeutral hn, ih hcs]

/-- No blank leads out of the mode, if it is one of quotes. -/
def Mode.IsProper : Mode → Prop
  | .quoted q => isBlank q = false
  | _ => True

theorem Mode.isProper_code : Mode.code.IsProper := trivial

theorem Mode.isProper_enter (c : Char) : (Mode.enter c).IsProper := by
  unfold enter
  split
  · rename_i h
    rcases h with rfl | rfl | rfl <;> rfl
  · split
    · rfl
    · trivial

theorem Mode.IsProper.endMode {m : Mode} (h : m.IsProper) (cs : List Char) :
    (Script.endMode m cs).IsProper := by
  fun_induction Script.endMode m cs with
  | case1 m => exact h
  | case2 cs ih => exact ih trivial
  | case3 cs ih => exact ih trivial
  | case4 c cs _ _ ih => exact ih (isProper_enter c)
  | case5 q c cs ih =>
    refine ih ?_
    split
    · trivial
    · exact h
  | case6 c cs ih =>
    refine ih ?_
    split <;> trivial
  | case7 cs ih => exact ih trivial
  | case8 c cs _ ih => exact ih trivial

/-- Only a line comment is left by blanks, and then a line feed is enough. -/
theorem endMode_feed {m : Mode} (hm : m.IsProper) {cs : List Char}
    (h : ∀ c ∈ cs, isBlank c = true) (hend : endMode m cs = .code) :
    endMode m ['\n'] = .code := by
  cases m with
  | code => rfl
  | lineComment => rfl
  | quoted q =>
    have hstay : endMode (.quoted q) cs = .quoted q := by
      induction cs with
      | nil => rfl
      | cons c cs ih =>
        obtain ⟨hc, hcs⟩ := List.forall_mem_cons.1 h
        have hne : c ≠ q := by
          rintro rfl
          exact absurd hc (by rw [show isBlank c = false from hm]; decide)
        have hstep : endMode (.quoted q) (c :: cs) = endMode (.quoted q) cs := by
          rw [endMode, if_neg hne]
        rw [hstep] at hend ⊢
        exact ih hcs hend
    rw [hstay] at hend
    cases hend
  | blockComment =>
    have hstay : endMode .blockComment cs = .blockComment := by
      induction cs with
      | nil => rfl
      | cons c cs ih =>
        obtain ⟨hc, hcs⟩ := List.forall_mem_cons.1 h
        have hstep : endMode .blockComment (c :: cs) = endMode .blockComment cs := by
          rw [endMode]
          rintro tail rfl
          exact absurd hc (by decide)
        rw [hstep] at hend ⊢
        exact ih hcs hend
    rw [hstay] at hend
    cases hend

/-! ## Statements -/

/-- A text that is a statement of itself: not empty, without blanks at its ends,
and without a cut. -/
structure IsPiece (p : List Char) : Prop where
  ne_nil : p ≠ []
  trim_eq : trim p = p
  whole : IsWhole .code p

/-- After the text and a line feed, the scan is in code. -/
def IsClosed (p : List Char) : Prop := endMode .code (p ++ ['\n']) = .code

theorem isSmooth_feed (cs : List Char) : IsSmooth ('\n' :: cs) := by
  intro c hc
  cases hc
  decide

/-- Trimming a text in code leaves no cut in it. -/
theorem isWhole_trim {p : List Char} (h : IsWhole .code p) : IsWhole .code (trim p) := by
  obtain ⟨⟨before, after, hp, hbefore, hafter⟩, -, -⟩ := isTrimOf_trim p
  rw [hp, IsWhole, quiet_of_isBlank hbefore] at h
  have hrest : IsWhole .code (trim p ++ after) := by
    obtain ⟨q, qs, hq⟩ := List.exists_cons_of_ne_nil (scan_ne_nil .code (trim p ++ after))
    rw [hq, foldr_extend] at h
    obtain ⟨hqs, rfl⟩ := List.cons.inj h
    rw [IsWhole, hq, List.append_cancel_left hqs]
  exact hrest.of_append (isSmooth_of_isBlank hafter)

theorem isClosed_trim {p : List Char} (h : endMode .code p = .code) : IsClosed (trim p) := by
  obtain ⟨⟨before, after, hp, hbefore, hafter⟩, -, -⟩ := isTrimOf_trim p
  rw [hp, endMode_of_isBlank hbefore, endMode_append _ _ (isSmooth_of_isBlank hafter)] at h
  have hproper : (endMode .code (trim p)).IsProper := Mode.isProper_code.endMode _
  rw [IsClosed, endMode_append _ _ (isSmooth_feed [])]
  exact endMode_feed hproper hafter h

/-- Each segment of a text has no cut in it, and but for the last one it ends in
code. -/
theorem of_scan_eq {cs : List Char} {ps : List (List Char)} (h : scan .code cs = ps) :
    (∀ p ∈ ps, IsWhole .code p) ∧ ∀ p ∈ ps.dropLast, endMode .code p = .code := by
  induction ps generalizing cs with
  | nil => exact absurd h (scan_ne_nil _ _)
  | cons p ps ih =>
    obtain ⟨hwhole, hps⟩ := of_scan_eq_cons h
    rcases hps with ⟨rfl, -⟩ | ⟨hend, rest, -, hrest⟩
    · exact ⟨List.forall_mem_singleton.2 hwhole, List.forall_mem_nil _⟩
    · obtain ⟨hwholes, hends⟩ := ih hrest
      have hne : ps ≠ [] := by
        rw [← hrest]
        exact scan_ne_nil _ _
      rw [List.dropLast_cons_of_ne_nil hne]
      exact ⟨List.forall_mem_cons.2 ⟨hwhole, hwholes⟩, List.forall_mem_cons.2 ⟨hend, hends⟩⟩

/-- Statements that keep apart when they are joined: only the last one may leave
quotes or a block comment open. -/
structure Separable (ps : List (List Char)) : Prop where
  pieces : ∀ p ∈ ps, IsPiece p
  closed : ∀ p ∈ ps.dropLast, IsClosed p

theorem dropLast_sublist_dropLast {α : Type} {l l' : List α} (h : l.Sublist l') :
    l.dropLast.Sublist l'.dropLast := by
  have htail := (h.reverse.tail).reverse
  rwa [List.tail_reverse, List.tail_reverse, List.reverse_reverse, List.reverse_reverse] at htail

theorem Separable.sublist {ps qs : List (List Char)} (h : Separable ps) (hs : qs.Sublist ps) :
    Separable qs :=
  ⟨fun p hp => h.pieces p (hs.subset hp),
    fun p hp => h.closed p ((dropLast_sublist_dropLast hs).subset hp)⟩

/-- What is cut out of a script keeps apart. -/
theorem separable_segments (cs : List Char) :
    Separable (((segments cs).map trim).filter fun s => !s.isEmpty) := by
  obtain ⟨hwhole, hend⟩ := of_scan_eq (rfl : scan .code cs = segments cs)
  refine ⟨fun p hp => ?_, fun p hp => ?_⟩
  · obtain ⟨hp, hne⟩ := List.mem_filter.1 hp
    obtain ⟨q, hq, rfl⟩ := List.mem_map.1 hp
    exact ⟨by simpa using hne, trim_trim q, isWhole_trim (hwhole q hq)⟩
  · have hdrop := dropLast_sublist_dropLast
      (List.filter_sublist (p := fun s : List Char => !s.isEmpty) (l := (segments cs).map trim))
    have hp := hdrop.subset hp
    rw [← List.map_dropLast] at hp
    obtain ⟨q, hq, rfl⟩ := List.mem_map.1 hp
    exact isClosed_trim (hend q hq)

/-! ## Joining -/

/-- A semicolon on a line of its own. -/
def separator : List Char := ['\n', ';', '\n']

theorem trim_feed (cs : List Char) : trim ('\n' :: cs) = trim cs := rfl

theorem trim_append_feed (cs : List Char) : trim (cs ++ ['\n']) = trim cs := by
  have hend : trimEnd ['\n'] = [] := rfl
  rw [trim, trimStart, List.dropWhile_append]
  cases hs : cs.dropWhile isBlank with
  | nil =>
    rw [trim, trimStart, hs]
    rfl
  | cons c ds =>
    rw [trim, trimStart, hs]
    exact trimEnd_append_of_eq_nil hend

theorem map_trim_extend_feed {ps : List (List Char)} (h : ps ≠ []) :
    (extend '\n' ps).map trim = ps.map trim := by
  obtain ⟨p, ps, rfl⟩ := List.exists_cons_of_ne_nil h
  exact congrArg (· :: ps.map trim) (trim_feed p)

/-- A closed statement is cut off by the separator after it. -/
theorem scan_append_separator {p : List Char} (hwhole : IsWhole .code p) (hclosed : IsClosed p)
    (cs : List Char) :
    scan .code (p ++ (separator ++ cs)) = (p ++ ['\n']) :: extend '\n' (scan .code cs) := by
  have hfeed : ∀ m, scan m ['\n'] = [['\n']] := by
    intro m
    cases m <;> rfl
  have hline : scan .code (p ++ ['\n']) = [p ++ ['\n']] := by
    rw [scan_append _ _ (isSmooth_feed []), hwhole, hfeed]
    exact foldr_extend _ _ _
  have hsmooth : IsSmooth (';' :: '\n' :: cs) := by
    intro c hc
    cases hc
    decide
  have hcut : scan .code (';' :: '\n' :: cs) = [] :: extend '\n' (scan .code cs) := rfl
  have hassoc : p ++ (separator ++ cs) = (p ++ ['\n']) ++ ';' :: '\n' :: cs := by
    simp [separator]
  rw [hassoc, scan_append _ _ hsmooth, hline, hclosed, hcut]
  show (p ++ ['\n']).foldr extend ([] :: _) = _
  rw [foldr_extend, List.append_nil]

/-- **Joined statements are cut apart again.** -/
theorem Separable.segments_join {ps : List (List Char)} (h : Separable ps) :
    ((segments (List.intercalate separator ps)).map trim).filter (fun s => !s.isEmpty) = ps := by
  induction ps with
  | nil => rfl
  | cons p ps ih =>
    have hp := h.pieces p List.mem_cons_self
    have hkeep : ∀ qs : List (List Char), (p :: qs).filter (fun s => !s.isEmpty) =
        p :: qs.filter fun s => !s.isEmpty := fun qs =>
      List.filter_cons_of_pos (by simpa using hp.ne_nil)
    cases ps with
    | nil =>
      rw [List.intercalate_singleton, segments, hp.whole, List.map_singleton, hp.trim_eq, hkeep]
      rfl
    | cons q ps =>
      have hclosed : IsClosed p := h.closed p List.mem_cons_self
      rw [List.intercalate_cons_cons, List.append_assoc, segments,
        scan_append_separator hp.whole hclosed, List.map_cons, trim_append_feed, hp.trim_eq,
        map_trim_extend_feed (scan_ne_nil _ _), hkeep]
      exact congrArg (p :: ·) (ih (h.sublist (List.sublist_cons_self p _)))

/-- Texts with a semicolon on a line of its own between each two. -/
def join (texts : List String) : String := String.intercalate "\n;\n" texts

/-- **Some statements of a script, joined**, are the statements of what they are
joined to. -/
theorem statements_join {script : String} {texts : List String}
    (h : texts.Sublist (statements script)) : statements (join texts) = texts := by
  obtain ⟨ps, hps, rfl⟩ := List.sublist_map_iff.1 h
  have hseparable := (separable_segments script.toList).sublist hps
  have htext : (join (ps.map String.ofList)).toList = List.intercalate separator ps := by
    rw [join, String.toList_intercalate, List.map_map]
    have hid : String.toList ∘ String.ofList = id := funext fun _ => String.toList_ofList
    rw [hid, List.map_id]
    rfl
  rw [statements, htext, hseparable.segments_join]

theorem join_singleton (text : String) : join [text] = text := by
  rw [join, String.intercalate_singleton]

/-- **Joining undoes cutting**: the statements of a script, joined, are cut into the
same statements again, and each of them by itself is cut no further. -/
theorem statements_join_statements (script : String) :
    statements (join (statements script)) = statements script ∧
      ∀ text ∈ statements script, statements text = [text] := by
  refine ⟨statements_join (List.Sublist.refl _), fun text htext => ?_⟩
  have hsingle := statements_join (List.singleton_sublist.2 htext)
  rwa [join_singleton] at hsingle

/-- A comment loses the end of its line with the blanks after the statement, and the
last statement leaves a comment open: neither hides a semicolon of another one. -/
theorem statements_join_statements_comments :
    let script := "SELECT 1 -- one;\n ; ;\tSELECT ';' /* two; */ - -; SELECT 3 /*/;"
    statements script =
        ["SELECT 1 -- one;", "SELECT ';' /* two; */ - -", "SELECT 3 /*/;"] ∧
      statements (join (statements script)) = statements script ∧
      "SELECT 1 -- one;" ∈ statements script ∧
      statements "SELECT 1 -- one;" = ["SELECT 1 -- one;"] := by
  intro script
  have hcut : statements script =
      ["SELECT 1 -- one;", "SELECT ';' /* two; */ - -", "SELECT 3 /*/;"] := by decide +kernel
  have hmem : "SELECT 1 -- one;" ∈ statements script := by
    rw [hcut]
    exact List.mem_cons_self
  have hjoined := statements_join_statements script
  exact ⟨hcut, hjoined.1, hmem, hjoined.2 _ hmem⟩

end NormalForms.Script
