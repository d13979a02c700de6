import NormalForms.Identifier
import NormalForms.Script

/-!
# Text that does not cut a script

A text is `Quiet` if the scan of a script goes through it without a cut and is
back in code at its end, whatever follows. Neutral characters are quiet, and so
are names as they are written, and comments with the line feed that ends them.

A text is self-contained if the scan, from code, meets neither a semicolon nor
the start of a comment in code, and ends in code. It need not be quiet, since its
last character may start a comment with the next one; a neutral character after
it settles that.
-/

namespace NormalForms.Script

open Text Identifier

/-! ## One character -/

/-- Do a character and the text after it start a comment? -/
def opensComment (c : Char) (cs : List Char) : Bool :=
  (c == '-' && cs.head? == some '-') || (c == '/' && cs.head? == some '*')

/-- The characters that mean something to the scan in code. -/
def signs : List Char := ['\'', '"', '\x60', '[', '-', '/', ';']

def isNeutral (c : Char) : Bool := !signs.contains c

theorem scan_code_cons {c : Char} {cs : List Char} (ho : opensComment c cs = false)
    (hc : c ≠ ';') : scan .code (c :: cs) = extend c (scan (.enter c) cs) := by
  rw [scan]
  · rintro tail rfl rfl
    simp [opensComment] at ho
  · rintro tail rfl rfl
    simp [opensComment] at ho
  · exact hc

theorem isNeutral_iff {c : Char} : isNeutral c = true ↔
    c ≠ '\'' ∧ c ≠ '"' ∧ c ≠ '\x60' ∧ c ≠ '[' ∧ c ≠ '-' ∧ c ≠ '/' ∧ c ≠ ';' := by
  simp [isNeutral, signs]

theorem opensComment_of_isNeutral {c : Char} (h : isNeutral c = true) (cs : List Char) :
    opensComment c cs = false := by
  obtain ⟨-, -, -, -, hd, hs, -⟩ := isNeutral_iff.1 h
  simp [opensComment, hd, hs]

theorem enter_of_isNeutral {c : Char} (h : isNeutral c = true) : Mode.enter c = .code := by
  obtain ⟨h1, h2, h3, h4, -⟩ := isNeutral_iff.1 h
  simp [Mode.enter, h1, h2, h3, h4]

theorem scan_neutral {c : Char} (h : isNeutral c = true) (cs : List Char) :
    scan .code (c :: cs) = extend c (scan .code cs) := by
  obtain ⟨-, -, -, -, -, -, hc⟩ := isNeutral_iff.1 h
  rw [scan_code_cons (opensComment_of_isNeutral h cs) hc, enter_of_isNeutral h]

/-! ## Quiet texts -/

/-- The scan goes through `cs` from mode `m` without a cut, and into code. -/
def QuietFrom (m : Mode) (cs : List Char) : Prop :=
  ∀ rest, scan m (cs ++ rest) = cs.foldr extend (scan .code rest)

def Quiet (cs : List Char) : Prop := QuietFrom .code cs

theorem foldr_extend (cs p : List Char) (ps : List (List Char)) :
    cs.foldr extend (p :: ps) = (cs ++ p) :: ps := by
  induction cs with
  | nil => rfl
  | cons c cs ih =>
    rw [List.foldr_cons, ih]
    rfl

theorem quiet_nil : Quiet [] := fun _ => rfl

theorem QuietFrom.append {m : Mode} {as bs : List Char} (ha : QuietFrom m as) (hb : Quiet bs) :
    QuietFrom m (as ++ bs) := by
  intro rest
  rw [List.append_assoc, ha (bs ++ rest), hb rest, List.foldr_append]

theorem Quiet.append {as bs : List Char} (ha : Quiet as) (hb : Quiet bs) : Quiet (as ++ bs) :=
  QuietFrom.append ha hb

theorem quiet_of_neutral {cs : List Char} (h : cs.all isNeutral = true) : Quiet cs := by
  induction cs with
  | nil => exact quiet_nil
  | cons c cs ih =>
    obtain ⟨hc, hcs⟩ := Bool.and_eq_true_iff.1 h
    intro rest
    rw [List.cons_append, scan_neutral hc, ih hcs rest, List.foldr_cons]

/-! ## Names -/

theorem isNeutral_of_isPlainPart {c : Char} (h : isPlainPart c = true) : isNeutral c = true := by
  rw [isNeutral_iff]
  refine ⟨?_, ?_, ?_, ?_, ?_, ?_, ?_⟩ <;> rintro rfl <;> exact absurd h (by decide)

theorem isBlank_of_isPlainPart {c : Char} (h : isPlainPart c = true) : isBlank c = false := by
  have hrange : ∀ {a b : UInt32}, (decide (c.val ≥ a) && decide (c.val ≤ b)) = true →
      a.toNat ≤ c.toNat ∧ c.toNat ≤ b.toNat := by
    intro a b h
    obtain ⟨ha, hb⟩ := Bool.and_eq_true_iff.1 h
    exact ⟨UInt32.le_iff_toNat_le.1 (of_decide_eq_true ha),
      UInt32.le_iff_toNat_le.1 (of_decide_eq_true hb)⟩
  have hn : c.toNat = 95 ∨ (48 ≤ c.toNat ∧ c.toNat ≤ 57) ∨ (65 ≤ c.toNat ∧ c.toNat ≤ 90) ∨
      (97 ≤ c.toNat ∧ c.toNat ≤ 122) := by
    rcases Bool.or_eq_true_iff.1 h with h | h
    · rcases Bool.or_eq_true_iff.1 h with h | h
      · rcases Bool.or_eq_true_iff.1 h with h | h
        · obtain ⟨ha, hb⟩ := of_decide_eq_true h
          exact .inr (.inr (.inl ⟨UInt32.le_iff_toNat_le.1 ha, UInt32.le_iff_toNat_le.1 hb⟩))
        · exact .inr (.inr (.inr (hrange h)))
      · exact .inr (.inl (hrange h))
    · exact .inl (by rw [eq_of_beq h]; rfl)
  refine Bool.eq_false_iff.2 fun hb => ?_
  simp only [isBlank, Bool.or_eq_true, Bool.and_eq_true, decide_eq_true_eq, beq_iff_eq] at hb
  omega

theorem all_isPlainPart_of_isPlain {cs : List Char} (h : isPlain cs = true) :
    cs.all isPlainPart = true := by
  cases cs with
  | nil => rfl
  | cons c cs =>
    obtain ⟨hc, hcs⟩ := Bool.and_eq_true_iff.1 h
    have hp : isPlainPart c = true := by
      rcases Bool.or_eq_true_iff.1 hc with hc | hc
      · simp [isPlainPart, Char.isAlphanum, hc]
      · simp [isPlainPart, hc]
    rw [List.all_cons, hp, hcs]
    rfl

theorem all_isNeutral_of_isPlain {cs : List Char} (h : isPlain cs = true) :
    cs.all isNeutral = true :=
  List.all_eq_true.2 fun c hc =>
    isNeutral_of_isPlainPart (List.all_eq_true.1 (all_isPlainPart_of_isPlain h) c hc)

/-- A double quote inside the name leads out of the quotes and back into them. -/
theorem quietFrom_escape (cs : List Char) : QuietFrom (.quoted '"') (escape cs ++ ['"']) := by
  intro rest
  induction cs with
  | nil => simp [escape, scan]
  | cons c cs ih =>
    rw [escape, List.flatMap_cons, ← escape]
    by_cases hc : c = '"'
    · have hq : scan .code ('"' :: (escape cs ++ ['"'] ++ rest)) =
          extend '"' (scan (.quoted '"') (escape cs ++ ['"'] ++ rest)) :=
        scan_code_cons rfl (by decide)
      simp only [hc, if_true, List.cons_append, List.nil_append, scan, List.foldr_cons]
      rw [hq, ih]
    · simp only [hc, if_false, List.cons_append, List.nil_append, scan, List.foldr_cons]
      rw [ih]

/-- **A name as it is written is quiet.** -/
theorem quiet_quoted (cs : List Char) : Quiet (quoted cs) := by
  unfold quoted
  split
  · rename_i h
    exact quiet_of_neutral (all_isNeutral_of_isPlain h)
  · intro rest
    rw [List.cons_append, List.cons_append, scan_code_cons rfl (by decide)]
    exact congrArg _ (quietFrom_escape (cs.map breakToSpace) rest)

/-- What holds of every name as it is written, and is kept by appending, holds of
a list of names. -/
theorem quoteList_induction {P : List Char → Prop} (hnil : P [])
    (happend : ∀ {as bs : List Char}, P as → P bs → P (as ++ bs)) (hsep : P ", ".toList)
    (hname : ∀ cs, P (quoted cs)) (names : List String) : P (quoteList names).toList := by
  rw [quoteList, String.toList_intercalate, List.map_map]
  induction names with
  | nil => exact hnil
  | cons name names ih =>
    have hn : P (quote name).toList := by
      rw [toList_quote]
      exact hname name.toList
    cases names with
    | nil => simpa using hn
    | cons name' names =>
      rw [List.map_cons, List.map_cons, List.intercalate_cons_cons]
      exact happend (happend hn hsep) ih

theorem quiet_quoteList (names : List String) : Quiet (quoteList names).toList :=
  quoteList_induction quiet_nil Quiet.append (quiet_of_neutral (by decide)) quiet_quoted names

/-! ## Comments -/

theorem quietFrom_lineComment {cs : List Char} (h : '\n' ∉ cs) :
    QuietFrom .lineComment (cs ++ ['\n']) := by
  intro rest
  induction cs with
  | nil => simp [scan]
  | cons c cs ih =>
    have hc : c ≠ '\n' := fun he => h (he ▸ List.mem_cons_self)
    have hcs : '\n' ∉ cs := fun hm => h (List.mem_cons_of_mem c hm)
    rw [List.cons_append, List.cons_append, scan, if_neg hc, ih hcs, List.foldr_cons]

theorem quiet_comment {cs : List Char} (h : '\n' ∉ cs) : Quiet ('-' :: '-' :: cs ++ ['\n']) := by
  intro rest
  rw [List.cons_append, List.cons_append, List.cons_append, List.cons_append, scan,
    quietFrom_lineComment h rest]
  rfl

/-! ## Self-contained texts -/

/-- Does the scan, from a mode, meet no semicolon and no start of a comment in
code, and end in code? -/
def settles : Mode → List Char → Bool
  | m, [] => m == .code
  | .code, c :: cs => !opensComment c cs && c != ';' && settles (.enter c) cs
  | .quoted q, c :: cs => settles (if c = q then .code else .quoted q) cs
  | .lineComment, _ :: _ => false
  | .blockComment, _ :: _ => false

def isSelfContained (s : String) : Bool := settles .code s.toList

theorem opensComment_append {c d : Char} {cs : List Char} (h : opensComment c cs = false)
    (hd : isNeutral d = true) (hstar : d ≠ '*') (rest : List Char) :
    opensComment c (cs ++ d :: rest) = false := by
  obtain ⟨-, -, -, -, hdash, -⟩ := isNeutral_iff.1 hd
  cases cs with
  | nil => simp [opensComment, hdash, hstar]
  | cons e cs => exact h

/-- **After a self-contained text**, a neutral character leads back to code. -/
theorem quietFrom_settles {m : Mode} {cs : List Char} (h : settles m cs = true) {d : Char}
    (hd : isNeutral d = true) (hstar : d ≠ '*') : QuietFrom m (cs ++ [d]) := by
  intro rest
  induction cs generalizing m with
  | nil =>
    cases m <;> simp [settles] at h
    exact scan_neutral hd rest
  | cons c cs ih =>
    rw [List.cons_append, List.cons_append, List.foldr_cons]
    cases m with
    | code =>
      simp only [settles, Bool.and_eq_true, Bool.not_eq_true', bne_iff_ne] at h
      have ho := opensComment_append h.1.1 hd hstar rest
      rw [scan_code_cons (by simpa using ho) h.1.2, ih h.2]
    | quoted q => rw [scan, ih h]
    | lineComment => cases h
    | blockComment => cases h

example : isSelfContained "ENUM('a;b')" = true ∧ isSelfContained "INT; DROP" = false := by
  decide

/-! ## Line breaks in self-contained texts -/

theorem breakToSpace_eq_iff {c d : Char} (hd : d ≠ ' ') (hb : isLineBreak d = false) :
    breakToSpace c = d ↔ c = d := by
  unfold breakToSpace
  split
  · rename_i h
    constructor
    · exact fun he => absurd he.symm hd
    · rintro rfl
      rw [hb] at h
      cases h
  · rfl

theorem opensComment_breakToSpace (c : Char) (cs : List Char) :
    opensComment (breakToSpace c) (cs.map breakToSpace) = opensComment c cs := by
  have hc : ∀ {c d : Char}, d ≠ ' ' → isLineBreak d = false →
      (breakToSpace c == d) = (c == d) := by
    intro c d hd hb
    rw [Bool.eq_iff_iff, beq_iff_eq, beq_iff_eq]
    exact breakToSpace_eq_iff hd hb
  have hh : ∀ {d : Char}, d ≠ ' ' → isLineBreak d = false →
      ((cs.map breakToSpace).head? == some d) = (cs.head? == some d) := by
    intro d hd hb
    cases cs with
    | nil => rfl
    | cons c cs => exact hc hd hb
  simp only [opensComment]
  rw [hc (by decide) rfl, hc (by decide) rfl, hh (by decide) rfl, hh (by decide) rfl]

theorem enter_breakToSpace (c : Char) : Mode.enter (breakToSpace c) = Mode.enter c := by
  unfold breakToSpace
  split
  · rename_i h
    rcases Bool.or_eq_true_iff.1 h with h | h <;> rw [eq_of_beq h] <;> rfl
  · rfl

/-- The modes that the scan of a self-contained text goes through. -/
def Mode.IsPlain : Mode → Prop
  | .code => True
  | .quoted q => q ≠ ' ' ∧ isLineBreak q = false
  | _ => False

theorem Mode.isPlain_enter (c : Char) : (Mode.enter c).IsPlain := by
  unfold enter
  split
  · rename_i h
    rcases h with rfl | rfl | rfl <;> exact ⟨by decide, rfl⟩
  · split
    · exact ⟨by decide, rfl⟩
    · trivial

theorem settles_breakToSpace {m : Mode} (hm : m.IsPlain) (cs : List Char) :
    settles m (cs.map breakToSpace) = settles m cs := by
  induction cs generalizing m with
  | nil => rfl
  | cons c cs ih =>
    cases m with
    | code =>
      have hc : (breakToSpace c != ';') = (c != ';') := by
        rw [Bool.eq_iff_iff, bne_iff_ne, bne_iff_ne]
        exact not_congr (breakToSpace_eq_iff (by decide) rfl)
      simp only [List.map_cons, settles]
      rw [opensComment_breakToSpace, hc, enter_breakToSpace, ih (Mode.isPlain_enter c)]
    | quoted q =>
      simp only [List.map_cons, settles, breakToSpace_eq_iff hm.1 hm.2]
      split
      · exact ih trivial
      · exact ih hm
    | lineComment => cases hm
    | blockComment => cases hm

/-- A line break in a self-contained text may as well be a space. -/
theorem isSelfContained_oneLine (s : String) : isSelfContained (oneLine s) = isSelfContained s := by
  rw [isSelfContained, toList_oneLine]
  exact settles_breakToSpace (m := .code) trivial s.toList

end NormalForms.Script
