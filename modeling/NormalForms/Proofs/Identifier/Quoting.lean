import NormalForms.Proofs.Script.Layout

/-!
# Names as they are written

A name is written as one token on one line: a word as it is, and any other name
between double quotes, with each double quote in it written twice. `named?` reads
such a token, and what it reads is the name with line breaks as spaces. So two
names are written alike only if they are the same on one line, and a script of one
name is one statement.
-/

namespace NormalForms

open Identifier Text Script

/-! ## Text on one line -/

@[simp] theorem hasNoBreak_nil : HasNoBreak [] := List.forall_mem_nil _

@[simp] theorem hasNoBreak_cons {c : Char} {cs : List Char} :
    HasNoBreak (c :: cs) ↔ isLineBreak c = false ∧ HasNoBreak cs :=
  List.forall_mem_cons

@[simp] theorem hasNoBreak_append {as bs : List Char} :
    HasNoBreak (as ++ bs) ↔ HasNoBreak as ∧ HasNoBreak bs :=
  List.forall_mem_append

theorem hasNoBreak_of_mem_fields {cs l : List Char} (h : l ∈ fields isLineBreak cs) :
    HasNoBreak l :=
  forall_of_mem_fields h

theorem hasNoBreak_map_breakToSpace (cs : List Char) : HasNoBreak (cs.map breakToSpace) := by
  intro c hc
  obtain ⟨d, -, rfl⟩ := List.mem_map.1 hc
  exact isLineBreak_breakToSpace d

theorem map_breakToSpace_eq_self {cs : List Char} (h : HasNoBreak cs) :
    cs.map breakToSpace = cs := by
  refine (List.map_congr_left fun c hc => ?_).trans (List.map_id cs)
  rw [breakToSpace, h c hc]
  rfl

theorem oneLine_eq_self {s : String} (h : HasNoBreak s.toList) : oneLine s = s := by
  refine String.toList_inj.1 ?_
  rw [toList_oneLine, map_breakToSpace_eq_self h]

/-- The text begins and ends with something visible. -/
structure IsFramed (cs : List Char) : Prop where
  starts : ∃ c ds, cs = c :: ds ∧ isBlank c = false
  ends : ∃ ds c, cs = ds ++ [c] ∧ isBlank c = false

namespace IsFramed

variable {as bs cs : List Char}

theorem append (ha : IsFramed as) (hb : IsFramed bs) (middle : List Char) :
    IsFramed (as ++ (middle ++ bs)) := by
  obtain ⟨c, ds, rfl, hc⟩ := ha.starts
  obtain ⟨es, d, rfl, hd⟩ := hb.ends
  exact ⟨⟨c, _, rfl, hc⟩, ⟨c :: ds ++ (middle ++ es), d, by simp, hd⟩⟩

/-- There is nothing to trim. -/
theorem trim_eq (h : IsFramed cs) : trim cs = cs := by
  refine IsTrimmed.trim_eq ⟨?_, ?_⟩
  · obtain ⟨c, ds, rfl, hc⟩ := h.starts
    rintro _ ⟨⟩
    exact hc
  · obtain ⟨ds, c, rfl, hc⟩ := h.ends
    rw [List.getLast?_concat]
    rintro _ ⟨⟩
    exact hc

end IsFramed

theorem isFramed_of_visible {cs : List Char} (hne : cs ≠ []) (h : ∀ c ∈ cs, isBlank c = false) :
    IsFramed cs := by
  constructor
  · obtain ⟨c, ds, rfl⟩ := List.exists_cons_of_ne_nil hne
    exact ⟨c, ds, rfl, h c List.mem_cons_self⟩
  · obtain ⟨ds, c, rfl⟩ := (List.eq_nil_or_concat cs).resolve_left hne
    exact ⟨ds, c, List.concat_eq_append, h c (by simp)⟩

/-! ## Escaping -/

namespace Identifier

theorem hasNoBreak_escape {cs : List Char} (h : HasNoBreak cs) : HasNoBreak (escape cs) := by
  intro c hc
  obtain ⟨d, hd, hc⟩ := List.mem_flatMap.1 hc
  split at hc
  · simp only [List.mem_cons, List.not_mem_nil, or_false, or_self] at hc
    rw [hc]
    rfl
  · cases List.mem_singleton.1 hc
    exact h c hd

theorem escape_cons_quote (cs : List Char) : escape ('"' :: cs) = '"' :: '"' :: escape cs := rfl

theorem escape_cons_of_ne {c : Char} (h : c ≠ '"') (cs : List Char) :
    escape (c :: cs) = c :: escape cs := by
  rw [escape, List.flatMap_cons, if_neg h]
  rfl

/-- Every double quote makes the text longer by one. -/
theorem length_escape (cs : List Char) : (escape cs).length = cs.length + cs.count '"' := by
  induction cs with
  | nil => rfl
  | cons c cs ih =>
    by_cases hc : c = '"'
    · subst hc
      simp only [escape_cons_quote, List.length_cons, List.count_cons_self, ih]
      omega
    · simp only [escape_cons_of_ne hc, List.length_cons, List.count_cons_of_ne hc, ih]
      omega

theorem escape_eq_self {cs : List Char} (h : '"' ∉ cs) : escape cs = cs := by
  induction cs with
  | nil => rfl
  | cons c cs ih =>
    rw [List.mem_cons, not_or] at h
    rw [escape_cons_of_ne (Ne.symm h.1), ih h.2]

/-- Reads each pair of double quotes as one. None may stand alone. -/
def unescape? : List Char → Option (List Char)
  | [] => some []
  | '"' :: '"' :: cs => (unescape? cs).map ('"' :: ·)
  | c :: cs => if c = '"' then none else (unescape? cs).map (c :: ·)

theorem unescape?_cons_of_ne {c : Char} (h : c ≠ '"') (cs : List Char) :
    unescape? (c :: cs) = (unescape? cs).map (c :: ·) := by
  rw [unescape?, if_neg h]
  rintro ds rfl
  exact absurd rfl h

theorem unescape?_escape (cs : List Char) : unescape? (escape cs) = some cs := by
  induction cs with
  | nil => rfl
  | cons c cs ih =>
    by_cases hc : c = '"'
    · subst hc
      rw [escape_cons_quote, unescape?, ih]
      rfl
    · rw [escape_cons_of_ne hc, unescape?_cons_of_ne hc, ih]
      rfl

/-! ## Words -/

/-- ASCII letters, digits and underscores, not led by a digit. -/
structure IsWord (name : String) : Prop where
  ne_empty : name ≠ ""
  isPart : ∀ c ∈ name.toList, c.isAlpha = true ∨ c.isDigit = true ∨ c = '_'
  start : ∀ c ∈ name.toList.head?, c.isDigit = false

theorem isDigit_eq_false_of_isAlpha {c : Char} (h : c.isAlpha = true) : c.isDigit = false := by
  refine Bool.eq_false_iff.2 fun hdigit => ?_
  have hletter : 'A'.val ≤ c.val := by
    rcases Bool.or_eq_true_iff.1 h with h | h
    · exact (of_decide_eq_true h).1
    · have hsmall : 'a'.val ≤ c.val := of_decide_eq_true (Bool.and_eq_true_iff.1 h).1
      exact UInt32.le_trans (by decide) hsmall
  have hnine : c.val ≤ '9'.val := of_decide_eq_true (Bool.and_eq_true_iff.1 hdigit).2
  exact absurd (UInt32.le_trans hletter hnine) (by decide)

theorem isPlainPart_iff {c : Char} :
    isPlainPart c = true ↔ c.isAlpha = true ∨ c.isDigit = true ∨ c = '_' := by
  simp only [isPlainPart, Char.isAlphanum, Bool.or_eq_true, beq_iff_eq, or_assoc]

theorem isPlain_iff_isWord {name : String} : isPlain name.toList = true ↔ IsWord name := by
  constructor
  · intro h
    have hparts := List.all_eq_true.1 (all_isPlainPart_of_isPlain h)
    refine ⟨?_, fun c hc => isPlainPart_iff.1 (hparts c hc), fun c hc => ?_⟩
    · rintro rfl
      cases h
    · obtain ⟨cs, hcs⟩ := List.head?_eq_some_iff.1 hc
      rw [hcs] at h
      rcases Bool.or_eq_true_iff.1 (Bool.and_eq_true_iff.1 h).1 with halpha | hline
      · exact isDigit_eq_false_of_isAlpha halpha
      · rw [eq_of_beq hline]
        rfl
  · rintro ⟨hne, hparts, hstart⟩
    cases hcs : name.toList with
    | nil => exact absurd (String.toList_eq_nil_iff.1 hcs) hne
    | cons c cs =>
      rw [hcs] at hparts hstart
      obtain ⟨hc, htail⟩ := List.forall_mem_cons.1 hparts
      have hlead : (c.isAlpha || c == '_') = true := by
        rcases hc with hc | hc | rfl
        · rw [hc]
          rfl
        · rw [hstart c rfl] at hc
          cases hc
        · rfl
      have hall : cs.all isPlainPart = true :=
        List.all_eq_true.2 fun d hd => isPlainPart_iff.2 (htail d hd)
      rw [isPlain, hlead, hall]
      rfl

/-- Line breaks are in no word. -/
theorem isPlain_map_breakToSpace (cs : List Char) :
    isPlain (cs.map breakToSpace) = isPlain cs := by
  have hpart : ∀ p : Char → Bool, p ' ' = false → p '\r' = false → p '\n' = false →
      ∀ c, p (breakToSpace c) = p c := by
    intro p hspace hreturn hfeed c
    unfold breakToSpace
    split
    · rename_i h
      rcases Bool.or_eq_true_iff.1 h with h | h
      · rw [eq_of_beq h, hspace, hreturn]
      · rw [eq_of_beq h, hspace, hfeed]
    · rfl
  cases cs with
  | nil => rfl
  | cons c cs =>
    rw [List.map_cons, isPlain, isPlain, List.all_map,
      hpart (fun c => c.isAlpha || c == '_') rfl rfl rfl c]
    exact congrArg _ (congrArg (List.all cs) (funext (hpart isPlainPart rfl rfl rfl)))

end Identifier

/-! ## Names -/

theorem hasNoBreak_of_isPlain {cs : List Char} (h : isPlain cs = true) : HasNoBreak cs := by
  intro c hc
  refine Bool.eq_false_iff.2 fun hb => ?_
  have hn := List.all_eq_true.1 (all_isPlainPart_of_isPlain h) c hc
  rcases Bool.or_eq_true_iff.1 hb with hb | hb <;> rw [eq_of_beq hb] at hn <;>
    exact absurd hn (by decide)

/-- A name is written on one line. -/
@[simp] theorem hasNoBreak_quoted (cs : List Char) : HasNoBreak (quoted cs) := by
  unfold quoted
  split
  · rename_i h
    exact hasNoBreak_of_isPlain h
  · exact List.forall_mem_cons.2 ⟨rfl, hasNoBreak_append.2
      ⟨hasNoBreak_escape (hasNoBreak_map_breakToSpace cs), by decide⟩⟩

/-- A name as it is written begins and ends with a double quote, or with a
character of a word. -/
theorem isFramed_quoted (cs : List Char) : IsFramed (quoted cs) := by
  unfold quoted
  split
  · rename_i h
    refine isFramed_of_visible ?_ fun c hc =>
      isBlank_of_isPlainPart (List.all_eq_true.1 (all_isPlainPart_of_isPlain h) c hc)
    rintro rfl
    cases h
  · exact ⟨⟨'"', _, rfl, rfl⟩, ⟨_, '"', rfl, rfl⟩⟩

/-- Something of every name can be seen. -/
theorem exists_visible_quoted (cs : List Char) : ∃ c ∈ quoted cs, isBlank c = false := by
  obtain ⟨c, ds, hcs, hc⟩ := (isFramed_quoted cs).starts
  exact ⟨c, by simp [hcs], hc⟩

@[simp] theorem hasNoBreak_quoteList (names : List String) : HasNoBreak (quoteList names).toList :=
  quoteList_induction (List.forall_mem_nil _) (fun ha hb => hasNoBreak_append.2 ⟨ha, hb⟩)
    (by decide) hasNoBreak_quoted names

namespace Identifier

theorem quoted_of_not_isPlain {cs : List Char} (h : isPlain cs = false) :
    quoted cs = '"' :: (escape (cs.map breakToSpace) ++ ['"']) := by
  rw [quoted, h]
  rfl

/-- The name that a token stands for: what is between its double quotes if there are any. -/
def named? : List Char → Option (List Char)
  | '"' :: cs => unescape? cs.dropLast
  | cs => some cs

/-- **A name is read back** as it was written, but for line breaks. -/
theorem named?_quoted (cs : List Char) : named? (quoted cs) = some (cs.map breakToSpace) := by
  cases h : isPlain cs with
  | true =>
    have hquote : ∀ ds, cs ≠ '"' :: ds := by
      rintro ds rfl
      cases h
    rw [quoted_of_isPlain h, map_breakToSpace_eq_self (hasNoBreak_of_isPlain h), named?]
    exact hquote
  | false => rw [quoted_of_not_isPlain h, named?, List.dropLast_concat, unescape?_escape]

/-- A line break in a name may as well be a space. -/
theorem quote_oneLine (n : String) : quote (oneLine n) = quote n := by
  have htwice : (n.toList.map breakToSpace).map breakToSpace = n.toList.map breakToSpace :=
    map_breakToSpace_eq_self (hasNoBreak_map_breakToSpace _)
  refine String.toList_inj.1 ?_
  rw [toList_quote, toList_quote, toList_oneLine]
  cases h : isPlain n.toList with
  | true => rw [map_breakToSpace_eq_self (hasNoBreak_of_isPlain h)]
  | false =>
    rw [quoted_of_not_isPlain h, quoted_of_not_isPlain (by rw [isPlain_map_breakToSpace, h]),
      htwice]

/-- **Names are written alike** if they are the same on one line. -/
theorem quote_eq_quote_iff {n m : String} : quote n = quote m ↔ oneLine n = oneLine m := by
  constructor
  · intro h
    have hread := congrArg named? (String.toList_inj.2 h)
    rw [toList_quote, toList_quote, named?_quoted, named?_quoted] at hread
    refine String.toList_inj.1 ?_
    rw [toList_oneLine, toList_oneLine]
    exact Option.some.inj hread
  · intro h
    rw [← quote_oneLine n, h, quote_oneLine]

/-- A script of one name is one statement. -/
theorem statements_quote (n : String) : Script.statements (quote n) = [quote n] := by
  have hsegments : segments (quote n).toList = [(quote n).toList] := by
    have hquiet := quiet_quoted n.toList []
    rw [List.append_nil] at hquiet
    rw [toList_quote, segments, hquiet]
    exact (foldr_extend (quoted n.toList) [] []).trans (by rw [List.append_nil])
  have hframed : IsFramed (quote n).toList := by
    rw [toList_quote]
    exact isFramed_quoted n.toList
  have hvisible : (quote n).toList.isEmpty = false := by
    obtain ⟨c, cs, hcs, -⟩ := hframed.starts
    rw [hcs]
    rfl
  rw [statements, hsegments, List.map_singleton, hframed.trim_eq,
    List.filter_cons_of_pos (by rw [hvisible]; rfl), List.filter_nil, List.map_singleton,
    String.ofList_toList]

/-- **A name is written as one token.** It is a word, written as it is, or it is written
between double quotes: on one line, with double quotes in pairs only, and reading
each pair as one gives the name with line breaks as spaces. So names without line
breaks are written alike only if they are the same; and the splitter of scripts finds
one statement in what is written. -/
theorem quote_one_token (n m : String) :
    (IsWord n ∧ quote n = n ∨
      ¬ IsWord n ∧ ∃ body, (quote n).toList = '"' :: (body ++ ['"']) ∧ HasNoBreak body ∧
        unescape? body = some (n.toList.map breakToSpace)) ∧
    (quote n = quote m ↔ oneLine n = oneLine m) ∧
    (HasNoBreak n.toList → HasNoBreak m.toList → (quote n = quote m ↔ n = m)) ∧
    Script.statements (quote n) = [quote n] := by
  refine ⟨?_, quote_eq_quote_iff, fun hn hm => ?_, statements_quote n⟩
  · cases h : isPlain n.toList with
    | true =>
      refine .inl ⟨isPlain_iff_isWord.1 h, String.toList_inj.1 ?_⟩
      rw [toList_quote, quoted_of_isPlain h]
    | false =>
      refine .inr ⟨fun hword => ?_, escape (n.toList.map breakToSpace), ?_,
        hasNoBreak_escape (hasNoBreak_map_breakToSpace _), unescape?_escape _⟩
      · rw [isPlain_iff_isWord.2 hword] at h
        cases h
      · rw [toList_quote, quoted_of_not_isPlain h]
  · rw [quote_eq_quote_iff, oneLine_eq_self hn, oneLine_eq_self hm]

/-- Names that differ by a double quote are not written alike. -/
theorem quote_one_token_comments :
    HasNoBreak "a\"; --".toList ∧ HasNoBreak "a\"\"; --".toList ∧
      quote "a\"; --" ≠ quote "a\"\"; --" ∧
      Script.statements (quote "a\"; --") = ["\"a\"\"; --\""] := by
  have hn : HasNoBreak "a\"; --".toList := by decide
  have hm : HasNoBreak "a\"\"; --".toList := by decide
  have hwritten : quote "a\"; --" = "\"a\"\"; --\"" := by decide +kernel
  obtain ⟨-, -, hsame, hstatements⟩ := quote_one_token "a\"; --" "a\"\"; --"
  exact ⟨hn, hm, fun h => absurd ((hsame hn hm).1 h) (by decide),
    hstatements.trans (congrArg (fun s => [s]) hwritten)⟩

end Identifier

end NormalForms
