import NormalForms.Identifier.Qualified
import NormalForms.Proofs.Identifier.Quoting

/-!
# Qualified names read back

The scan for separating dots never stops within a name as it is written: a word
holds neither a dot nor a quote, and between double quotes only a double quote
ends anything, which a name holds in pairs (`undotted_quoted`). So names joined by
dots are parted at just these dots (`parts_dotted`), whatever dots, brackets, blanks
and quotes the names themselves hold.
-/

namespace NormalForms.Identifier

open Text Script

/-! ## Texts without a separating dot -/

/-- The scan that starts in `close` runs through the text without a cut, and is
outside quotes after it. -/
def Undotted (close : Option Char) (cs : List Char) : Prop :=
  ∀ rest, dottedParts close (cs ++ rest) = cs.foldr extend (dottedParts none rest)

theorem undotted_nil : Undotted none [] := fun _ => rfl

/-- A character of a word opens no quotes. -/
theorem closer?_eq_none {c : Char} (hc : isPlainPart c = true) : closer? c = none := by
  have hne : ∀ q, isPlainPart q = false → c ≠ q := by
    rintro q hq rfl
    rw [hc] at hq
    cases hq
  rw [closer?, if_neg (hne '"' rfl), if_neg (hne '\x60' rfl), if_neg (hne '[' rfl)]

theorem Undotted.cons_plain {c : Char} {cs : List Char} (hc : isPlainPart c = true)
    (h : Undotted none cs) : Undotted none (c :: cs) := by
  intro rest
  have hdot : c ≠ '.' := by
    rintro rfl
    exact absurd hc (by decide)
  rw [List.cons_append, dottedParts, if_neg hdot, closer?_eq_none hc, h rest]
  rfl

theorem undotted_of_plain {cs : List Char} (h : ∀ c ∈ cs, isPlainPart c = true) :
    Undotted none cs := by
  induction cs with
  | nil => exact undotted_nil
  | cons c cs ih =>
    obtain ⟨hc, hcs⟩ := List.forall_mem_cons.1 h
    exact (ih hcs).cons_plain hc

/-- The quote that opens a name closes it. -/
theorem Undotted.cons_quote {cs : List Char} (h : Undotted (some '"') cs) :
    Undotted none ('"' :: cs) := by
  intro rest
  rw [List.cons_append, dottedParts, if_neg (by decide)]
  exact congrArg (extend '"') (h rest)

theorem undotted_quote : Undotted (some '"') ['"'] := fun _ => rfl

/-- Between double quotes, any other character is passed over. -/
theorem Undotted.cons_between {c : Char} {cs : List Char} (hc : c ≠ '"')
    (h : Undotted (some '"') cs) : Undotted (some '"') (c :: cs) := by
  intro rest
  rw [List.cons_append, dottedParts, if_neg hc, h rest]
  rfl

/-- A pair of double quotes closes the name and opens it again. -/
theorem Undotted.cons_pair {cs : List Char} (h : Undotted (some '"') cs) :
    Undotted (some '"') ('"' :: '"' :: cs) := by
  intro rest
  rw [List.cons_append, dottedParts, if_pos rfl, h.cons_quote rest]
  rfl

theorem undotted_escape (cs : List Char) : Undotted (some '"') (escape cs ++ ['"']) := by
  induction cs with
  | nil => exact undotted_quote
  | cons c cs ih =>
    by_cases hc : c = '"'
    · subst hc
      rw [escape_cons_quote]
      exact ih.cons_pair
    · rw [escape_cons_of_ne hc]
      exact ih.cons_between hc

/-- **No name as it is written holds a separating dot.** -/
theorem undotted_quoted (cs : List Char) : Undotted none (quoted cs) := by
  cases h : isPlain cs with
  | true =>
    rw [quoted_of_isPlain h]
    exact undotted_of_plain (List.all_eq_true.1 (all_isPlainPart_of_isPlain h))
  | false =>
    rw [quoted_of_not_isPlain h]
    exact (undotted_escape _).cons_quote

/-! ## Joined names -/

/-- Each dot between two names parts them. -/
theorem dottedParts_intercalate {ps : List (List Char)} (hne : ps ≠ [])
    (h : ∀ p ∈ ps, Undotted none p) : dottedParts none (List.intercalate ['.'] ps) = ps := by
  induction ps with
  | nil => exact absurd rfl hne
  | cons p ps ih =>
    obtain ⟨hp, hps⟩ := List.forall_mem_cons.1 h
    cases ps with
    | nil =>
      have hlast := hp []
      rw [List.append_nil] at hlast
      rw [List.intercalate_singleton, hlast, dottedParts, foldr_extend, List.append_nil]
    | cons q qs =>
      rw [List.intercalate_cons_cons, List.append_assoc, hp, List.singleton_append, dottedParts,
        if_pos rfl, ih (List.cons_ne_nil q qs) hps, foldr_extend, List.append_nil]

/-- Names as they are written, with a dot between each two. -/
def dotted (names : List String) : String := String.intercalate "." (names.map quote)

theorem toList_dotted (names : List String) :
    (dotted names).toList = List.intercalate ['.'] (names.map fun n => quoted n.toList) := by
  rw [dotted, String.toList_intercalate, List.map_map]
  exact congrArg (List.intercalate _) (List.map_congr_left fun n _ => toList_quote n)

theorem isFramed_dotted {names : List String} (hne : names ≠ []) :
    IsFramed (dotted names).toList := by
  rw [toList_dotted]
  induction names with
  | nil => exact absurd rfl hne
  | cons n names ih =>
    cases names with
    | nil => simpa using isFramed_quoted n.toList
    | cons m names =>
      rw [List.map_cons, List.map_cons, List.intercalate_cons_cons, List.append_assoc]
      exact (isFramed_quoted n.toList).append (ih (List.cons_ne_nil m names)) ['.']

/-- **The parts of joined names are these names**, each without the quotes around it. -/
theorem parts_dotted {names : List String} (hne : names ≠ []) :
    parts (dotted names) = names.map fun n => unquote (quote n) := by
  have hcut : dottedParts none (dotted names).toList = names.map fun n => quoted n.toList := by
    rw [toList_dotted]
    refine dottedParts_intercalate (by simpa using hne) fun p hp => ?_
    obtain ⟨n, -, rfl⟩ := List.mem_map.1 hp
    exact undotted_quoted n.toList
  rw [parts, hcut, List.map_map]
  refine List.map_congr_left fun n _ => ?_
  show String.ofList (bare (trim (quoted n.toList))) = unquote (quote n)
  rw [(isFramed_quoted n.toList).trim_eq, unquote, toList_quote]

/-! ## Reading one name -/

/-- A word is read as it is, and any other name with its double quotes still in pairs. -/
theorem bare_quoted (cs : List Char) : bare (quoted cs) = escape (cs.map breakToSpace) := by
  cases h : isPlain cs with
  | true =>
    have hparts := List.all_eq_true.1 (all_isPlainPart_of_isPlain h)
    have hquote : '"' ∉ cs := fun hm => absurd (hparts _ hm) (by decide)
    rw [quoted_of_isPlain h, map_breakToSpace_eq_self (hasNoBreak_of_isPlain h),
      escape_eq_self hquote]
    obtain ⟨c, ds, rfl⟩ : ∃ c ds, cs = c :: ds := by
      refine List.exists_cons_of_ne_nil ?_
      rintro rfl
      cases h
    rw [bare, closer?_eq_none (hparts c List.mem_cons_self)]
  | false =>
    rw [quoted_of_not_isPlain h, bare]
    have hclose : closer? '"' = some '"' := rfl
    rw [hclose]
    dsimp only
    rw [if_pos (by simp), List.dropLast_concat]

theorem unquote_quote_eq_iff {n : String} :
    unquote (quote n) = n ↔ '"' ∉ n.toList ∧ HasNoBreak n.toList := by
  rw [← String.toList_inj, toList_unquote, toList_quote, bare_quoted]
  constructor
  · intro h
    have hlength := congrArg List.length h
    rw [length_escape, List.length_map] at hlength
    have hnone : '"' ∉ n.toList.map breakToSpace := List.count_eq_zero.1 (by omega)
    rw [escape_eq_self hnone] at h
    rw [h] at hnone
    refine ⟨hnone, ?_⟩
    rw [← h]
    exact hasNoBreak_map_breakToSpace _
  · rintro ⟨hquote, hbreak⟩
    rw [map_breakToSpace_eq_self hbreak, escape_eq_self hquote]

/-- **Qualified names are parted at separating dots only.** Of names that are written
with dots between them, the last is the relation and the one before it the schema,
each read as its own token; a single name has no schema. A name comes back as it
was if it holds no double quote and no line break. -/
theorem dotted_read_back (qualifiers : List String) (n : String) :
    schemaAndRelation? (dotted (qualifiers ++ [n])) =
      qualifiers.getLast?.map (fun q => (unquote (quote q), unquote (quote n))) ∧
    relation (dotted (qualifiers ++ [n])) = unquote (quote n) ∧
    (unquote (quote n) = n ↔ '"' ∉ n.toList ∧ HasNoBreak n.toList) := by
  have hne : qualifiers ++ [n] ≠ [] := by simp
  have hparts := parts_dotted hne
  have hpair : schemaAndRelation? (dotted (qualifiers ++ [n])) =
      qualifiers.getLast?.map fun q => (unquote (quote q), unquote (quote n)) := by
    rw [schemaAndRelation?, hparts, ← List.map_reverse, List.reverse_append]
    rcases List.eq_nil_or_concat qualifiers with rfl | ⟨qs, q, rfl⟩
    · rfl
    · simp
  have htrimmed : trimmed (dotted (qualifiers ++ [n])) = dotted (qualifiers ++ [n]) :=
    String.toList_inj.1 (by rw [toList_trimmed, (isFramed_dotted hne).trim_eq])
  refine ⟨hpair, ?_, unquote_quote_eq_iff⟩
  rw [relation, htrimmed, hpair]
  rcases List.eq_nil_or_concat qualifiers with rfl | ⟨qs, q, rfl⟩
  · show unquote (dotted [n]) = unquote (quote n)
    rw [dotted, List.map_singleton, String.intercalate_singleton]
  · simp

end NormalForms.Identifier
