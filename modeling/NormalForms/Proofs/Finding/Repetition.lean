import NormalForms.Finding
import NormalForms.Proofs.List.FirstOccurrence

/-!
# Findings that repeat

Of the findings that agree in table, columns and description the first is kept
(`deduplicate_eq_firstsBy`). So a finding that is dropped as a repetition has another
in its place (`exists_mem_deduplicate`), and no two that are kept repeat each other
(`nodup_identity_deduplicate`). The columns are compared as one text. It tells the
names that stand in it if none of them holds the text between the names
(`intercalate_inj`).
-/

namespace NormalForms

namespace Finding

/-- What one more finding adds depends on the identities before it. -/
theorem novel_append_singleton (seen : List (String × String × String)) (fs : List Finding)
    (f : Finding) :
    novel seen (fs ++ [f]) =
      novel seen fs ++
        if f.identity ∈ seen ∨ f.identity ∈ fs.map identity then [] else [f] := by
  induction fs generalizing seen with
  | nil => by_cases h : f.identity ∈ seen <;> simp [novel, h]
  | cons g fs ih =>
    rw [List.cons_append, novel, novel, List.map_cons]
    by_cases hg : g.identity ∈ seen
    · have hkeys : f.identity ∈ seen ∨ f.identity ∈ g.identity :: fs.map identity ↔
          f.identity ∈ seen ∨ f.identity ∈ fs.map identity := by
        have hthere : f.identity = g.identity → f.identity ∈ seen := fun he => he ▸ hg
        rw [List.mem_cons, ← or_assoc, or_iff_left_of_imp hthere]
      rw [if_pos hg, if_pos hg, ih, if_congr hkeys rfl rfl]
    · have hkeys : f.identity ∈ g.identity :: seen ∨ f.identity ∈ fs.map identity ↔
          f.identity ∈ seen ∨ f.identity ∈ g.identity :: fs.map identity := by
        rw [List.mem_cons, List.mem_cons, or_assoc, or_left_comm]
      rw [if_neg hg, if_neg hg, ih, List.cons_append, if_congr hkeys rfl rfl]

/-- **What is kept** are the first findings of their identities. -/
theorem deduplicate_eq_firstsBy (fs : List Finding) : deduplicate fs = firstsBy identity fs := by
  induction fs using List.reverseRecOn with
  | nil => rfl
  | append_singleton fs f ih =>
    rw [deduplicate, novel_append_singleton, ← deduplicate, ih]
    by_cases h : f.identity ∈ fs.map identity
    · rw [if_pos (.inr h), List.append_nil, firstsBy_append_of_mem h]
    · rw [if_neg (by simpa using h), firstsBy_append_of_not_mem h]

theorem exists_mem_deduplicate {fs : List Finding} {f : Finding} (hf : f ∈ fs) :
    ∃ g ∈ deduplicate fs, g.identity = f.identity := by
  rw [deduplicate_eq_firstsBy]
  exact List.mem_map.1 (mem_map_firstsBy.2 (List.mem_map_of_mem hf))

/-- No two findings that are kept repeat each other. -/
theorem nodup_identity_deduplicate (fs : List Finding) :
    ((deduplicate fs).map identity).Nodup := by
  rw [deduplicate_eq_firstsBy]
  exact nodup_map_firstsBy identity fs

/-- Of two findings of one identity one is dropped. -/
theorem not_mem_deduplicate_or (fs : List Finding) {f g : Finding} (hne : f ≠ g)
    (hid : f.identity = g.identity) : f ∉ deduplicate fs ∨ g ∉ deduplicate fs := by
  by_contra hboth
  rw [not_or, Decidable.not_not, Decidable.not_not] at hboth
  exact hne (List.inj_on_of_nodup_map (nodup_identity_deduplicate fs) hboth.1 hboth.2 hid)

/-- **Repetitions are dropped and nothing else is.** What is kept of a list of findings
are the first ones of their identities, in order: one of each identity that occurs, and
the one that comes first. It makes no difference whether a part in front has been gone
through before, and going through a list twice is the same as once. -/
theorem deduplicate_keeps_firsts (fs : List Finding) :
    deduplicate fs = firstsBy identity fs ∧
    (deduplicate fs).Sublist fs ∧
    ((deduplicate fs).map identity).Nodup ∧
    (∀ k, k ∈ (deduplicate fs).map identity ↔ k ∈ fs.map identity) ∧
    (∀ f, f ∈ deduplicate fs ↔ fs.find? (fun g => g.identity = f.identity) = some f) ∧
    (∀ gs, deduplicate (fs ++ gs) = deduplicate (deduplicate fs ++ gs)) ∧
    deduplicate (deduplicate fs) = deduplicate fs := by
  have happend : ∀ gs, deduplicate (fs ++ gs) = deduplicate (deduplicate fs ++ gs) := by
    intro gs
    simp only [deduplicate_eq_firstsBy]
    exact (firstsBy_firstsBy_append identity fs gs).symm
  have htwice : deduplicate (deduplicate fs) = deduplicate fs := by
    simpa using (happend []).symm
  refine ⟨deduplicate_eq_firstsBy fs, novel_sublist [] fs, nodup_identity_deduplicate fs, ?_, ?_,
    happend, htwice⟩
  · intro k
    rw [deduplicate_eq_firstsBy]
    exact mem_map_firstsBy
  · intro f
    rw [deduplicate_eq_firstsBy]
    exact mem_firstsBy_iff

end Finding

/-! ## Joined names -/

namespace Text

/-- The text between the names of a finding. -/
def nameSeparator : List Char := [',', ' ']

/-- Where a text without the separator ends is told by the first separator. -/
theorem append_separator_inj {p q r s : List Char} (hp : ¬ nameSeparator <:+: p)
    (hq : ¬ nameSeparator <:+: q) (h : p ++ nameSeparator ++ r = q ++ nameSeparator ++ s) :
    p = q ∧ r = s := by
  have hend : ∀ {p q r s : List Char}, ¬ nameSeparator <:+: q →
      (∃ as, q = p ++ as ∧ nameSeparator ++ r = as ++ (nameSeparator ++ s)) → p = q ∧ r = s := by
    rintro p q r s hq ⟨as, rfl, heq⟩
    match as, heq with
    | [], heq => exact ⟨(List.append_nil p).symm, List.append_cancel_left heq⟩
    | [c], heq =>
      -- a separator does not begin where it ends
      simp [nameSeparator] at heq
    | c :: d :: as, heq =>
      simp only [nameSeparator, List.cons_append, List.nil_append, List.cons.injEq] at heq
      obtain ⟨rfl, rfl, -⟩ := heq
      exact absurd ⟨p, as, by simp [nameSeparator]⟩ hq
  rw [List.append_assoc, List.append_assoc, List.append_eq_append_iff] at h
  rcases h with h | h
  · exact hend hq h
  · obtain ⟨hqp, hsr⟩ := hend hp h
    exact ⟨hqp.symm, hsr.symm⟩

theorem separator_infix (p r : List Char) : nameSeparator <:+: p ++ nameSeparator ++ r :=
  ⟨p, r, rfl⟩

/-- **Joined names** are told apart if there is one at least and none holds the
separator. -/
theorem intercalate_inj {ps qs : List (List Char)} (hps : ps ≠ []) (hqs : qs ≠ [])
    (hp : ∀ p ∈ ps, ¬ nameSeparator <:+: p) (hq : ∀ q ∈ qs, ¬ nameSeparator <:+: q)
    (h : List.intercalate nameSeparator ps = List.intercalate nameSeparator qs) : ps = qs := by
  induction ps generalizing qs with
  | nil => exact absurd rfl hps
  | cons p ps ih =>
    obtain ⟨q, qs, rfl⟩ := List.exists_cons_of_ne_nil hqs
    obtain ⟨hp₁, hp⟩ := List.forall_mem_cons.1 hp
    obtain ⟨hq₁, hq⟩ := List.forall_mem_cons.1 hq
    match ps, qs with
    | [], [] => simpa using h
    | [], q' :: qs =>
      rw [List.intercalate_singleton, List.intercalate_cons_cons] at h
      exact absurd (h ▸ separator_infix q _) hp₁
    | p' :: ps, [] =>
      rw [List.intercalate_singleton, List.intercalate_cons_cons] at h
      exact absurd (h ▸ separator_infix p _) hq₁
    | p' :: ps, q' :: qs =>
      rw [List.intercalate_cons_cons, List.intercalate_cons_cons] at h
      obtain ⟨rfl, hrest⟩ := append_separator_inj hp₁ hq₁ h
      rw [ih (List.cons_ne_nil _ _) (List.cons_ne_nil _ _) hp hq hrest]

end Text

end NormalForms
