import NormalForms.Assessment
import NormalForms.Proofs.Check.Origin

/-!
# The gates agree

The checks of the second and third form hold a gate of their own: they return
the findings of a lower form where those keep them from looking. An assessment
gates them once more, from outside. The two agree on every schema: each bucket
of an assessment holds the findings of its check that stand against the form of
the bucket, and the form achieved is read off the buckets.
-/

namespace NormalForms

namespace PartialDependency

theorem findings_of_isBlocked {s : Schema} (h : Atomicity.isBlocked s = true) :
    findings s = Atomicity.findings s := by
  rw [findings, if_pos h]

theorem findings_of_not_isBlocked {s : Schema} (h : Atomicity.isBlocked s = false) :
    findings s = s.tables.flatMap tableFindings := by
  rw [findings, h]
  rfl

theorem form_of_mem_findings {s : Schema} {f : Finding} (hs : Atomicity.isBlocked s = false)
    (h : f ∈ findings s) : f.form = .second := by
  rw [findings_of_not_isBlocked hs] at h
  obtain ⟨t, -, h⟩ := List.mem_flatMap.1 h
  exact form_of_mem_tableFindings h

/-- A blocked check has something to return. -/
theorem findings_ne_nil_of_isBlocked {s : Schema} (h : Atomicity.isBlocked s = true) :
    findings s ≠ [] := by
  obtain ⟨f, hf, -⟩ := Atomicity.isBlocked_eq_true_iff.1 h
  rw [findings_of_isBlocked h]
  exact List.ne_nil_of_mem hf

end PartialDependency

namespace TransitiveDependency

theorem findings_of_partial_eq_nil {s : Schema} (h : PartialDependency.findings s = []) :
    findings s = s.tables.flatMap tableFindings := by
  rw [findings, h]

theorem form_of_mem_findings {s : Schema} {f : Finding} (hs : PartialDependency.findings s = [])
    (h : f ∈ findings s) : f.form = .third := by
  rw [findings_of_partial_eq_nil hs] at h
  obtain ⟨t, -, h⟩ := List.mem_flatMap.1 h
  exact form_of_mem_tableFindings h

end TransitiveDependency

namespace Finding

/-- The findings of a list that stand against a form. -/
def against (form : Form) (fs : List Finding) : List Finding := fs.filter fun f => f.form = form

theorem against_eq_self {form : Form} {fs : List Finding} (h : ∀ f ∈ fs, f.form = form) :
    against form fs = fs :=
  List.filter_eq_self.2 fun f hf => decide_eq_true (h f hf)

theorem against_eq_nil {form other : Form} {fs : List Finding} (hne : other ≠ form)
    (h : ∀ f ∈ fs, f.form = other) : against form fs = [] := by
  refine List.filter_eq_nil_iff.2 fun f hf => ?_
  rw [h f hf]
  simpa using hne

theorem mem_of_mem_deduplicate {f : Finding} {fs : List Finding} (h : f ∈ deduplicate fs) :
    f ∈ fs :=
  (novel_sublist [] fs).subset h

end Finding

namespace Schema

open Finding

theorem secondFindings_of_not_isBlocked {s : Schema} (h : Atomicity.isBlocked s = false) :
    s.secondFindings = PartialDependency.findings s := by
  rw [secondFindings, h]
  rfl

theorem secondFindings_eq_against (s : Schema) :
    s.secondFindings = against .second (PartialDependency.findings s) := by
  cases hs : Atomicity.isBlocked s with
  | true =>
    rw [secondFindings_of_isBlocked hs, PartialDependency.findings_of_isBlocked hs]
    exact (against_eq_nil (by decide) fun f hf =>
      Atomicity.form_of_mem_findings hf).symm
  | false =>
    rw [secondFindings_of_not_isBlocked hs]
    exact (against_eq_self fun f hf => PartialDependency.form_of_mem_findings hs hf).symm

theorem thirdFindings_eq_against (s : Schema) :
    s.thirdFindings = deduplicate (against .third (TransitiveDependency.findings s)) := by
  cases hs : Atomicity.isBlocked s with
  | true =>
    have hne := PartialDependency.findings_ne_nil_of_isBlocked hs
    rw [thirdFindings_of_isBlocked hs, TransitiveDependency.findings_of_partial_ne_nil hne,
      PartialDependency.findings_of_isBlocked hs, against_eq_nil (by decide)
        fun f hf => Atomicity.form_of_mem_findings hf]
    rfl
  | false =>
    by_cases hp : PartialDependency.findings s = []
    · rw [against_eq_self fun f hf => TransitiveDependency.form_of_mem_findings hp hf,
        thirdFindings, hs, secondFindings_of_not_isBlocked hs, hp]
      rfl
    · rw [thirdFindings_of_secondFindings_ne_nil (by rwa [secondFindings_of_not_isBlocked hs]),
        TransitiveDependency.findings_of_partial_ne_nil hp,
        against_eq_nil (by decide)
          fun f hf => PartialDependency.form_of_mem_findings hs hf]
      rfl

/-- Every bucket holds findings against its own form. -/
theorem form_of_mem_assess {s : Schema} {notices : List Notice} {form : Form} {f : Finding}
    (h : f ∈ (s.assess notices).findings form) : f.form = form := by
  cases form with
  | first => exact Atomicity.form_of_mem_findings h
  | second =>
    have h' : f ∈ s.secondFindings := h
    rw [secondFindings_eq_against] at h'
    exact of_decide_eq_true (List.mem_filter.1 h').2
  | third =>
    have h' : f ∈ s.thirdFindings := h
    rw [thirdFindings_eq_against] at h'
    exact of_decide_eq_true (List.mem_filter.1 (mem_of_mem_deduplicate h')).2

theorem secondFindings_eq_nil_or_thirdFindings_eq_nil (s : Schema) :
    s.secondFindings = [] ∨ s.thirdFindings = [] := by
  by_cases h : s.secondFindings = []
  · exact .inl h
  · exact .inr (thirdFindings_of_secondFindings_ne_nil h)

/-! ## The form achieved -/

/-- The four outcomes of an assessment, by the first gate that is shut. -/
theorem achieved_cases (s : Schema) :
    (Atomicity.isBlocked s = true ∧ s.secondFindings = [] ∧ s.thirdFindings = [] ∧
      s.achieved = none) ∨
    (Atomicity.isBlocked s = false ∧ s.secondFindings ≠ [] ∧ s.thirdFindings = [] ∧
      s.achieved = some .first) ∨
    (Atomicity.isBlocked s = false ∧ s.secondFindings = [] ∧ s.thirdFindings ≠ [] ∧
      s.achieved = some .second) ∨
    (Atomicity.isBlocked s = false ∧ s.secondFindings = [] ∧ s.thirdFindings = [] ∧
      s.achieved = some .third) := by
  cases hs : Atomicity.isBlocked s with
  | true =>
    exact .inl ⟨rfl, secondFindings_of_isBlocked hs, thirdFindings_of_isBlocked hs, by
      simp [achieved, hs]⟩
  | false =>
    by_cases hp : s.secondFindings = []
    · by_cases ht : s.thirdFindings = []
      · exact .inr (.inr (.inr ⟨rfl, hp, ht, by simp [achieved, hs, hp, ht]⟩))
      · exact .inr (.inr (.inl ⟨rfl, hp, ht, by simp [achieved, hs, hp, ht]⟩))
    · exact .inr (.inl ⟨rfl, hp, thirdFindings_of_secondFindings_ne_nil hp, by
        simp [achieved, hs, hp]⟩)

theorem achieved_eq_none_iff (s : Schema) :
    s.achieved = none ↔ Atomicity.isBlocked s = true := by
  rcases achieved_cases s with ⟨hs, -, -, h⟩ | ⟨hs, -, -, h⟩ | ⟨hs, -, -, h⟩ | ⟨hs, -, -, h⟩ <;>
    simp [hs, h]

theorem achieved_eq_first_iff (s : Schema) :
    s.achieved = some .first ↔ s.secondFindings ≠ [] := by
  rcases achieved_cases s with ⟨-, hp, -, h⟩ | ⟨-, hp, -, h⟩ | ⟨-, hp, -, h⟩ | ⟨-, hp, -, h⟩ <;>
    simp [hp, h]

theorem achieved_eq_second_iff (s : Schema) :
    s.achieved = some .second ↔ s.thirdFindings ≠ [] := by
  rcases achieved_cases s with ⟨-, -, ht, h⟩ | ⟨-, -, ht, h⟩ | ⟨-, -, ht, h⟩ | ⟨-, -, ht, h⟩ <;>
    simp [ht, h]

theorem achieved_eq_third_iff (s : Schema) :
    s.achieved = some .third ↔
      Atomicity.isBlocked s = false ∧ s.secondFindings = [] ∧ s.thirdFindings = [] := by
  rcases achieved_cases s with ⟨hs, hp, ht, h⟩ | ⟨hs, hp, ht, h⟩ | ⟨hs, hp, ht, h⟩ |
    ⟨hs, hp, ht, h⟩ <;> simp [hs, hp, ht, h]

/-- **The two gates agree.** Every bucket of an assessment is what its own check
finds against the form of the bucket, the last without repetition; at most one
of the two upper buckets holds anything; and the form achieved tells which gate
was shut first. -/
theorem assess_agrees_with_checks (s : Schema) (notices : List Notice) :
    let a := s.assess notices
    (∀ form, ∀ f ∈ a.findings form, f.form = form) ∧
    a.findings .first = Atomicity.findings s ∧
    a.findings .second = against .second (PartialDependency.findings s) ∧
    a.findings .third = deduplicate (against .third (TransitiveDependency.findings s)) ∧
    (a.findings .second = [] ∨ a.findings .third = []) ∧
    (a.achieved = none ↔ ∃ f ∈ Atomicity.findings s, f.isBlocking = true) ∧
    (a.achieved = some .first ↔ a.findings .second ≠ []) ∧
    (a.achieved = some .second ↔ a.findings .third ≠ []) ∧
    (a.achieved = some .third ↔ (∀ f ∈ Atomicity.findings s, f.isBlocking = false) ∧
      a.findings .second = [] ∧ a.findings .third = []) := by
  refine ⟨fun form f hf => form_of_mem_assess hf, rfl, secondFindings_eq_against s,
    thirdFindings_eq_against s, secondFindings_eq_nil_or_thirdFindings_eq_nil s, ?_,
    achieved_eq_first_iff s, achieved_eq_second_iff s, ?_⟩
  · rw [← Atomicity.isBlocked_eq_true_iff]
    exact achieved_eq_none_iff s
  · rw [← Atomicity.isBlocked_eq_false_iff]
    exact achieved_eq_third_iff s

end Schema

end NormalForms
