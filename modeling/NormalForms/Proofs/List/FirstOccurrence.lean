import Mathlib.Data.List.Induction
import Mathlib.Data.List.Nodup

/-!
# First occurrences

`firstsBy key xs` are the elements of a list that stand before all others of their
key, in the order of the list. What an element adds depends on the keys before it
alone (`firstsBy_append_singleton`), and all else follows by going through the list
from its front: of each key there is one element, the first (`mem_firstsBy_iff`), and
what is no first occurrence may be left out beforehand (`firstsBy_firstsBy_append`).
-/

namespace NormalForms

variable {α κ : Type} [DecidableEq κ] {key : α → κ} {xs : List α} {x : α} {k : κ}

/-- The elements at the places before which nothing has their key. -/
def firstsBy (key : α → κ) (xs : List α) : List α :=
  (xs.zipIdx.filter fun p => key p.1 ∉ (xs.take p.2).map key).map Prod.fst

theorem firstsBy_sublist (key : α → κ) (xs : List α) : (firstsBy key xs).Sublist xs := by
  have hall : xs.zipIdx.map Prod.fst = xs := List.zipIdx_map_fst 0 xs
  conv_rhs => rw [← hall]
  exact List.filter_sublist.map Prod.fst

/-- **One element more** is a first occurrence if its key is new. -/
theorem firstsBy_append_singleton (key : α → κ) (xs : List α) (x : α) :
    firstsBy key (xs ++ [x]) =
      firstsBy key xs ++ if key x ∈ xs.map key then [] else [x] := by
  have hbefore : xs.zipIdx.filter (fun p => key p.1 ∉ ((xs ++ [x]).take p.2).map key) =
      xs.zipIdx.filter fun p => key p.1 ∉ (xs.take p.2).map key := by
    refine List.filter_congr fun p hp => ?_
    have hlt : p.2 < xs.length := List.snd_lt_of_mem_zipIdx hp
    rw [List.take_append_of_le_length (Nat.le_of_lt hlt)]
  rw [firstsBy, List.zipIdx_append, List.filter_append, List.map_append, hbefore, ← firstsBy]
  congr 1
  by_cases h : key x ∈ xs.map key <;> simp [h]

theorem firstsBy_append_of_mem (h : key x ∈ xs.map key) :
    firstsBy key (xs ++ [x]) = firstsBy key xs := by
  rw [firstsBy_append_singleton, if_pos h, List.append_nil]

theorem firstsBy_append_of_not_mem (h : key x ∉ xs.map key) :
    firstsBy key (xs ++ [x]) = firstsBy key xs ++ [x] := by
  rw [firstsBy_append_singleton, if_neg h]

/-- Every key has a first occurrence. -/
theorem mem_map_firstsBy : k ∈ (firstsBy key xs).map key ↔ k ∈ xs.map key := by
  induction xs using List.reverseRecOn with
  | nil => rfl
  | append_singleton xs x ih =>
    by_cases h : key x ∈ xs.map key
    · rw [firstsBy_append_of_mem h, ih, List.map_append, List.mem_append, List.map_singleton,
        List.mem_singleton]
      exact (or_iff_left_of_imp fun hk => hk ▸ h).symm
    · rw [firstsBy_append_of_not_mem h, List.map_append, List.map_append, List.mem_append,
        List.mem_append, ih]

/-- No key has two. -/
theorem nodup_map_firstsBy (key : α → κ) (xs : List α) : ((firstsBy key xs).map key).Nodup := by
  induction xs using List.reverseRecOn with
  | nil => exact List.nodup_nil
  | append_singleton xs x ih =>
    by_cases h : key x ∈ xs.map key
    · rw [firstsBy_append_of_mem h]
      exact ih
    · rw [firstsBy_append_of_not_mem h, List.map_append, List.map_singleton,
        ← List.concat_eq_append, List.nodup_concat]
      exact ⟨mt mem_map_firstsBy.1 h, ih⟩

theorem mem_firstsBy_iff_getElem? :
    x ∈ firstsBy key xs ↔ ∃ i, xs[i]? = some x ∧ key x ∉ (xs.take i).map key := by
  simp [firstsBy, List.mem_zipIdx_iff_getElem?]

/-- **The first occurrences** are the elements that are found by their keys. -/
theorem mem_firstsBy_iff :
    x ∈ firstsBy key xs ↔ xs.find? (fun y => key y = key x) = some x := by
  rw [mem_firstsBy_iff_getElem?, List.find?_eq_some_iff_append]
  constructor
  · rintro ⟨i, hi, hnew⟩
    obtain ⟨hlt, hget⟩ := List.getElem?_eq_some_iff.1 hi
    refine ⟨decide_eq_true rfl, xs.take i, xs.drop (i + 1), ?_, fun y hy => ?_⟩
    · rw [← hget, List.getElem_cons_drop, List.take_append_drop]
    · have hne : key y ≠ key x := fun he => hnew (he ▸ List.mem_map_of_mem hy)
      simpa using hne
  · rintro ⟨-, before, after, rfl, hbefore⟩
    exact ⟨before.length, by simp, by simpa using hbefore⟩

theorem firstsBy_eq_self (h : (xs.map key).Nodup) : firstsBy key xs = xs := by
  induction xs using List.reverseRecOn with
  | nil => rfl
  | append_singleton xs x ih =>
    rw [List.map_append, List.map_singleton, ← List.concat_eq_append, List.nodup_concat] at h
    rw [firstsBy_append_of_not_mem h.1, ih h.2]

/-- **What is no first occurrence** may be left out beforehand. -/
theorem firstsBy_firstsBy_append (key : α → κ) (xs ys : List α) :
    firstsBy key (firstsBy key xs ++ ys) = firstsBy key (xs ++ ys) := by
  induction ys using List.reverseRecOn with
  | nil => rw [List.append_nil, List.append_nil, firstsBy_eq_self (nodup_map_firstsBy key xs)]
  | append_singleton ys y ih =>
    have hkeys : key y ∈ (firstsBy key xs ++ ys).map key ↔ key y ∈ (xs ++ ys).map key := by
      rw [List.map_append, List.map_append, List.mem_append, List.mem_append, mem_map_firstsBy]
    rw [← List.append_assoc, ← List.append_assoc, firstsBy_append_singleton,
      firstsBy_append_singleton, ih]
    simp only [hkeys]

end NormalForms
