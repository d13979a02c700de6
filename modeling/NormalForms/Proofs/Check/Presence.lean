import Mathlib.Data.List.Basic
import NormalForms.Proofs.Check.Origin

/-!
# When there is something to find

For each check, what a table must have for the check to find anything: a
condition on its columns and keys alone, rule by rule. What a finding says and
in which order findings come plays no part in it.
-/

namespace NormalForms

open Naming

/-! ## The first form -/

namespace Atomicity

theorem missingKey_ne_nil_iff {t : Table} : missingKey t ≠ [] ↔ t.primaryKey? = none := by
  unfold missingKey
  cases t.primaryKey? <;> simp

theorem isBlocking_of_mem_missingKey {t : Table} {f : Finding} (h : f ∈ missingKey t) :
    f.isBlocking = true := by
  rw [Finding.isBlocking, (of_mem_missingKey h).2.2.1]

theorem exists_blocking_compositeValue_iff {t : Table} :
    (∃ f ∈ compositeValues t, f.isBlocking = true) ↔
      ∃ c ∈ t.columns, isMultiValued c.dataType = true := by
  constructor
  · rintro ⟨f, hf, hb⟩
    obtain ⟨c, hc, h⟩ := List.mem_filterMap.1 hf
    refine ⟨c, hc, ?_⟩
    unfold compositeValue? at h
    split at h
    · assumption
    · split at h
      · cases h
        cases hb
      · cases h
  · rintro ⟨c, hc, hm⟩
    exact ⟨multiValued t c, List.mem_filterMap.2 ⟨c, hc, if_pos hm⟩, rfl⟩

/-- **A table blocks** if it has no key, a column of several values, or a group
that is more than a pair of identifiers. -/
theorem any_isBlocking_iff {t : Table} :
    (tableFindings t).any Finding.isBlocking = true ↔
      t.primaryKey? = none ∨ (∃ c ∈ t.columns, isMultiValued c.dataType = true) ∨
        ∃ base ∈ groupBases t, isGroup t base = true ∧
          (repeatingGroup t base).isBlocking = true := by
  have hkey : (∃ f ∈ missingKey t, f.isBlocking = true) ↔ t.primaryKey? = none := by
    rw [← missingKey_ne_nil_iff]
    constructor
    · rintro ⟨f, hf, -⟩
      exact List.ne_nil_of_mem hf
    · intro h
      obtain ⟨f, hf⟩ := List.exists_mem_of_ne_nil _ h
      exact ⟨f, hf, isBlocking_of_mem_missingKey hf⟩
  have hgroup : (∃ f ∈ repeatingGroups t, f.isBlocking = true) ↔
      ∃ base ∈ groupBases t, isGroup t base = true ∧
        (repeatingGroup t base).isBlocking = true := by
    simp only [repeatingGroups, List.mem_map, List.mem_filter]
    constructor
    · rintro ⟨_, ⟨base, ⟨hbase, hg⟩, rfl⟩, hb⟩
      exact ⟨base, hbase, hg, hb⟩
    · rintro ⟨base, hbase, hg, hb⟩
      exact ⟨_, ⟨base, ⟨hbase, hg⟩, rfl⟩, hb⟩
  simp only [List.any_eq_true, tableFindings, List.mem_append, or_and_right, exists_or, hkey,
    exists_blocking_compositeValue_iff, hgroup, or_assoc]

end Atomicity

/-! ## The second form -/

theorem append_ne_nil_iff {α : Type} {l l' : List α} : l ++ l' ≠ [] ↔ l ≠ [] ∨ l' ≠ [] := by
  simp only [ne_eq, List.append_eq_nil_iff, not_and_or]

theorem filterMap_ne_nil_iff {α β : Type} {f : α → Option β} {l : List α} :
    l.filterMap f ≠ [] ↔ ∃ a ∈ l, (f a).isSome = true := by
  simp [List.filterMap_eq_nil_iff, Option.isSome_iff_ne_none]

theorem filter_ne_nil_iff {α : Type} {p : α → Bool} {l : List α} :
    l.filter p ≠ [] ↔ ∃ a ∈ l, p a = true := by
  simp [List.filter_eq_nil_iff]

namespace PartialDependency

theorem isSome_foreignKeyFinding?_iff {t : Table} {scope : String} {fk : ForeignKey} :
    (foreignKeyFinding? t scope fk).isSome = true ↔ foreignKeyDependents t fk ≠ [] := by
  unfold foreignKeyFinding?
  cases foreignKeyDependents t fk <;> simp

theorem isSome_keyColumnFinding?_iff {t : Table} {key : Column} :
    (keyColumnFinding? t key).isSome = true ↔
      ∃ base, Text.beforeEnd? (Text.lower key.name) "_id" = some base ∧
        2 ≤ Text.byteLength base ∧ mentioning t base ≠ [] := by
  unfold keyColumnFinding?
  cases Text.beforeEnd? (Text.lower key.name) "_id" with
  | none => simp
  | some base =>
    simp only [Option.some.injEq, exists_eq_left', Bool.or_eq_true, decide_eq_true_eq,
      List.isEmpty_iff]
    split
    · rename_i hshort
      refine iff_of_false Bool.false_ne_true fun hlong => ?_
      rcases hshort with hlt | hnil
      · exact Nat.not_le_of_lt hlt hlong.1
      · exact hlong.2 hnil
    · rename_i hshort
      rw [not_or, Nat.not_lt] at hshort
      exact iff_of_true rfl hshort

theorem isSome_memberFinding?_iff {t : Table} {c : Column} :
    (memberFinding? t c).isSome = true ↔ ∃ key ∈ t.keyColumns, belongsTo key c.name = true := by
  rw [memberFinding?, Option.isSome_map, List.find?_isSome]

theorem compositeFindings_ne_nil_iff {t : Table} :
    compositeFindings t ≠ [] ↔
      (∃ fk ∈ keyForeignKeys t, foreignKeyDependents t fk ≠ []) ∨
      (∃ key ∈ t.keyColumns, ∃ base,
        Text.beforeEnd? (Text.lower key.name) "_id" = some base ∧
          2 ≤ Text.byteLength base ∧ mentioning t base ≠ []) ∨
      ∃ c ∈ t.plainColumns, ∃ key ∈ t.keyColumns, belongsTo key c.name = true := by
  simp only [compositeFindings, append_ne_nil_iff, filterMap_ne_nil_iff, or_assoc,
    isSome_foreignKeyFinding?_iff, isSome_keyColumnFinding?_iff, isSome_memberFinding?_iff]

/-- **A partial dependency is found** where columns belong to a foreign key; of
a composite key, only foreign keys that take part in it count, and its columns
beside them. -/
theorem tableFindings_ne_nil_iff {t : Table} :
    tableFindings t ≠ [] ↔
      if isComposite t then compositeFindings t ≠ []
      else ∃ fk ∈ t.foreignKeys, foreignKeyDependents t fk ≠ [] := by
  unfold tableFindings
  split
  · rfl
  · rw [filterMap_ne_nil_iff]
    simp only [isSome_foreignKeyFinding?_iff]

end PartialDependency

/-! ## The third form -/

namespace TransitiveDependency

theorem isSome_dependencyFinding?_iff {t : Table} {c : Column} {cs : List Column} :
    (dependencyFinding? t c cs).isSome = true ↔ cs ≠ [] := by
  unfold dependencyFinding?
  cases cs <;> simp

theorem isSome_entityFinding?_iff {t : Table} {entity : String} :
    (entityFinding? t entity).isSome = true ↔
      2 ≤ (entityMembers t entity).length ∧
        ∃ c ∈ entityMembers t entity, identifies c.name = true := by
  unfold entityFinding?
  split
  · rename_i h
    exact ⟨fun hs => (by cases hs), fun hm => absurd hm.1 (Nat.not_le.2 h)⟩
  · rename_i h
    rw [Option.isSome_map, List.find?_isSome]
    exact (and_iff_right (Nat.not_lt.1 h)).symm

theorem entityFindings_ne_nil_iff {t : Table} :
    entityFindings t ≠ [] ↔
      ∃ entity, 2 ≤ (entityMembers t entity).length ∧
        ∃ c ∈ entityMembers t entity, identifies c.name = true := by
  rw [entityFindings, filterMap_ne_nil_iff]
  simp only [isSome_entityFinding?_iff, List.mem_eraseDups]
  constructor
  · rintro ⟨entity, -, h⟩
    exact ⟨entity, h⟩
  · rintro ⟨entity, hlen, c, hc, hi⟩
    obtain ⟨hp, he⟩ := List.mem_filter.1 hc
    exact ⟨entity, List.mem_filterMap.2 ⟨c, hp, eq_of_beq he⟩, hlen, c, hc, hi⟩

theorem isSome_labelFinding?_iff {t : Table} {code : Column} :
    (labelFinding? t code).isSome = true ↔
      ∃ base, identified? code.name = some base ∧ base ≠ "" ∧
        ∃ c ∈ others code t.plainColumns,
          (Text.startsWith (Text.lower c.name) (base ++ "_") && isLabel c.name) = true := by
  unfold labelFinding?
  cases identified? code.name with
  | none => simp
  | some base =>
    by_cases hb : base = ""
    · simp [hb]
    · dsimp only
      rw [if_neg hb, isSome_dependencyFinding?_iff, filter_ne_nil_iff]
      simp [hb]

theorem addressFindings_ne_nil_iff {t : Table} :
    addressFindings t ≠ [] ↔ 3 ≤ (addressColumns t).length := by
  unfold addressFindings
  split
  · rename_i h
    exact ⟨fun hn => absurd rfl hn, fun hl => absurd hl (Nat.not_le.2 h)⟩
  · rename_i h
    refine ⟨fun _ => Nat.not_lt.1 h, fun _ => ?_⟩
    split <;> exact List.cons_ne_nil _ _

theorem derivedAmounts_ne_nil_iff {t : Table} :
    derivedAmounts t ≠ [] ↔ 2 ≤ (monetaryColumns t).length ∧ derivedColumns t ≠ [] := by
  unfold derivedAmounts
  split
  · rename_i h
    simp only [Bool.or_eq_true, decide_eq_true_eq, List.isEmpty_iff] at h
    refine ⟨fun hn => absurd rfl hn, fun ⟨hl, hd⟩ => ?_⟩
    exact absurd (h.resolve_right hd) (Nat.not_lt.2 hl)
  · rename_i h
    simp only [Bool.or_eq_true, decide_eq_true_eq, List.isEmpty_iff, not_or] at h
    exact ⟨fun _ => ⟨Nat.not_lt.1 h.1, h.2⟩, fun _ => List.cons_ne_nil _ _⟩

theorem isSome_referenceFinding?_iff {t : Table} {c : Column} :
    (referenceFinding? t c).isSome = true ↔
      ∃ base, Text.beforeEnd? (Text.lower c.name) "_id" = some base ∧ base ≠ "" ∧
        t.inForeignKey c.name = false ∧
        ∃ d ∈ others c t.plainColumns, Text.startsWith (Text.lower d.name) (base ++ "_") = true := by
  unfold referenceFinding?
  cases Text.beforeEnd? (Text.lower c.name) "_id" with
  | none => simp
  | some base =>
    by_cases hb : base = ""
    · simp [hb]
    · cases hf : t.inForeignKey c.name with
      | true => simp
      | false =>
        dsimp only
        rw [if_neg (by simpa using hb), isSome_dependencyFinding?_iff, filter_ne_nil_iff]
        simp [hb]

/-- **A transitive dependency is found** by one of five rules: an entity with a
column that identifies it, a code with a label, three parts of an address, a
derived amount, or an identifier with columns of its own. -/
theorem tableFindings_ne_nil_iff {t : Table} :
    tableFindings t ≠ [] ↔
      entityFindings t ≠ [] ∨ (∃ code ∈ t.plainColumns, (labelFinding? t code).isSome = true) ∨
      addressFindings t ≠ [] ∨ derivedAmounts t ≠ [] ∨
      ∃ c ∈ t.plainColumns, (referenceFinding? t c).isSome = true := by
  simp only [tableFindings, append_ne_nil_iff, filterMap_ne_nil_iff, or_assoc]

end TransitiveDependency

end NormalForms
