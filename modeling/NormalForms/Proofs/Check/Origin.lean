import NormalForms.Check.TransitiveDependency

/-!
# Where findings come from

Each check goes through a table by several rules. The lemmas here say once what
a finding of a check can be: which finding it is, and about which columns of the
table. Everything that holds of all findings of a check is read off them.
-/

namespace NormalForms

theorem Table.inPrimaryKey_of_mem_plainColumns {t : Table} {c : Column}
    (hc : c ∈ t.plainColumns) : t.inPrimaryKey c.name = false := by
  simpa using (List.mem_filter.1 hc).2

namespace Atomicity

theorem of_mem_missingKey {t : Table} {f : Finding} (h : f ∈ missingKey t) :
    f.table = t.name ∧ f.columnText? = none ∧ f.kind = .missingPrimaryKey ∧
      f.remedy? = some (Remedy.surrogateKey t).render := by
  unfold missingKey at h
  split at h
  · cases h
  · cases List.mem_singleton.1 h
    exact ⟨rfl, rfl, rfl, rfl⟩

theorem mem_compositeValues {t : Table} {f : Finding} (h : f ∈ compositeValues t) :
    ∃ c ∈ t.columns, f = multiValued t c ∨ f = structuredData t c := by
  obtain ⟨c, hc, h⟩ := List.mem_filterMap.1 h
  refine ⟨c, hc, ?_⟩
  unfold compositeValue? at h
  split at h
  · cases h; exact .inl rfl
  · split at h
    · cases h; exact .inr rfl
    · cases h

/-- **Findings against the first form**: a missing key, a column of several
values, a column that may hold structure, or a repeating group. -/
theorem mem_tableFindings {t : Table} {f : Finding} (h : f ∈ tableFindings t) :
    f ∈ missingKey t ∨ (∃ c ∈ t.columns, f = multiValued t c) ∨
      (∃ c ∈ t.columns, f = structuredData t c) ∨
        ∃ base, isGroup t base = true ∧ f = repeatingGroup t base := by
  simp only [tableFindings, List.mem_append] at h
  rcases h with (h | h) | h
  · exact .inl h
  · obtain ⟨c, hc, rfl | rfl⟩ := mem_compositeValues h
    · exact .inr (.inl ⟨c, hc, rfl⟩)
    · exact .inr (.inr (.inl ⟨c, hc, rfl⟩))
  · obtain ⟨base, hb, rfl⟩ := List.mem_map.1 h
    exact .inr (.inr (.inr ⟨base, (List.mem_filter.1 hb).2, rfl⟩))

theorem form_of_mem_findings {s : Schema} {f : Finding} (h : f ∈ findings s) :
    f.form = .first := by
  obtain ⟨t, -, h⟩ := List.mem_flatMap.1 h
  exact form_of_mem_tableFindings h

theorem isBlocked_eq_true_iff {s : Schema} :
    isBlocked s = true ↔ ∃ f ∈ findings s, f.isBlocking = true := by
  simp [isBlocked]

theorem isBlocked_eq_false_iff {s : Schema} :
    isBlocked s = false ↔ ∀ f ∈ findings s, f.isBlocking = false := by
  simp [isBlocked]

end Atomicity

namespace PartialDependency

theorem foreignKeyFinding?_eq_some {t : Table} {scope : String} {fk : ForeignKey} {f : Finding}
    (h : foreignKeyFinding? t scope fk = some f) :
    foreignKeyDependents t fk ≠ [] ∧ f = foreignKeyFinding t scope fk := by
  unfold foreignKeyFinding? at h
  split at h
  · cases h
  · rename_i hne
    cases h
    exact ⟨fun he => hne (List.isEmpty_iff.2 he), rfl⟩

theorem keyColumnFinding?_eq_some {t : Table} {key : Column} {f : Finding}
    (h : keyColumnFinding? t key = some f) :
    ∃ base, mentioning t base ≠ [] ∧
      f = keyColumnFinding t key (mentioning t base) "these columns may depend on" base := by
  unfold keyColumnFinding? at h
  split at h
  · cases h
  · split at h
    · cases h
    · rename_i hne
      cases h
      rw [Bool.or_eq_true, not_or] at hne
      exact ⟨_, fun he => hne.2 (List.isEmpty_iff.2 he), rfl⟩

/-- **Findings against the second form** are about a foreign key or about a
column of the primary key, and about columns outside the key. -/
theorem mem_tableFindings {t : Table} {f : Finding} (h : f ∈ tableFindings t) :
    (∃ scope, ∃ fk ∈ t.foreignKeys,
        foreignKeyDependents t fk ≠ [] ∧ f = foreignKeyFinding t scope fk) ∨
      ∃ key ∈ t.keyColumns, ∃ dependents subject base,
        dependents ≠ [] ∧ dependents.Sublist t.plainColumns ∧
          f = keyColumnFinding t key dependents subject base := by
  unfold tableFindings at h
  split at h
  · simp only [compositeFindings, List.mem_append, List.mem_filterMap] at h
    rcases h with (⟨fk, hfk, h⟩ | ⟨key, hkey, h⟩) | ⟨c, hc, h⟩
    · exact .inl ⟨_, fk, (List.mem_filter.1 hfk).1, foreignKeyFinding?_eq_some h⟩
    · obtain ⟨base, hne, rfl⟩ := keyColumnFinding?_eq_some h
      exact .inr ⟨key, hkey, _, _, _, hne, List.filter_sublist, rfl⟩
    · obtain ⟨key, hkey, rfl⟩ := Option.map_eq_some_iff.1 h
      exact .inr ⟨key, List.mem_of_find?_eq_some hkey, _, _, _, List.cons_ne_nil _ _,
        List.singleton_sublist.2 hc, rfl⟩
  · obtain ⟨fk, hfk, h⟩ := List.mem_filterMap.1 h
    exact .inl ⟨_, fk, hfk, foreignKeyFinding?_eq_some h⟩

end PartialDependency

namespace TransitiveDependency

theorem dependencyFinding?_eq_some {t : Table} {c : Column} {cs : List Column} {f : Finding}
    (h : dependencyFinding? t c cs = some f) : cs ≠ [] ∧ f = dependencyFinding t c cs := by
  unfold dependencyFinding? at h
  split at h
  · cases h
  · rename_i hne
    cases h
    exact ⟨fun he => hne (List.isEmpty_iff.2 he), rfl⟩

/-- `f` is about columns outside the key that depend on another such column: on
one of some members the others, and there are others or two members. -/
def IsDependency (t : Table) (f : Finding) : Prop :=
  ∃ c ∈ t.plainColumns, ∃ members, members.Sublist t.plainColumns ∧
    (2 ≤ members.length ∨ others c members ≠ []) ∧
      f = dependencyFinding t c (others c members)

theorem others_filter (c : Column) (p : Column → Bool) (cs : List Column) :
    (others c cs).filter p = others c (cs.filter p) := by
  rw [others, others, List.filter_filter, List.filter_filter]
  exact List.filter_congr fun d _ => Bool.and_comm _ _

/-- The others of a list are what depends on a column, if there are any. -/
theorem isDependency_of_dependencyFinding? {t : Table} {c : Column} {p : Column → Bool}
    {f : Finding} (hc : c ∈ t.plainColumns)
    (h : dependencyFinding? t c ((others c t.plainColumns).filter p) = some f) :
    IsDependency t f := by
  rw [others_filter] at h
  obtain ⟨hne, rfl⟩ := dependencyFinding?_eq_some h
  exact ⟨c, hc, _, List.filter_sublist, .inr hne, rfl⟩

theorem isDependency_of_mem_entityFindings {t : Table} {f : Finding}
    (h : f ∈ entityFindings t) : IsDependency t f := by
  obtain ⟨entity, -, h⟩ := List.mem_filterMap.1 h
  unfold entityFinding? at h
  split at h
  · cases h
  · rename_i hlen
    obtain ⟨c, hc, rfl⟩ := Option.map_eq_some_iff.1 h
    have hm : (entityMembers t entity).Sublist t.plainColumns := List.filter_sublist
    exact ⟨c, hm.subset (List.mem_of_find?_eq_some hc), _, hm, .inl (Nat.not_lt.1 hlen), rfl⟩

theorem isDependency_of_labelFinding? {t : Table} {c : Column} {f : Finding}
    (hc : c ∈ t.plainColumns) (h : labelFinding? t c = some f) : IsDependency t f := by
  unfold labelFinding? at h
  split at h
  · cases h
  · split at h
    · cases h
    · exact isDependency_of_dependencyFinding? hc h

theorem isDependency_of_referenceFinding? {t : Table} {c : Column} {f : Finding}
    (hc : c ∈ t.plainColumns) (h : referenceFinding? t c = some f) : IsDependency t f := by
  unfold referenceFinding? at h
  split at h
  · cases h
  · split at h
    · cases h
    · exact isDependency_of_dependencyFinding? hc h

/-- There are parts of an address, none of which identifies something. -/
structure HasAddress (t : Table) : Prop where
  ne_nil : addressColumns t ≠ []
  no_reference : ∀ c ∈ addressColumns t, Text.endsWith (Text.lower c.name) "_id" = false

theorem mem_addressFindings {t : Table} {f : Finding} (h : f ∈ addressFindings t) :
    IsDependency t f ∨ HasAddress t ∧ f = inlineAddress t := by
  unfold addressFindings at h
  split at h
  · cases h
  · rename_i hlen
    split at h
    · rename_i c hc
      have hm : (addressColumns t).Sublist t.plainColumns := List.filter_sublist
      have htwo : 2 ≤ (addressColumns t).length := Nat.le_of_lt (Nat.not_lt.1 hlen)
      cases List.mem_singleton.1 h
      exact .inl ⟨c, hm.subset (List.mem_of_find?_eq_some hc), _, hm, .inl htwo, rfl⟩
    · rename_i hnone
      refine .inr ⟨⟨fun he => hlen ?_, fun c hc => ?_⟩, List.mem_singleton.1 h⟩
      · rw [he]
        exact Nat.zero_lt_succ 2
      · simpa using List.find?_eq_none.1 hnone c hc

theorem of_mem_derivedAmounts {t : Table} {f : Finding} (h : f ∈ derivedAmounts t) :
    f.form = .third ∧ f.kind = .calculatedField ∧ f.remedy? = none := by
  unfold derivedAmounts at h
  split at h
  · cases h
  · cases List.mem_singleton.1 h
    exact ⟨rfl, rfl, rfl⟩

/-- What derived amounts are named. -/
theorem columnText?_of_mem_derivedAmounts {t : Table} {f : Finding} (h : f ∈ derivedAmounts t) :
    derivedColumns t ≠ [] ∧ f.table = t.name ∧
      f.columnText? = some (String.intercalate ", " (Remedy.names (derivedColumns t))) := by
  unfold derivedAmounts at h
  split at h
  · cases h
  · rename_i hne
    rw [Bool.or_eq_true, not_or] at hne
    cases List.mem_singleton.1 h
    exact ⟨fun he => hne.2 (List.isEmpty_iff.2 he), rfl, rfl⟩

/-- **Findings against the third form** are dependencies on a column outside
the key, the parts of an address, or derived amounts. -/
theorem mem_tableFindings {t : Table} {f : Finding} (h : f ∈ tableFindings t) :
    IsDependency t f ∨ (HasAddress t ∧ f = inlineAddress t) ∨ f ∈ derivedAmounts t := by
  simp only [tableFindings, List.mem_append, List.mem_filterMap] at h
  rcases h with (((h | ⟨c, hc, h⟩) | h) | h) | ⟨c, hc, h⟩
  · exact .inl (isDependency_of_mem_entityFindings h)
  · exact .inl (isDependency_of_labelFinding? hc h)
  · exact (mem_addressFindings h).imp_right .inl
  · exact .inr (.inr h)
  · exact .inl (isDependency_of_referenceFinding? hc h)

theorem form_of_mem_tableFindings {t : Table} {f : Finding} (h : f ∈ tableFindings t) :
    f.form = .third := by
  rcases mem_tableFindings h with ⟨c, -, members, -, -, rfl⟩ | ⟨-, rfl⟩ | h
  · rfl
  · rfl
  · exact (of_mem_derivedAmounts h).1

end TransitiveDependency

/-! ## The tables that findings are raised of -/

/-- One of the three checks finds it in the table. -/
def Table.Raises (t : Table) (f : Finding) : Prop :=
  f ∈ Atomicity.tableFindings t ∨ f ∈ PartialDependency.tableFindings t ∨
    f ∈ TransitiveDependency.tableFindings t

namespace Schema

variable {s : Schema} {f : Finding}

theorem exists_raises_of_mem_atomicity (hf : f ∈ Atomicity.findings s) :
    ∃ t ∈ s.tables, t.Raises f := by
  obtain ⟨t, ht, hf⟩ := List.mem_flatMap.1 hf
  exact ⟨t, ht, .inl hf⟩

theorem exists_raises_of_mem_partial (hf : f ∈ PartialDependency.findings s) :
    ∃ t ∈ s.tables, t.Raises f := by
  unfold PartialDependency.findings at hf
  split at hf
  · exact exists_raises_of_mem_atomicity hf
  · obtain ⟨t, ht, hf⟩ := List.mem_flatMap.1 hf
    exact ⟨t, ht, .inr (.inl hf)⟩

theorem exists_raises_of_mem_transitive (hf : f ∈ TransitiveDependency.findings s) :
    ∃ t ∈ s.tables, t.Raises f := by
  unfold TransitiveDependency.findings at hf
  split at hf
  · obtain ⟨t, ht, hf⟩ := List.mem_flatMap.1 hf
    exact ⟨t, ht, .inr (.inr hf)⟩
  · exact exists_raises_of_mem_partial hf

end Schema

end NormalForms
