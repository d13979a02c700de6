import NormalForms.Proofs.Check.Origin

/-!
# What the checks read of a foreign key

Resolving a schema writes into the foreign keys of a table what other tables
declare. `Table.withoutReferences` takes all of it back out, so that a table and
its resolved form become the same. The checks for the first and the third form
do not see the difference; the check for the second form sees it in its remedies
alone.
-/

namespace NormalForms

/-! ## Tables without references -/

def ForeignKey.withoutReferences (fk : ForeignKey) : ForeignKey := { fk with targetColumns := [] }

def Constraint.withoutReferences : Constraint → Constraint
  | foreignKey fk => foreignKey fk.withoutReferences
  | c => c

/-- The table as declared, but for the referenced columns of its foreign keys. -/
def Table.withoutReferences (t : Table) : Table :=
  { t with
    constraints := t.constraints.map Constraint.withoutReferences
    relationships := [] }

theorem Constraint.primaryKey?_withoutReferences (c : Constraint) :
    c.withoutReferences.primaryKey? = c.primaryKey? := by
  cases c <;> rfl

theorem Constraint.foreignKey?_withoutReferences (c : Constraint) :
    c.withoutReferences.foreignKey? = c.foreignKey?.map ForeignKey.withoutReferences := by
  cases c <;> rfl

namespace Table

variable (t : Table)

@[simp] theorem name_withoutReferences : t.withoutReferences.name = t.name := rfl

@[simp] theorem columns_withoutReferences : t.withoutReferences.columns = t.columns := rfl

@[simp] theorem primaryKey?_withoutReferences :
    t.withoutReferences.primaryKey? = t.primaryKey? := by
  have h : Constraint.primaryKey? ∘ Constraint.withoutReferences = Constraint.primaryKey? :=
    funext Constraint.primaryKey?_withoutReferences
  rw [primaryKey?, withoutReferences, List.findSome?_map, h, primaryKey?]

@[simp] theorem foreignKeys_withoutReferences :
    t.withoutReferences.foreignKeys = t.foreignKeys.map ForeignKey.withoutReferences := by
  rw [foreignKeys, withoutReferences, List.filterMap_map, foreignKeys, List.map_filterMap]
  congr 1
  funext c
  exact c.foreignKey?_withoutReferences

@[simp] theorem column?_withoutReferences : t.withoutReferences.column? = t.column? := rfl

@[simp] theorem keyNames_withoutReferences : t.withoutReferences.keyNames = t.keyNames := by
  simp [keyNames]

@[simp] theorem keyColumns_withoutReferences :
    t.withoutReferences.keyColumns = t.keyColumns := by
  simp [keyColumns]

@[simp] theorem inPrimaryKey_withoutReferences :
    t.withoutReferences.inPrimaryKey = t.inPrimaryKey := by
  funext column
  simp [inPrimaryKey]

@[simp] theorem plainColumns_withoutReferences :
    t.withoutReferences.plainColumns = t.plainColumns := by
  simp [plainColumns]

@[simp] theorem inForeignKey_withoutReferences :
    t.withoutReferences.inForeignKey = t.inForeignKey := by
  funext column
  simp only [inForeignKey, foreignKeys_withoutReferences, List.any_map]
  rfl

end Table

/-- Resolving adds references and nothing else. -/
theorem Schema.withoutReferences_resolveTable (s : Schema) (t : Table) :
    (s.resolveTable t).withoutReferences = t.withoutReferences := by
  have hkey : ∀ fk, (s.completeKey fk).withoutReferences = fk.withoutReferences := by
    intro fk
    unfold completeKey
    split <;> rfl
  have h : Constraint.withoutReferences ∘ s.complete = Constraint.withoutReferences := by
    funext c
    cases c with
    | foreignKey fk => exact congrArg Constraint.foreignKey (hkey fk)
    | _ => rfl
  simp only [Table.withoutReferences, resolveTable, List.map_map, h]

/-! ## Remedies that do not refer -/

namespace Remedy

variable (t : Table)

@[simp] theorem parentKey_withoutReferences : parentKey t.withoutReferences = parentKey t := by
  simp [parentKey]

@[simp] theorem linkEntry_withoutReferences : linkEntry t.withoutReferences = linkEntry t := by
  simp [linkEntry, linkName]

@[simp] theorem linkKey_withoutReferences : linkKey t.withoutReferences = linkKey t := by
  simp [linkKey, linkName]

@[simp] theorem splitValues_withoutReferences :
    splitValues t.withoutReferences = splitValues t := by
  funext c elementType
  simp [splitValues, linkName, dropSteps]

@[simp] theorem splitGroup_withoutReferences :
    splitGroup t.withoutReferences = splitGroup t := by
  funext base columns
  simp only [splitGroup, linkName, dropSteps, Table.name_withoutReferences,
    linkEntry_withoutReferences, linkKey_withoutReferences, parentKey_withoutReferences]

@[simp] theorem splitAddress_withoutReferences :
    splitAddress t.withoutReferences = splitAddress t := by
  funext columns
  simp [splitAddress, linkName, dropSteps]

end Remedy

/-! ## The first form -/

namespace Atomicity

variable (t : Table)

theorem compositeValue?_withoutReferences :
    compositeValue? t.withoutReferences = compositeValue? t := by
  funext c
  simp [compositeValue?, multiValued, structuredData]

theorem groupBases_withoutReferences : groupBases t.withoutReferences = groupBases t := by
  have h : groupBase? t.withoutReferences = groupBase? t := by
    funext c
    simp [groupBase?]
  simp [groupBases, h]

theorem repeatingGroup_withoutReferences :
    repeatingGroup t.withoutReferences = repeatingGroup t := by
  funext base
  simp [repeatingGroup, groupMembers]

theorem isGroup_withoutReferences : isGroup t.withoutReferences = isGroup t := by
  funext base
  rw [isGroup, Table.inPrimaryKey_withoutReferences]
  rfl

@[simp] theorem tableFindings_withoutReferences :
    tableFindings t.withoutReferences = tableFindings t := by
  simp only [tableFindings, missingKey, compositeValues, repeatingGroups,
    compositeValue?_withoutReferences, groupBases_withoutReferences,
    repeatingGroup_withoutReferences, isGroup_withoutReferences,
    Table.primaryKey?_withoutReferences, Table.name_withoutReferences,
    Table.columns_withoutReferences]
  rfl

end Atomicity

/-! ## The third form -/

namespace TransitiveDependency

variable (t : Table)

theorem dependencyFinding_withoutReferences :
    dependencyFinding t.withoutReferences = dependencyFinding t := rfl

theorem dependencyFinding?_withoutReferences :
    dependencyFinding? t.withoutReferences = dependencyFinding? t := rfl

theorem entityMembers_withoutReferences :
    entityMembers t.withoutReferences = entityMembers t := by
  funext entity
  simp [entityMembers]

theorem entityFindings_withoutReferences :
    entityFindings t.withoutReferences = entityFindings t := by
  have h : entityFinding? t.withoutReferences = entityFinding? t := by
    funext entity
    simp only [entityFinding?, entityMembers_withoutReferences,
      dependencyFinding_withoutReferences]
  simp [entityFindings, h]

theorem labelFinding?_withoutReferences :
    labelFinding? t.withoutReferences = labelFinding? t := by
  funext code
  simp only [labelFinding?, Table.plainColumns_withoutReferences,
    dependencyFinding?_withoutReferences]

theorem addressFindings_withoutReferences :
    addressFindings t.withoutReferences = addressFindings t := by
  have h : addressColumns t.withoutReferences = addressColumns t := by simp [addressColumns]
  simp only [addressFindings, inlineAddress, h, dependencyFinding_withoutReferences,
    Remedy.splitAddress_withoutReferences, Table.name_withoutReferences]

theorem derivedAmounts_withoutReferences :
    derivedAmounts t.withoutReferences = derivedAmounts t := by
  have h : monetaryColumns t.withoutReferences = monetaryColumns t := by simp [monetaryColumns]
  have hd : derivedColumns t.withoutReferences = derivedColumns t := by simp [derivedColumns, h]
  rw [derivedAmounts, h, hd]
  rfl

theorem referenceFinding?_withoutReferences :
    referenceFinding? t.withoutReferences = referenceFinding? t := by
  funext c
  simp only [referenceFinding?, Table.plainColumns_withoutReferences,
    Table.inForeignKey_withoutReferences, dependencyFinding?_withoutReferences]

@[simp] theorem tableFindings_withoutReferences :
    tableFindings t.withoutReferences = tableFindings t := by
  simp only [tableFindings, entityFindings_withoutReferences, labelFinding?_withoutReferences,
    addressFindings_withoutReferences, derivedAmounts_withoutReferences,
    referenceFinding?_withoutReferences, Table.plainColumns_withoutReferences]

end TransitiveDependency

/-! ## The second form -/

/-- What a finding says, apart from its remedy. -/
def Finding.withoutRemedy (f : Finding) : Finding := { f with remedy? := none }

namespace PartialDependency

open Finding

variable (t : Table)

theorem foreignKeyDependents_withoutReferences (fk : ForeignKey) :
    foreignKeyDependents t.withoutReferences fk.withoutReferences =
      foreignKeyDependents t fk := by
  rw [foreignKeyDependents, Table.plainColumns_withoutReferences,
    Table.inForeignKey_withoutReferences]
  rfl

/-- The remedy repeats the referenced columns, the rest of the finding does not. -/
theorem foreignKeyFinding?_withoutReferences (scope : String) (fk : ForeignKey) :
    (foreignKeyFinding? t.withoutReferences scope fk.withoutReferences).map withoutRemedy =
      (foreignKeyFinding? t scope fk).map withoutRemedy := by
  unfold foreignKeyFinding? foreignKeyFinding
  rw [foreignKeyDependents_withoutReferences]
  split <;> rfl

/-- The findings about foreign keys of a list of them, remedies apart. -/
theorem foreignKeyFindings_withoutReferences (scope : String) (fks : List ForeignKey) :
    ((fks.map ForeignKey.withoutReferences).filterMap
        (foreignKeyFinding? t.withoutReferences scope)).map withoutRemedy =
      (fks.filterMap (foreignKeyFinding? t scope)).map withoutRemedy := by
  rw [List.filterMap_map, List.map_filterMap, List.map_filterMap]
  congr 1
  funext fk
  exact foreignKeyFinding?_withoutReferences t scope fk

theorem keyForeignKeys_withoutReferences :
    keyForeignKeys t.withoutReferences =
      (keyForeignKeys t).map ForeignKey.withoutReferences := by
  rw [keyForeignKeys, Table.foreignKeys_withoutReferences, Table.inPrimaryKey_withoutReferences,
    List.filter_map]
  rfl

theorem keyColumnFinding_withoutReferences :
    keyColumnFinding t.withoutReferences = keyColumnFinding t := rfl

theorem keyColumnFinding?_withoutReferences :
    keyColumnFinding? t.withoutReferences = keyColumnFinding? t := by
  have h : mentioning t.withoutReferences = mentioning t := by
    funext entity
    simp [mentioning]
  funext key
  simp only [keyColumnFinding?, h, keyColumnFinding_withoutReferences]

theorem memberFinding?_withoutReferences :
    memberFinding? t.withoutReferences = memberFinding? t := by
  funext c
  simp only [memberFinding?, Table.keyColumns_withoutReferences,
    keyColumnFinding_withoutReferences]

theorem compositeFindings_withoutReferences :
    (compositeFindings t.withoutReferences).map withoutRemedy =
      (compositeFindings t).map withoutRemedy := by
  simp only [compositeFindings, List.map_append, keyForeignKeys_withoutReferences,
    foreignKeyFindings_withoutReferences, keyColumnFinding?_withoutReferences,
    memberFinding?_withoutReferences, Table.keyColumns_withoutReferences,
    Table.plainColumns_withoutReferences]

theorem tableFindings_withoutReferences :
    (tableFindings t.withoutReferences).map withoutRemedy =
      (tableFindings t).map withoutRemedy := by
  have h : isComposite t.withoutReferences = isComposite t := by
    rw [isComposite, Table.keyColumns_withoutReferences, isComposite]
  unfold tableFindings
  rw [h]
  split
  · exact compositeFindings_withoutReferences t
  · rw [Table.foreignKeys_withoutReferences]
    exact foreignKeyFindings_withoutReferences t _ _

end PartialDependency

end NormalForms
