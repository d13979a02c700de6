import NormalForms.Proofs.Check.Origin
import NormalForms.Proofs.Finding.Columns
import NormalForms.Proofs.Schema.Case

/-!
# Findings of tables in small letters

Each check finds the same of a table as of the folded one, finding by finding: of
the same form and kind, and about the same table and columns but for the case of
their names. This is what `Finding.folded` keeps of a finding, and all that
decides whether it blocks. Every rule of a check selects columns or keys by tests
that letter case does not change, so that it selects the folded ones of the folded
table.
-/

namespace NormalForms

open Text Identifier Naming

/-- The form and the kind of a finding, and its table and columns in small
letters. -/
def Finding.folded (f : Finding) : Finding where
  form := f.form
  kind := f.kind
  table := lower f.table
  columnText? := f.columnText?.map lower
  description := ""

/-! ## Rules that select from a list -/

/-- What is found of the elements of a list is found of those they are mapped to. -/
theorem map_folded_filterMap {α β : Type} {f : α → β} {F : α → Option Finding}
    {G : β → Option Finding}
    (h : ∀ a, (G (f a)).map Finding.folded = (F a).map Finding.folded) (l : List α) :
    ((l.map f).filterMap G).map Finding.folded = (l.filterMap F).map Finding.folded := by
  rw [List.filterMap_map, List.map_filterMap, List.map_filterMap]
  exact List.filterMap_congr fun a _ => h a

theorem Remedy.names_folded (cs : List Column) :
    names (cs.map Column.folded) = (names cs).map lower := by
  rw [names, names, List.map_map, List.map_map]
  rfl

/-- The names of folded columns, written after one another. -/
theorem lower_intercalate_names (cs : List Column) :
    lower (String.intercalate ", " (Remedy.names (cs.map Column.folded))) =
      lower (String.intercalate ", " (Remedy.names cs)) := by
  have hlower : lower ∘ lower = lower := funext lower_lower
  rw [Remedy.names_folded, lower_intercalate, lower_intercalate, List.map_map, hlower]

/-- Two findings that name the folded table and the folded columns agree. -/
theorem Finding.folded_eq {f f' : Finding} {t : Table} {cs : List Column}
    (hform : f'.form = f.form) (hkind : f'.kind = f.kind) (htable : f.table = t.name)
    (htable' : f'.table = t.folded.name)
    (htext : f.columnText? = some (String.intercalate ", " (Remedy.names cs)))
    (htext' : f'.columnText? =
      some (String.intercalate ", " (Remedy.names (cs.map Column.folded)))) :
    f'.folded = f.folded := by
  rw [folded, folded, hform, hkind, htable, htable', htext, htext', Option.map_some,
    Option.map_some, lower_intercalate_names, Table.name_folded, lower_lower]

/-! ## The first form -/

namespace Atomicity

variable (t : Table)

theorem map_folded_missingKey :
    (missingKey t.folded).map Finding.folded = (missingKey t).map Finding.folded := by
  rw [missingKey, missingKey, Table.primaryKey?_folded, Option.isSome_map]
  split
  · rfl
  · simp [Finding.folded]

theorem mayHoldStructure_folded (c : Column) : mayHoldStructure c.folded = mayHoldStructure c := by
  simp only [mayHoldStructure, Column.folded, upper_lower, lower_lower]

theorem map_folded_compositeValue? (c : Column) :
    (compositeValue? t.folded c.folded).map Finding.folded =
      (compositeValue? t c).map Finding.folded := by
  have hmulti : isMultiValued c.folded.dataType = isMultiValued c.dataType :=
    isMultiValued_lower c.dataType
  rw [compositeValue?, compositeValue?, hmulti, mayHoldStructure_folded]
  split_ifs
  · simp [Finding.folded, multiValued, Column.folded]
  · simp [Finding.folded, structuredData, Column.folded]
  · rfl

theorem groupBase?_folded (c : Column) : groupBase? t.folded c.folded = groupBase? t c := by
  have hnumber : (withoutNumber (lower c.name) == lower c.name) =
      (withoutNumber c.name == c.name) := by
    rw [Bool.eq_iff_iff, beq_iff_eq, beq_iff_eq, withoutNumber_lower_eq_iff]
  have hname : c.folded.name = lower c.name := rfl
  rw [groupBase?, groupBase?, hname, hnumber, byteLength_lower, Table.inPrimaryKey_folded,
    Table.inPrimaryKey_lower, withoutNumber_lower, byteLength_lower, lower_lower]

theorem groupBases_folded : groupBases t.folded = groupBases t := by
  rw [groupBases, groupBases, Table.columns_folded, List.filterMap_map]
  exact congrArg List.eraseDups (List.filterMap_congr fun c _ => groupBase?_folded t c)

theorem groupMembers_folded (base : String) :
    groupMembers t.folded base = (groupMembers t base).map Column.folded :=
  filter_map_of_comp (fun c => isNumbered_lower c.name base) t.columns

theorem isGroup_folded (base : String) : isGroup t.folded base = isGroup t base := by
  have hplain : ((fun c : Column => !t.inPrimaryKey c.name) ∘ Column.folded) =
      fun c => !t.inPrimaryKey c.name := by
    funext c
    rw [Function.comp_apply, Column.folded, Table.inPrimaryKey_lower]
  rw [isGroup, isGroup, groupMembers_folded, List.length_map, List.any_map,
    Table.inPrimaryKey_folded, hplain]

theorem folded_repeatingGroup (base : String) :
    (repeatingGroup t.folded base).folded = (repeatingGroup t base).folded :=
  Finding.folded_eq rfl rfl rfl rfl rfl
    (congrArg (fun cs => some (String.intercalate ", " (Remedy.names cs)))
      (groupMembers_folded t base))

theorem map_folded_repeatingGroups :
    (repeatingGroups t.folded).map Finding.folded = (repeatingGroups t).map Finding.folded := by
  have hgroup : isGroup t.folded = isGroup t := funext (isGroup_folded t)
  rw [repeatingGroups, repeatingGroups, groupBases_folded, hgroup, List.map_map, List.map_map]
  exact List.map_congr_left fun base _ => folded_repeatingGroup t base

theorem map_folded_tableFindings :
    (tableFindings t.folded).map Finding.folded = (tableFindings t).map Finding.folded := by
  have hvalues : (compositeValues t.folded).map Finding.folded =
      (compositeValues t).map Finding.folded :=
    map_folded_filterMap (map_folded_compositeValue? t) t.columns
  simp only [tableFindings, List.map_append, map_folded_missingKey, hvalues,
    map_folded_repeatingGroups]

end Atomicity

/-! ## The second form -/

namespace PartialDependency

variable (t : Table)

theorem pointsAt_folded (fk : ForeignKey) (name : String) :
    pointsAt fk.folded (lower name) = pointsAt fk name := by
  obtain ⟨_, columns, target, _⟩ := fk
  simp only [pointsAt, ForeignKey.folded, lower_lower, key_lower]
  rcases columns with _ | ⟨c, _ | ⟨d, cs⟩⟩
  · rfl
  · simp only [List.map_cons, List.map_nil, withoutId_lower]
  · rfl

theorem foreignKeyDependents_folded (fk : ForeignKey) :
    foreignKeyDependents t.folded fk.folded =
      (foreignKeyDependents t fk).map Column.folded := by
  rw [foreignKeyDependents, Table.plainColumns_folded]
  refine filter_map_of_comp (fun c => ?_) t.plainColumns
  rw [Table.inForeignKey_folded, Column.folded, Table.inForeignKey_lower, pointsAt_folded]

theorem map_folded_foreignKeyFinding? (scope : String) (fk : ForeignKey) :
    (foreignKeyFinding? t.folded scope fk.folded).map Finding.folded =
      (foreignKeyFinding? t scope fk).map Finding.folded := by
  have hfolded : (foreignKeyFinding t.folded scope fk.folded).folded =
      (foreignKeyFinding t scope fk).folded :=
    Finding.folded_eq rfl rfl rfl rfl rfl
      (congrArg (fun cs => some (String.intercalate ", " (Remedy.names cs)))
        (foreignKeyDependents_folded t fk))
  rw [foreignKeyFinding?, foreignKeyFinding?, foreignKeyDependents_folded, List.isEmpty_map]
  split
  · rfl
  · rw [Option.map_some, Option.map_some, hfolded]

theorem keyForeignKeys_folded :
    keyForeignKeys t.folded = (keyForeignKeys t).map ForeignKey.folded := by
  rw [keyForeignKeys, Table.foreignKeys_folded, Table.inPrimaryKey_folded]
  refine filter_map_of_comp (fun fk => ?_) t.foreignKeys
  rw [ForeignKey.folded, List.any_map]
  exact congrArg (List.any fk.columns) (funext t.inPrimaryKey_lower)

theorem mentioning_folded (entity : String) :
    mentioning t.folded entity = (mentioning t entity).map Column.folded := by
  rw [mentioning, Table.plainColumns_folded]
  refine filter_map_of_comp (fun c => ?_) t.plainColumns
  rw [Column.folded, lower_lower]

theorem folded_keyColumnFinding (key : Column) (cs : List Column) (subject base : String) :
    (keyColumnFinding t.folded key.folded (cs.map Column.folded) subject base).folded =
      (keyColumnFinding t key cs subject base).folded :=
  Finding.folded_eq rfl rfl rfl rfl rfl rfl

theorem map_folded_keyColumnFinding? (key : Column) :
    (keyColumnFinding? t.folded key.folded).map Finding.folded =
      (keyColumnFinding? t key).map Finding.folded := by
  have hname : lower key.folded.name = lower key.name := lower_lower key.name
  rw [keyColumnFinding?, keyColumnFinding?, hname]
  cases beforeEnd? (lower key.name) "_id" with
  | none => rfl
  | some base =>
    simp only [mentioning_folded, List.isEmpty_map]
    split
    · rfl
    · rw [Option.map_some, Option.map_some, folded_keyColumnFinding]

theorem belongsTo_folded (key c : Column) :
    belongsTo key.folded c.folded.name = belongsTo key c.name := by
  simp only [belongsTo, Column.folded, withoutId_lower, lower_lower]

theorem map_folded_memberFinding? (c : Column) :
    (memberFinding? t.folded c.folded).map Finding.folded =
      (memberFinding? t c).map Finding.folded := by
  have hfind : (t.folded.keyColumns.find? fun key => belongsTo key c.folded.name) =
      (t.keyColumns.find? fun key => belongsTo key c.name).map Column.folded := by
    rw [Table.keyColumns_folded]
    exact find?_map_of_comp (fun key => belongsTo_folded key c) t.keyColumns
  rw [memberFinding?, memberFinding?, hfind, Option.map_map, Option.map_map, Option.map_map]
  refine congrArg (Option.map · _) (funext fun key => ?_)
  have hbase : withoutId key.folded.name = withoutId key.name := withoutId_lower key.name
  simp only [Function.comp_apply, hbase]
  exact folded_keyColumnFinding t key [c] _ _

theorem map_folded_compositeFindings :
    (compositeFindings t.folded).map Finding.folded =
      (compositeFindings t).map Finding.folded := by
  simp only [compositeFindings, List.map_append, keyForeignKeys_folded, Table.keyColumns_folded,
    Table.plainColumns_folded, map_folded_filterMap (map_folded_foreignKeyFinding? t _),
    map_folded_filterMap (map_folded_keyColumnFinding? t),
    map_folded_filterMap (map_folded_memberFinding? t)]

theorem map_folded_tableFindings :
    (tableFindings t.folded).map Finding.folded = (tableFindings t).map Finding.folded := by
  have hcomposite : isComposite t.folded = isComposite t := by
    rw [isComposite, isComposite, Table.keyColumns_folded, List.length_map]
  rw [tableFindings, tableFindings, hcomposite]
  split
  · exact map_folded_compositeFindings t
  · rw [Table.foreignKeys_folded]
    exact map_folded_filterMap (map_folded_foreignKeyFinding? t _) t.foreignKeys

end PartialDependency

/-! ## The third form -/

namespace TransitiveDependency

variable (t : Table)

theorem folded_dependencyFinding (c : Column) (cs : List Column) :
    (dependencyFinding t.folded c.folded (cs.map Column.folded)).folded =
      (dependencyFinding t c cs).folded :=
  Finding.folded_eq rfl rfl rfl rfl rfl rfl

theorem map_folded_dependencyFinding? (c : Column) (cs : List Column) :
    (dependencyFinding? t.folded c.folded (cs.map Column.folded)).map Finding.folded =
      (dependencyFinding? t c cs).map Finding.folded := by
  rw [dependencyFinding?, dependencyFinding?, List.isEmpty_map]
  split
  · rfl
  · rw [Option.map_some, Option.map_some, folded_dependencyFinding]

theorem others_folded (c : Column) (cs : List Column) :
    others c.folded (cs.map Column.folded) = (others c cs).map Column.folded := by
  refine filter_map_of_comp (fun d => ?_) cs
  rw [Column.hasName, Column.folded, Column.folded, same_lower_left, same_lower_right,
    Column.hasName]

theorem groupEntity?_folded (c : Column) : groupEntity? c.folded = groupEntity? c := by
  rw [groupEntity?, Column.folded, entity?_lower, groupEntity?]

theorem entityMembers_folded (entity : String) :
    entityMembers t.folded entity = (entityMembers t entity).map Column.folded := by
  rw [entityMembers, Table.plainColumns_folded]
  refine filter_map_of_comp (fun c => ?_) t.plainColumns
  rw [groupEntity?_folded]

theorem map_folded_entityFinding? (entity : String) :
    (entityFinding? t.folded entity).map Finding.folded =
      (entityFinding? t entity).map Finding.folded := by
  have hfind : ((entityMembers t entity).map Column.folded).find? (fun c => identifies c.name) =
      ((entityMembers t entity).find? fun c => identifies c.name).map Column.folded := by
    refine find?_map_of_comp (fun c => ?_) (entityMembers t entity)
    exact identifies_lower c.name
  rw [entityFinding?, entityFinding?, entityMembers_folded, List.length_map]
  split
  · rfl
  · rw [hfind, Option.map_map, Option.map_map, Option.map_map]
    refine congrArg (Option.map · _) (funext fun c => ?_)
    simp only [Function.comp_apply, others_folded]
    exact folded_dependencyFinding t c _

theorem map_folded_entityFindings :
    (entityFindings t.folded).map Finding.folded = (entityFindings t).map Finding.folded := by
  have hentities : t.folded.plainColumns.filterMap groupEntity? =
      t.plainColumns.filterMap groupEntity? := by
    rw [Table.plainColumns_folded, List.filterMap_map]
    exact List.filterMap_congr fun c _ => groupEntity?_folded c
  have hfind := map_folded_filterMap (f := id) (map_folded_entityFinding? t)
    (t.plainColumns.filterMap groupEntity?).eraseDups
  rw [List.map_id] at hfind
  rw [entityFindings, entityFindings, hentities, hfind]

/-- What depends on a column, of those outside the key that fit. -/
theorem map_folded_dependents (c : Column) {p : Column → Bool} (h : ∀ d, p d.folded = p d) :
    (dependencyFinding? t.folded c.folded
        ((others c.folded t.folded.plainColumns).filter p)).map Finding.folded =
      (dependencyFinding? t c ((others c t.plainColumns).filter p)).map Finding.folded := by
  rw [Table.plainColumns_folded, others_folded, filter_map_of_comp h,
    map_folded_dependencyFinding?]

theorem map_folded_labelFinding? (c : Column) :
    (labelFinding? t.folded c.folded).map Finding.folded =
      (labelFinding? t c).map Finding.folded := by
  have hname : identified? c.folded.name = identified? c.name := identified?_lower c.name
  rw [labelFinding?, labelFinding?, hname]
  cases identified? c.name with
  | none => rfl
  | some base =>
    dsimp only
    split
    · rfl
    · refine map_folded_dependents t c fun d => ?_
      rw [Column.folded, lower_lower, isLabel_lower]

theorem map_folded_referenceFinding? (c : Column) :
    (referenceFinding? t.folded c.folded).map Finding.folded =
      (referenceFinding? t c).map Finding.folded := by
  have hname : lower c.folded.name = lower c.name := lower_lower c.name
  have hdeclared : t.folded.inForeignKey c.folded.name = t.inForeignKey c.name := by
    rw [Table.inForeignKey_folded, Column.folded, Table.inForeignKey_lower]
  rw [referenceFinding?, referenceFinding?, hname, hdeclared]
  cases beforeEnd? (lower c.name) "_id" with
  | none => rfl
  | some base =>
    dsimp only
    split
    · rfl
    · refine map_folded_dependents t c fun d => ?_
      rw [Column.folded, lower_lower]

theorem addressColumns_folded :
    addressColumns t.folded = (addressColumns t).map Column.folded := by
  rw [addressColumns, Table.plainColumns_folded]
  refine filter_map_of_comp (fun c => ?_) t.plainColumns
  exact isAddress_lower c.name

theorem map_folded_addressFindings :
    (addressFindings t.folded).map Finding.folded = (addressFindings t).map Finding.folded := by
  have hfind : ((addressColumns t).map Column.folded).find?
      (fun c => endsWith (lower c.name) "_id") =
      ((addressColumns t).find? fun c => endsWith (lower c.name) "_id").map Column.folded := by
    refine find?_map_of_comp (fun c => ?_) (addressColumns t)
    rw [Column.folded, lower_lower]
  have hinline : (inlineAddress t.folded).folded = (inlineAddress t).folded :=
    Finding.folded_eq rfl rfl rfl rfl rfl
      (congrArg (fun cs => some (String.intercalate ", " (Remedy.names cs)))
        (addressColumns_folded t))
  rw [addressFindings, addressFindings, addressColumns_folded, List.length_map,
    hfind]
  split
  · rfl
  · cases (addressColumns t).find? fun c => endsWith (lower c.name) "_id" with
    | none => exact congrArg (fun f => [f]) hinline
    | some c =>
      simp only [Option.map_some, others_folded, List.map_cons, List.map_nil,
        folded_dependencyFinding]

theorem monetaryColumns_folded :
    monetaryColumns t.folded = (monetaryColumns t).map Column.folded := by
  rw [monetaryColumns, Table.plainColumns_folded]
  refine filter_map_of_comp (fun c => ?_) t.plainColumns
  exact isMonetary_lower c.name

theorem derivedColumns_folded :
    derivedColumns t.folded = (derivedColumns t).map Column.folded := by
  rw [derivedColumns, monetaryColumns_folded]
  refine filter_map_of_comp (fun c => ?_) (monetaryColumns t)
  exact isDerived_lower c.name

theorem map_folded_derivedAmounts :
    (derivedAmounts t.folded).map Finding.folded = (derivedAmounts t).map Finding.folded := by
  rw [derivedAmounts, derivedAmounts, monetaryColumns_folded, derivedColumns_folded,
    List.length_map, List.isEmpty_map]
  split
  · rfl
  · exact congrArg (fun f => [f]) (Finding.folded_eq rfl rfl rfl rfl rfl rfl)

theorem map_folded_tableFindings :
    (tableFindings t.folded).map Finding.folded = (tableFindings t).map Finding.folded := by
  simp only [tableFindings, List.map_append, map_folded_entityFindings, Table.plainColumns_folded,
    map_folded_filterMap (map_folded_labelFinding? t), map_folded_addressFindings,
    map_folded_derivedAmounts, map_folded_filterMap (map_folded_referenceFinding? t)]

end TransitiveDependency

/-! ## Findings that block -/

namespace Finding

theorem columns_folded (f : Finding) : f.folded.columns = f.columns.map lower := by
  rw [columns, columns, folded]
  cases f.columnText? with
  | none => rfl
  | some text => exact namesIn_lower text

theorem isBlocking_folded (f : Finding) : f.folded.isBlocking = f.isBlocking := by
  have hall : (f.columns.map lower).all (fun c => contains (lower c) "id") =
      f.columns.all fun c => contains (lower c) "id" := by
    rw [List.all_map]
    refine congrArg (List.all f.columns) (funext fun c => ?_)
    rw [Function.comp_apply, lower_lower]
  have hpair : f.folded.isIdentifierPair = f.isIdentifierPair := by
    simp only [isIdentifierPair, columns_folded, List.isEmpty_map, List.length_map, hall]
  rw [isBlocking, isBlocking, hpair]
  rfl

/-- Whether findings block is told from their folded ones. -/
theorem any_isBlocking_map_folded (fs : List Finding) :
    (fs.map folded).any isBlocking = fs.any isBlocking := by
  rw [List.any_map]
  exact congrArg (List.any fs) (funext isBlocking_folded)

end Finding

end NormalForms
