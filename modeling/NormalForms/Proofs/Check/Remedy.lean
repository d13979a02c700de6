import NormalForms.Proofs.Check.Origin
import NormalForms.Proofs.Remedy.Moving
import NormalForms.Assessment

/-!
# The remedies of findings

Every remedy has one statement: the remedy for a missing key adds one, every
other creates a table. Every finding that is more than advice has a remedy, and
if the types of the table's columns are self-contained, so are those of the
entries that the remedy takes from them.
-/

namespace NormalForms

open Identifier Text Script

namespace Remedy

variable {t : Table}

/-! ## What a remedy executes -/

/-- All that the remedy executes is to create a table. -/
def Creates (r : Remedy) : Prop :=
  (∀ s ∈ r.steps, s.WellTyped) ∧ ∃ name entries, r.statements = [tableStatement name entries]

theorem creates_of_comments {note name : String} {entries : List Entry} {steps : List Step}
    (he : ∀ e ∈ entries, e.WellTyped) (hs : ∀ s ∈ steps, s.IsComment) :
    Creates ⟨.note note :: .createTable name entries :: steps⟩ := by
  have hw : ∀ s : Step, s.IsComment → s.WellTyped ∧ s.statements = [] := by
    intro s hs
    cases s with
    | note | blank | dropColumn => exact ⟨trivial, rfl⟩
    | addSurrogateKey | createTable => cases hs
  refine ⟨?_, name, entries, ?_⟩
  · exact List.forall_mem_cons.2
      ⟨trivial, List.forall_mem_cons.2 ⟨he, fun s h => (hw s (hs s h)).1⟩⟩
  · have hn : steps.flatMap Step.statements = [] :=
      List.flatMap_eq_nil_iff.2 fun s h => (hw s (hs s h)).2
    show [] ++ ([tableStatement name entries] ++ steps.flatMap Step.statements) = _
    rw [hn]
    rfl

theorem Moves.creates {columns : List Column} {r : Remedy} (h : Moves t columns r)
    (ht : t.SelfContained) : Creates r := by
  obtain ⟨heading, name, entries, comments, hsteps, hentries, hcomments⟩ := h
  rw [show r = ⟨r.steps⟩ from rfl, hsteps]
  refine creates_of_comments (fun e he => (hentries e he).wellTyped ht) fun s hs => ?_
  rcases List.mem_append.1 hs with hs | hs
  · exact (hcomments s (List.mem_cons_of_mem _ hs)).isComment
  · exact isComment_dropSteps t columns s hs

end Remedy

/-! ## Findings -/

theorem startsWith_append (start : String) (cs : List Char) :
    startsWith (String.ofList (start.toList ++ cs)) start = true := by
  simp [startsWith]

theorem endsWith_append (cs : List Char) (ending : String) :
    endsWith (String.ofList (cs ++ ending.toList)) ending = true := by
  simp [endsWith]

namespace Finding

/-- Advice leaves open what to do. -/
def isAdvice (f : Finding) : Bool := f.kind == .structuredData || f.kind == .calculatedField

/-- Does a statement do what the finding calls for: add a numbered key where
there is none, create a table otherwise? -/
def AnsweredBy (f : Finding) (statement : String) : Prop :=
  if f.kind = .missingPrimaryKey then
    startsWith statement "ALTER TABLE " = true ∧
      endsWith statement "ADD COLUMN id INT AUTO_INCREMENT PRIMARY KEY" = true
  else startsWith statement "CREATE TABLE " = true

/-- The remedy of the finding has the one statement `b`. -/
def Offers (f : Finding) (b : List Char) : Prop :=
  ∃ r : Remedy, f.remedy? = some r.render ∧ (∀ s ∈ r.steps, s.WellTyped) ∧ r.statements = [b]

/-- The finding is advice without a remedy, or its remedy answers it. -/
def IsServed (f : Finding) : Prop :=
  (f.isAdvice = true ∧ f.remedy? = none) ∨
    (f.isAdvice = false ∧ ∃ b, f.Offers b ∧ f.AnsweredBy (String.ofList b))

theorem isServed_of_creates {f : Finding} {r : Remedy} (hr : f.remedy? = some r.render)
    (ha : f.isAdvice = false) (hk : f.kind ≠ .missingPrimaryKey) (h : r.Creates) :
    f.IsServed := by
  obtain ⟨hw, name, entries, hs⟩ := h
  refine .inr ⟨ha, _, ⟨r, hr, hw, hs⟩, ?_⟩
  have ht : Remedy.tableStatement name entries = "CREATE TABLE ".toList ++ (quoted name.toList ++
      (" (".toList ++ ('\n' :: unlines ((Remedy.entryLines entries).map String.toList) ++ [')']))) := by
    rw [Remedy.tableStatement, List.map_cons, unlines_cons, Remedy.tableHead]
    simp
  rw [AnsweredBy, if_neg hk, ht]
  exact startsWith_append _ _

theorem isServed_of_surrogateKey {f : Finding} {t : Table} (hk : f.kind = .missingPrimaryKey)
    (hr : f.remedy? = some (Remedy.surrogateKey t).render) : f.IsServed := by
  have ha : f.isAdvice = false := by
    rw [isAdvice, hk]
    rfl
  have hs : (Remedy.surrogateKey t).statements = [(Remedy.keyStatement t.name).toList] :=
    List.append_nil _
  refine .inr ⟨ha, _, ⟨_, hr, List.forall_mem_singleton.2 trivial, hs⟩, ?_⟩
  have ht : (Remedy.keyStatement t.name).toList = "ALTER TABLE ".toList ++
      (quoted t.name.toList ++ " ADD COLUMN id INT AUTO_INCREMENT PRIMARY KEY".toList) := by
    simp [Remedy.keyStatement]
  have ht' : (Remedy.keyStatement t.name).toList = ("ALTER TABLE ".toList ++
      (quoted t.name.toList ++ [' '])) ++
        "ADD COLUMN id INT AUTO_INCREMENT PRIMARY KEY".toList := by
    simp [Remedy.keyStatement]
  rw [AnsweredBy, if_pos hk]
  constructor
  · rw [ht]
    exact startsWith_append _ _
  · rw [ht']
    exact endsWith_append _ _

end Finding

namespace Finding

/-- The finding names the columns `cs` of the table, and its remedy moves them.
None is in the primary key, unless it holds several values or is numbered. -/
structure MovesColumns (f : Finding) (t : Table) (cs : List Column) : Prop where
  isAdvice_eq : f.isAdvice = false
  kind_ne : f.kind ≠ .missingPrimaryKey
  columnText?_eq : f.columnText? = some (String.intercalate ", " (Remedy.names cs))
  sublist : cs.Sublist t.columns
  exists_moves : ∃ r : Remedy, f.remedy? = some r.render ∧ r.Moves t cs
  kind_of_key : ∀ c ∈ cs, t.inPrimaryKey c.name = true →
    f.kind = .multiValuedColumn ∨
      f.kind = .repeatingGroup ∧ ∃ d ∈ cs, t.inPrimaryKey d.name = false

/-- The finding is about the table: it is advice without a remedy, its remedy
adds the key that is missing, or its remedy moves the columns it names. -/
structure IsAbout (f : Finding) (t : Table) : Prop where
  table_eq : f.table = t.name
  remedy : (f.isAdvice = true ∧ f.remedy? = none) ∨
    (f.kind = .missingPrimaryKey ∧ f.columnText? = none ∧
      f.remedy? = some (Remedy.surrogateKey t).render) ∨
    ∃ cs, f.MovesColumns t cs

variable {t : Table} {f : Finding}

theorem IsAbout.isServed (h : f.IsAbout t) (ht : t.SelfContained) : f.IsServed := by
  rcases h.remedy with ha | ⟨hk, -, hr⟩ | ⟨cs, hm⟩
  · exact .inl ha
  · exact isServed_of_surrogateKey hk hr
  · obtain ⟨r, hr, hmoves⟩ := hm.exists_moves
    exact isServed_of_creates hr hm.isAdvice_eq hm.kind_ne (hmoves.creates ht)

/-- A remedy adds a key or moves columns. -/
theorem IsAbout.exists_remedy (h : f.IsAbout t) {script : String} (hr : f.remedy? = some script) :
    ∃ r : Remedy, script = r.render ∧ (r = Remedy.surrogateKey t ∨ ∃ cs, r.Moves t cs) := by
  rcases h.remedy with ⟨-, hnone⟩ | ⟨-, -, hkey⟩ | ⟨cs, hm⟩
  · rw [hnone] at hr
    cases hr
  · exact ⟨_, Option.some.inj (hr.symm.trans hkey), .inl rfl⟩
  · obtain ⟨r, hrender, hmoves⟩ := hm.exists_moves
    exact ⟨r, Option.some.inj (hr.symm.trans hrender), .inr ⟨cs, hmoves⟩⟩

theorem MovesColumns.isAbout {cs : List Column} (h : f.MovesColumns t cs)
    (ht : f.table = t.name) : f.IsAbout t :=
  ⟨ht, .inr (.inr ⟨cs, h⟩)⟩

/-- Columns outside the primary key may be moved. -/
theorem movesColumns_of_plain {cs : List Column} {r : Remedy} (ha : f.isAdvice = false)
    (hk : f.kind ≠ .missingPrimaryKey)
    (ht : f.columnText? = some (String.intercalate ", " (Remedy.names cs)))
    (hs : cs.Sublist t.plainColumns) (hr : f.remedy? = some r.render)
    (hm : cs ⊆ t.columns → r.Moves t cs) : f.MovesColumns t cs where
  isAdvice_eq := ha
  kind_ne := hk
  columnText?_eq := ht
  sublist := hs.trans List.filter_sublist
  exists_moves := ⟨r, hr, hm (hs.trans List.filter_sublist).subset⟩
  kind_of_key c hc hkey := by
    rw [t.inPrimaryKey_of_mem_plainColumns (hs.subset hc)] at hkey
    cases hkey

end Finding

variable {t : Table} {f : Finding}

theorem Atomicity.movesColumns_multiValued {c : Column} (hc : c ∈ t.columns) :
    (multiValued t c).MovesColumns t [c] where
  isAdvice_eq := rfl
  kind_ne := by simp [multiValued]
  columnText?_eq := congrArg some (String.intercalate_singleton).symm
  sublist := List.singleton_sublist.2 hc
  exists_moves := ⟨_, rfl, Remedy.moves_splitValues c c.dataType⟩
  kind_of_key _ _ _ := .inl rfl

theorem Atomicity.movesColumns_repeatingGroup {base : String} (hg : isGroup t base = true) :
    (repeatingGroup t base).MovesColumns t (groupMembers t base) where
  isAdvice_eq := rfl
  kind_ne := by simp [repeatingGroup]
  columnText?_eq := rfl
  sublist := List.filter_sublist
  exists_moves := ⟨_, rfl, Remedy.moves_splitGroup base List.filter_sublist.subset⟩
  kind_of_key _ _ _ := by
    obtain ⟨d, hd, hkey⟩ := List.any_eq_true.1 (Bool.and_eq_true_iff.1 hg).2
    exact .inr ⟨rfl, d, hd, Bool.not_eq_eq_eq_not.1 hkey⟩

theorem Atomicity.isAbout (h : f ∈ tableFindings t) : f.IsAbout t := by
  rcases mem_tableFindings h with h | ⟨c, hc, rfl⟩ | ⟨c, -, rfl⟩ | ⟨base, hg, rfl⟩
  · obtain ⟨htable, htext, hk, hr⟩ := of_mem_missingKey h
    exact ⟨htable, .inr (.inl ⟨hk, htext, hr⟩)⟩
  · exact (movesColumns_multiValued hc).isAbout rfl
  · exact ⟨rfl, .inl ⟨rfl, rfl⟩⟩
  · exact (movesColumns_repeatingGroup hg).isAbout rfl

theorem PartialDependency.isAbout (h : f ∈ tableFindings t) : f.IsAbout t := by
  rcases mem_tableFindings h with ⟨scope, fk, -, -, rfl⟩ |
    ⟨key, hkey, dependents, subject, base, -, hd, rfl⟩
  · refine (Finding.movesColumns_of_plain rfl (by simp [foreignKeyFinding]) rfl
      List.filter_sublist rfl fun hc => ?_).isAbout rfl
    exact Remedy.moves_splitByForeignKey fk hc
  · refine (Finding.movesColumns_of_plain rfl (by simp [keyColumnFinding]) rfl hd rfl
      fun hc => ?_).isAbout rfl
    exact Remedy.moves_splitByColumn (t.keyColumns_subset hkey) hc _
      (Remedy.keepsColumns_note (by decide) (by decide))

theorem TransitiveDependency.isAbout (h : f ∈ tableFindings t) : f.IsAbout t := by
  rcases mem_tableFindings h with ⟨c, hc, members, hm, -, rfl⟩ | ⟨-, rfl⟩ | h
  · refine (Finding.movesColumns_of_plain rfl (by simp [dependencyFinding]) rfl
      (List.filter_sublist.trans hm) rfl fun hs => ?_).isAbout rfl
    exact Remedy.moves_splitByColumn (t.plainColumns_subset hc) hs _
      (Remedy.keepsColumns_note (by decide) (by decide))
  · refine (Finding.movesColumns_of_plain rfl (by simp [inlineAddress]) rfl List.filter_sublist
      rfl fun hc => ?_).isAbout rfl
    exact Remedy.moves_splitAddress hc
  · obtain ⟨-, hk, hr⟩ := of_mem_derivedAmounts h
    refine ⟨(columnText?_of_mem_derivedAmounts h).2.1, .inl ⟨?_, hr⟩⟩
    rw [Finding.isAdvice, hk]
    rfl

/-- Whatever is found in a table is about it. -/
theorem Table.Raises.isAbout (h : t.Raises f) : f.IsAbout t := by
  rcases h with h | h | h
  · exact Atomicity.isAbout h
  · exact PartialDependency.isAbout h
  · exact TransitiveDependency.isAbout h

namespace Schema

variable {s : Schema}

/-- The types of all columns of all tables are self-contained. -/
def SelfContained (s : Schema) : Prop := ∀ t ∈ s.tables, t.SelfContained

/-- Every finding of an assessment is about a table of the schema. -/
theorem exists_isAbout_of_mem_findings {notices : List Notice} {form : Form}
    (hf : f ∈ (s.assess notices).findings form) : ∃ t ∈ s.tables, f.IsAbout t := by
  have hraised : ∃ t ∈ s.tables, t.Raises f := by
    cases form with
    | first => exact exists_raises_of_mem_atomicity hf
    | second =>
      change f ∈ s.secondFindings at hf
      unfold secondFindings at hf
      split at hf
      · cases hf
      · exact exists_raises_of_mem_partial hf
    | third =>
      change f ∈ s.thirdFindings at hf
      unfold thirdFindings at hf
      split at hf
      · cases hf
      · exact exists_raises_of_mem_transitive ((Finding.novel_sublist [] _).subset hf)
  obtain ⟨t, ht, hf⟩ := hraised
  exact ⟨t, ht, hf.isAbout⟩

/-- **Every finding of an assessment** is advice without a remedy, or has a
remedy that answers it. -/
theorem isServed_of_mem_findings (h : s.SelfContained) {notices : List Notice} {form : Form}
    (hf : f ∈ (s.assess notices).findings form) : f.IsServed := by
  obtain ⟨t, ht, habout⟩ := exists_isAbout_of_mem_findings hf
  exact habout.isServed (h t ht)

end Schema

end NormalForms
