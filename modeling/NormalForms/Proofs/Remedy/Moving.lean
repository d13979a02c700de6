import NormalForms.Naming
import NormalForms.Proofs.Remedy.Layout
import NormalForms.Sql.Lexer

/-!
# Remedies that move columns

Every remedy but the one for a missing key moves columns of a table in one way:
under a heading it creates a table, says in comments how the data gets there,
and suggests last to drop the columns that moved (`Moves`). The types of the
created table are types of the old one on one line, or safe ones of its own, and
no comment before the last ones suggests to drop a column.
-/

namespace NormalForms

open Identifier Text Script

/-! ## Reading a name back -/

/-- A name between quotes is read back by the lexer. -/
theorem Sql.Lexer.quotedText_escape (cs : List Char) {c : Char} (hc : c ≠ '"')
    (rest : List Char) :
    quotedText '"' (escape cs ++ '"' :: c :: rest) = some (cs, c :: rest) := by
  induction cs with
  | nil => simp [escape, quotedText, hc]
  | cons d cs ih =>
    by_cases hd : d = '"'
    · subst hd
      rw [escape_cons_quote]
      simp [quotedText, ih]
    · rw [escape_cons_of_ne hd, List.cons_append, quotedText.eq_def]
      simp [hd, ih]

namespace Identifier

theorem dropWhile_isPlainPart {cs : List Char} (h : isPlain cs = true) (rest : List Char) :
    (cs ++ ' ' :: rest).dropWhile isPlainPart = ' ' :: rest := by
  rw [List.dropWhile_append_of_pos (List.all_eq_true.1 (all_isPlainPart_of_isPlain h))]
  rfl

/-- A plain name does not start as one between quotes does. -/
theorem plain_append_ne_quote {cs : List Char} (h : isPlain cs = true) (xs ys : List Char) :
    cs ++ xs ≠ '"' :: ys := by
  intro he
  cases cs with
  | nil => cases h
  | cons c cs =>
    have hc := List.all_eq_true.1 (all_isPlainPart_of_isPlain h) c List.mem_cons_self
    rw [(List.cons.inj he).1] at hc
    cases hc

/-- **Where a name ends** can be told from what stands there. -/
theorem quoted_append_inj {as bs xs ys : List Char}
    (h : quoted as ++ ' ' :: xs = quoted bs ++ ' ' :: ys) : xs = ys := by
  unfold quoted at h
  -- a plain name ends at the space, any other where the lexer finds its closing quote
  split at h
  · rename_i ha
    split at h
    · rename_i hb
      have hd := congrArg (List.dropWhile isPlainPart) h
      rw [dropWhile_isPlainPart ha, dropWhile_isPlainPart hb] at hd
      exact (List.cons.inj hd).2
    · exact absurd h (plain_append_ne_quote ha _ _)
  · split at h
    · rename_i hb
      exact absurd h.symm (plain_append_ne_quote hb _ _)
    · simp only [List.cons_append, List.append_assoc, List.nil_append] at h
      have hq := congrArg (Sql.Lexer.quotedText '"') (List.cons.inj h).2
      rw [Sql.Lexer.quotedText_escape _ (by decide), Sql.Lexer.quotedText_escape _ (by decide)] at hq
      exact (List.cons.inj (Prod.mk.inj (Option.some.inj hq)).2).2

end Identifier

/-! ## Entries taken from a table -/

namespace Table

/-- The types of all columns are self-contained. -/
def SelfContained (t : Table) : Prop := ∀ c ∈ t.columns, isSelfContained c.dataType = true

theorem plainColumns_subset (t : Table) : t.plainColumns ⊆ t.columns := List.filter_sublist.subset

theorem keyColumns_subset (t : Table) : t.keyColumns ⊆ t.columns := by
  intro c hc
  obtain ⟨name, -, h⟩ := List.mem_filterMap.1 hc
  exact List.mem_of_find?_eq_some h

end Table

namespace Remedy

variable {t : Table}

/-- The entry has a type of the table `t`, on one line, or one that is safe
whatever the table. -/
def Entry.Suits (t : Table) (e : Entry) : Prop :=
  e.WellTyped ∨ ∃ c ∈ t.columns, ∃ name notNull isKey,
    e = .column name (oneLine c.dataType) notNull isKey

theorem Entry.Suits.wellTyped {e : Entry} (h : e.Suits t) (ht : t.SelfContained) :
    e.WellTyped := by
  rcases h with h | ⟨c, hc, name, notNull, isKey, rfl⟩
  · exact h
  · refine ⟨(isSelfContained_oneLine c.dataType).trans (ht c hc), ?_⟩
    rw [toList_oneLine]
    exact hasNoBreak_map_breakToSpace _

theorem Entry.Suits.isOneLine {e : Entry} (h : e.Suits t) : e.IsOneLine := by
  rcases h with h | ⟨c, -, name, notNull, isKey, rfl⟩
  · exact h.isOneLine
  · show HasNoBreak (oneLine c.dataType).toList
    rw [toList_oneLine]
    exact hasNoBreak_map_breakToSpace _

theorem suits_surrogateKey : Entry.surrogateKey.Suits t := .inl trivial

theorem suits_primaryKey (columns : List String) : (Entry.primaryKey columns).Suits t :=
  .inl trivial

theorem suits_foreignKey (columns : List String) (target : String) (targetColumns : List String) :
    (Entry.foreignKey columns target targetColumns).Suits t :=
  .inl trivial

theorem suits_ofColumn {c : Column} (hc : c ∈ t.columns) (isKey : Bool) :
    (Entry.ofColumn c isKey).Suits t :=
  .inr ⟨c, hc, _, _, _, rfl⟩

theorem suits_map_ofColumn {columns : List Column} (hc : columns ⊆ t.columns) :
    ∀ e ∈ columns.map (Entry.ofColumn · false), e.Suits t := by
  intro e he
  obtain ⟨c, hm, rfl⟩ := List.mem_map.1 he
  exact suits_ofColumn (hc hm) false

theorem suits_entryNamed (name : String) : (entryNamed t name).Suits t := by
  unfold entryNamed
  split
  · rename_i c hc
    exact suits_ofColumn (List.mem_of_find?_eq_some hc) false
  · exact .inl ⟨by decide, by decide⟩

theorem suits_linkEntry : (linkEntry t).Suits t := by
  unfold linkEntry parentKey
  split
  · rename_i c hc
    have hm : c ∈ t.columns := t.keyColumns_subset (by rw [hc]; exact List.mem_cons_self)
    exact .inr ⟨c, hm, _, _, _, rfl⟩
  · exact .inl ⟨by decide, by decide⟩

theorem suits_elementType (name dataType : String) (notNull isKey : Bool) :
    (Entry.column name (Naming.elementType dataType) notNull isKey).Suits t := by
  refine .inl ?_
  unfold Naming.elementType
  split
  · exact ⟨by decide, by decide⟩
  · split <;> exact ⟨by decide, by decide⟩

/-! ## Comments -/

/-- A step that is written as comments, if at all. -/
def Step.IsComment : Step → Prop
  | .note _ | .blank | .dropColumn _ _ => True
  | .addSurrogateKey _ | .createTable _ _ => False

theorem isComment_dropSteps (t : Table) (columns : List Column) :
    ∀ s ∈ dropSteps t columns, s.IsComment := by
  refine List.forall_mem_cons.2 ⟨trivial, List.forall_mem_cons.2 ⟨trivial, fun s hs => ?_⟩⟩
  obtain ⟨n, -, rfl⟩ := List.mem_map.1 hs
  trivial

/-- A suggestion to drop something of a table. -/
def dropText (table rest : String) : String :=
  "ALTER TABLE " ++ quote table ++ " DROP COLUMN " ++ rest

/-- The step is a blank or a comment on one line that suggests to drop nothing. -/
def Step.KeepsColumns : Step → Prop
  | .note text => HasNoBreak text.toList ∧ ∀ table rest, text ≠ dropText table rest
  | .blank => True
  | .addSurrogateKey _ | .createTable _ _ | .dropColumn _ _ => False

theorem Step.KeepsColumns.isComment {s : Step} (h : s.KeepsColumns) : s.IsComment := by
  cases s with
  | note | blank => trivial
  | addSurrogateKey | createTable | dropColumn => cases h

theorem keepsColumns_note {text : String} (h : HasNoBreak text.toList)
    (hs : startsWith text "ALTER TABLE " = false) : (Step.note text).KeepsColumns := by
  refine ⟨h, ?_⟩
  rintro table rest rfl
  rw [dropText, String.append_assoc, String.append_assoc] at hs
  simp [startsWith] at hs

/-- Adding a foreign key drops nothing. -/
theorem keepsColumns_addForeignKey (table target : String) {key : String}
    (h : HasNoBreak key.toList) :
    (Step.note ("ALTER TABLE " ++ quote table ++ " ADD FOREIGN KEY (" ++ key ++ ") REFERENCES " ++
      quote target ++ "(" ++ key ++ ");")).KeepsColumns := by
  constructor
  · simp [isLineBreak, h]
  · intro table' rest he
    have hc := congrArg String.toList he
    simp only [dropText, String.toList_append, toList_quote, List.append_assoc] at hc
    -- both texts go on after a name, one with `ADD` and the other with `DROP`
    have hrest := quoted_append_inj (List.append_cancel_left hc)
    cases (List.cons.inj hrest).1

theorem keepsColumns_migrationNote : migrationNote.KeepsColumns :=
  keepsColumns_note (by decide) (by decide)

theorem keepsColumns_insertInto (target : String) {columns : String}
    (h : HasNoBreak columns.toList) : (Step.note (insertInto target columns)).KeepsColumns := by
  refine keepsColumns_note ?_ (by simp [insertInto, startsWith, List.isPrefixOf])
  simp [insertInto, isLineBreak, h]

theorem keepsColumns_copySteps (t : Table) (target : String) {key : String}
    (h : HasNoBreak key.toList) (dependents : List Column) :
    ∀ s ∈ copySteps t target key dependents, s.KeepsColumns := by
  have hc : HasNoBreak (key ++ ", " ++ quoteList (names dependents)).toList := by
    simp [isLineBreak, h]
  simp only [copySteps, List.forall_mem_cons]
  refine ⟨trivial, keepsColumns_migrationNote, keepsColumns_insertInto target hc,
    keepsColumns_note ?_ (by simp [startsWith, List.isPrefixOf]), List.forall_mem_nil _⟩
  simp [isLineBreak, h]

/-! ## The remedies -/

/-- Under a heading the remedy creates a table of types that suit `t`, drops
nothing in the comments that follow, and last suggests to drop the columns. -/
def Moves (t : Table) (columns : List Column) (r : Remedy) : Prop :=
  ∃ heading name entries comments,
    r.steps = .note heading :: .createTable name entries :: (comments ++ dropSteps t columns) ∧
      (∀ e ∈ entries, e.Suits t) ∧ ∀ s ∈ Step.note heading :: comments, s.KeepsColumns

/-- What holds of comments and of the creation of a table holds of every step. -/
theorem Moves.forall_steps {columns : List Column} {r : Remedy} (h : Moves t columns r)
    {P : Step → Prop} (hcomment : ∀ s : Step, s.IsComment → P s)
    (htable : ∀ name entries, (∀ e ∈ entries, e.Suits t) → P (.createTable name entries)) :
    ∀ s ∈ r.steps, P s := by
  obtain ⟨heading, name, entries, comments, hsteps, hentries, hcomments⟩ := h
  obtain ⟨hheading, hcomments⟩ := List.forall_mem_cons.1 hcomments
  rw [hsteps]
  exact List.forall_mem_cons.2 ⟨hcomment _ hheading.isComment, List.forall_mem_cons.2
    ⟨htable name entries hentries, List.forall_mem_append.2
      ⟨fun s hs => hcomment s (hcomments s hs).isComment,
        fun s hs => hcomment s (isComment_dropSteps t columns s hs)⟩⟩⟩

theorem moves_splitValues (c : Column) (dataType : String) :
    Moves t [c] (splitValues t c (Naming.elementType dataType)) := by
  refine ⟨_, _, _, [_, _, _, _], rfl, ?_, ?_⟩
  · simp only [List.forall_mem_cons]
    exact ⟨suits_surrogateKey, suits_linkEntry, suits_elementType _ _ _ _,
      suits_foreignKey _ _ _, List.forall_mem_nil _⟩
  · simp only [List.forall_mem_cons]
    refine ⟨keepsColumns_note (by decide) (by decide), trivial, keepsColumns_migrationNote,
      keepsColumns_insertInto _ (hasNoBreak_quoteList _),
      keepsColumns_note ?_ (by simp [startsWith, List.isPrefixOf]), List.forall_mem_nil _⟩
    simp [isLineBreak]

theorem moves_splitGroup (base : String) {columns : List Column} (hc : columns ⊆ t.columns) :
    Moves t columns (splitGroup t base columns) := by
  refine ⟨_, _, _, .blank :: migrationNote :: (names columns).map _, rfl, ?_, ?_⟩
  · simp only [List.forall_mem_cons]
    refine ⟨suits_surrogateKey, suits_linkEntry, ?_, suits_foreignKey _ _ _,
      List.forall_mem_nil _⟩
    cases columns with
    | nil => exact .inl ⟨by decide, by decide⟩
    | cons c columns => exact .inr ⟨c, hc List.mem_cons_self, _, _, _, rfl⟩
  · simp only [List.forall_mem_cons]
    refine ⟨keepsColumns_note (by decide) (by decide), trivial, keepsColumns_migrationNote, ?_⟩
    intro s hs
    obtain ⟨n, -, rfl⟩ := List.mem_map.1 hs
    refine keepsColumns_note ?_ (by simp [insertInto, startsWith, List.isPrefixOf])
    simp [insertInto, isLineBreak]

theorem moves_splitByForeignKey (fk : ForeignKey) {dependents : List Column}
    (hd : dependents ⊆ t.columns) : Moves t dependents (splitByForeignKey t fk dependents) := by
  refine ⟨_, _, _, _, rfl, ?_, ?_⟩
  · refine List.forall_mem_append.2 ⟨List.forall_mem_append.2 ⟨fun e he => ?_, ?_⟩, ?_⟩
    · obtain ⟨name, -, rfl⟩ := List.mem_map.1 he
      exact suits_entryNamed name
    · exact suits_map_ofColumn hd
    · simp only [List.forall_mem_cons]
      exact ⟨suits_primaryKey _, suits_foreignKey _ _ _, List.forall_mem_nil _⟩
  · exact List.forall_mem_cons.2 ⟨keepsColumns_note (by decide) (by decide),
      keepsColumns_copySteps t _ (hasNoBreak_quoteList _) dependents⟩

theorem moves_splitByColumn {determinant : Column} (hk : determinant ∈ t.columns)
    {dependents : List Column} (hd : dependents ⊆ t.columns) (target : String) {heading : String}
    (hh : (Step.note heading).KeepsColumns) :
    Moves t dependents (splitByColumn t determinant dependents target heading) := by
  have hkey : HasNoBreak (quote determinant.name).toList := by simp
  refine ⟨_, _, _, _, rfl, ?_, ?_⟩
  · exact List.forall_mem_cons.2 ⟨suits_ofColumn hk true, suits_map_ofColumn hd⟩
  · refine List.forall_mem_cons.2 ⟨hh, List.forall_mem_append.2
      ⟨keepsColumns_copySteps t target hkey dependents, ?_⟩⟩
    simp only [List.forall_mem_cons]
    exact ⟨trivial, keepsColumns_note (by decide) (by decide),
      keepsColumns_addForeignKey t.name target hkey, List.forall_mem_nil _⟩

theorem moves_splitAddress {columns : List Column} (hc : columns ⊆ t.columns) :
    Moves t columns (splitAddress t columns) := by
  refine ⟨_, _, _, [_, _, _, _], rfl, ?_, ?_⟩
  · refine List.forall_mem_append.2 ⟨List.forall_mem_append.2 ⟨?_, suits_map_ofColumn hc⟩, ?_⟩
    · simp only [List.forall_mem_cons]
      exact ⟨suits_surrogateKey, suits_linkEntry, List.forall_mem_nil _⟩
    · exact List.forall_mem_singleton.2 (suits_foreignKey _ _ _)
  · simp only [List.forall_mem_cons]
    refine ⟨keepsColumns_note (by decide) (by decide), trivial, keepsColumns_migrationNote,
      keepsColumns_insertInto _ ?_, keepsColumns_note ?_ (by simp [startsWith, List.isPrefixOf]),
      List.forall_mem_nil _⟩
    · simp [isLineBreak]
    · simp [isLineBreak]

end Remedy

end NormalForms
