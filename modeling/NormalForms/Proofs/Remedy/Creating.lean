import NormalForms.Proofs.Naming.Case
import NormalForms.Proofs.Remedy.Lines
import NormalForms.Proofs.Schema.Invariant

/-!
# The tables that remedies create

A remedy that moves columns creates one table, and the body of its definition can be
found in the text of the remedy (`Moves.bodies_render`). Columns of the old table meet
columns of new names there. They are written apart, even if the case of letters does not
count: a new name is `id` or ends in `_id` or `_value`, and names of different columns
without line breaks stay different when they are quoted (`writtenApart_of_not_same`).
-/

namespace NormalForms

open Identifier Text Script

/-! ## Names that are written apart -/

namespace Identifier

theorem isPlain_map_toLower (cs : List Char) : isPlain (cs.map Char.toLower) = isPlain cs := by
  have hstart : ∀ c : Char, (c.toLower.isAlpha || c.toLower == '_') = (c.isAlpha || c == '_') :=
    apply_toLower (f := fun c => c.isAlpha || c == '_') (by decide)
  have hpart : isPlainPart ∘ Char.toLower = isPlainPart := funext (apply_toLower (by decide))
  cases cs with
  | nil => rfl
  | cons c cs => rw [List.map_cons, isPlain, isPlain, hstart, List.all_map, hpart]

theorem escape_map_toLower (cs : List Char) :
    escape (cs.map Char.toLower) = (escape cs).map Char.toLower := by
  induction cs with
  | nil => rfl
  | cons c cs ih =>
    by_cases hc : c = '"'
    · subst hc
      rw [escape_cons_quote, List.map_cons, List.map_cons, List.map_cons, ← ih]
      exact escape_cons_quote _
    · have hlower : c.toLower ≠ '"' := mt (toLower_eq_closer_iff (c := '"') rfl c).1 hc
      rw [escape_cons_of_ne hc, List.map_cons, escape_cons_of_ne hlower, ih, List.map_cons]

theorem breakToSpace_comp_toLower : breakToSpace ∘ Char.toLower = Char.toLower ∘ breakToSpace := by
  funext c
  have hbreak : isLineBreak c.toLower = isLineBreak c := apply_toLower (by decide) c
  simp only [Function.comp_apply, breakToSpace, hbreak]
  split <;> rfl

theorem oneLine_lower (s : String) : oneLine (lower s) = lower (oneLine s) := by
  refine String.toList_inj.1 ?_
  rw [toList_oneLine, toList_lower, toList_lower, toList_oneLine, List.map_map, List.map_map,
    breakToSpace_comp_toLower]

theorem quoted_map_toLower (cs : List Char) :
    quoted (cs.map Char.toLower) = (quoted cs).map Char.toLower := by
  cases h : isPlain cs with
  | true => rw [quoted_of_isPlain h, quoted_of_isPlain (by rw [isPlain_map_toLower, h])]
  | false =>
    rw [quoted_of_not_isPlain h, quoted_of_not_isPlain (by rw [isPlain_map_toLower, h]),
      List.map_map, breakToSpace_comp_toLower, ← List.map_map, escape_map_toLower, List.map_cons,
      List.map_append]
    rfl

/-- A name in small letters is written in small letters. -/
theorem quote_lower (n : String) : quote (lower n) = lower (quote n) := by
  refine String.toList_inj.1 ?_
  rw [toList_quote, toList_lower, toList_lower, toList_quote, quoted_map_toLower]

/-- The names are written differently, and not only in the case of letters. -/
def WrittenApart (a b : String) : Prop := lower (quote a) ≠ lower (quote b)

section WrittenApart

variable {a b : String}

theorem writtenApart_iff : WrittenApart a b ↔ lower (oneLine a) ≠ lower (oneLine b) := by
  rw [WrittenApart, ← quote_lower, ← quote_lower, Ne, quote_eq_quote_iff, oneLine_lower,
    oneLine_lower]

theorem WrittenApart.symm (h : WrittenApart a b) : WrittenApart b a := Ne.symm h

/-- **Names of different columns** are written apart. -/
theorem writtenApart_of_not_same (ha : HasNoBreak a.toList) (hb : HasNoBreak b.toList)
    (h : same a b = false) : WrittenApart a b := by
  rw [writtenApart_iff, oneLine_eq_self ha, oneLine_eq_self hb]
  intro he
  have hkey := congrArg key he
  rw [key_lower, key_lower] at hkey
  rw [same_iff.2 hkey] at h
  cases h

theorem lower_oneLine_append (s s' : String) :
    lower (oneLine (s ++ s')) = lower (oneLine s) ++ lower (oneLine s') := by
  refine String.toList_inj.1 ?_
  simp

/-- A name of such an ending is longer than `id`. -/
theorem writtenApart_id_append (s : String) {ending : String} (h : 2 < ending.length) :
    WrittenApart "id" (s ++ ending) := by
  rw [writtenApart_iff]
  intro he
  have hlength := congrArg (fun s => s.toList.length) he
  simp only [toList_lower, toList_oneLine, List.length_map, String.length_toList,
    String.length_append] at hlength
  have hid : "id".length = 2 := rfl
  omega

theorem writtenApart_link_value (s s' : String) : WrittenApart (s ++ "_id") (s' ++ "_value") := by
  rw [writtenApart_iff, lower_oneLine_append, lower_oneLine_append]
  intro he
  have hlast := congrArg (fun s => s.toList.getLast?) he
  have hlink : (lower (oneLine "_id")).toList = ['_', 'i', 'd'] := by decide +kernel
  have hvalue : (lower (oneLine "_value")).toList = ['_', 'v', 'a', 'l', 'u', 'e'] := by
    decide +kernel
  simp [hlink, hvalue] at hlast

/-- Only a name that ends in `_id` is written like one that does. -/
theorem writtenApart_link {s : String} (ha : HasNoBreak a.toList)
    (h : endsWith (lower a) "_id" = false) : WrittenApart (s ++ "_id") a := by
  rw [writtenApart_iff, oneLine_eq_self ha, lower_oneLine_append]
  intro he
  have hlink : lower (oneLine "_id") = "_id" := by decide +kernel
  have hends : endsWith (lower (oneLine s) ++ "_id") "_id" = true := by
    rw [endsWith, String.toList_append]
    exact List.isSuffixOf_iff_suffix.2 (List.suffix_append _ _)
  rw [← he, hlink, hends] at h
  cases h

end WrittenApart

end Identifier

/-- No name of a column holds a line break, in the table or in a foreign key of it, and no
foreign key names a column twice. -/
structure Table.InLine (t : Table) : Prop where
  columns : ∀ c ∈ t.columns, HasNoBreak c.name.toList
  references : ∀ fk ∈ t.foreignKeys, ∀ n ∈ fk.columns, HasNoBreak n.toList
  unrepeated : ∀ fk ∈ t.foreignKeys, fk.columns.Pairwise fun a b => same a b = false

namespace Remedy

variable {t : Table} {columns : List Column} {r : Remedy}

/-! ## The body of a definition -/

/-- A line with which the definition of a table begins. -/
def isTableHead (line : String) : Bool := startsWith line "CREATE TABLE "

/-- The lines of each definition of a table in a script, without the first and the last. -/
def bodies : List String → List (List String)
  | [] => []
  | line :: ls =>
    if isTableHead line then ls.takeWhile (· != ");") :: bodies ls else bodies ls

theorem bodies_append {ls : List String} (h : ∀ line ∈ ls, isTableHead line = false)
    (ms : List String) : bodies (ls ++ ms) = bodies ms := by
  induction ls with
  | nil => rfl
  | cons line ls ih =>
    obtain ⟨hline, hls⟩ := List.forall_mem_cons.1 h
    rw [List.cons_append, bodies, hline, if_neg Bool.false_ne_true, ih hls]

theorem isTableHead_comment (line : String) : isTableHead ("-- " ++ line) = false := by
  simp [isTableHead, startsWith, List.isPrefixOf]

theorem isTableHead_of_mem_commentLines {text line : String} (h : line ∈ commentLines text) :
    isTableHead line = false := by
  obtain ⟨l, -, rfl⟩ := List.mem_map.1 h
  exact isTableHead_comment l

theorem isTableHead_of_mem_lines {s : Step} (hs : s.IsComment) {line : String}
    (h : line ∈ s.lines) : isTableHead line = false := by
  cases s with
  | note | dropColumn => exact isTableHead_of_mem_commentLines h
  | blank =>
    cases List.mem_singleton.1 h
    decide
  | addSurrogateKey | createTable => cases hs

/-- A line of a body neither begins a definition nor ends it. -/
theorem of_mem_entryLines {es : List Entry} {line : String} (h : line ∈ entryLines es) :
    isTableHead line = false ∧ (line != ");") = true := by
  have hindented : ∀ s : String,
      isTableHead ("    " ++ s) = false ∧ ("    " ++ s != ");") = true := by
    intro s
    refine ⟨by simp [isTableHead, startsWith, List.isPrefixOf], bne_iff_ne.2 fun he => ?_⟩
    simpa using congrArg String.toList he
  obtain ⟨e, -, rfl | rfl⟩ := mem_entryLines h
  · exact hindented e.render
  · rw [String.append_assoc]
    exact hindented (e.render ++ ",")

theorem bodies_createTable (name : String) (entries : List Entry) (ms : List String) :
    bodies ((Step.createTable name entries).lines ++ ms) = entryLines entries :: bodies ms := by
  have hhead : isTableHead ("CREATE TABLE " ++ quote name ++ " (") = true := by
    simp [isTableHead, startsWith, String.append_assoc]
  have hend : isTableHead ");" = false := rfl
  rw [Step.lines, List.cons_append, List.append_assoc, bodies, hhead, if_pos rfl,
    List.takeWhile_append_of_pos fun line hl => (of_mem_entryLines hl).2,
    bodies_append fun line hl => (of_mem_entryLines hl).1, List.cons_append, bodies, hend,
    if_neg Bool.false_ne_true, List.nil_append, List.takeWhile_cons_of_neg (by simp),
    List.append_nil]

/-- **A remedy that moves columns** has one body in its text, that of the table it creates. -/
theorem Moves.bodies_render (h : Moves t columns r) {name : String} {entries : List Entry}
    (hr : r.steps[1]? = some (.createTable name entries)) :
    bodies (Text.lines r.render) = [entryLines entries] := by
  have hlines := h.lines_render
  obtain ⟨heading, name', entries', comments, hsteps, -, hcomments⟩ := h
  obtain ⟨hheading, hcomments⟩ := List.forall_mem_cons.1 hcomments
  rw [hsteps] at hr
  cases hr
  have hrest : ∀ line ∈ (comments ++ dropSteps t columns).flatMap Step.lines,
      isTableHead line = false := by
    intro line hl
    obtain ⟨s, hs, hl⟩ := List.mem_flatMap.1 hl
    refine isTableHead_of_mem_lines ?_ hl
    rcases List.mem_append.1 hs with hs | hs
    · exact (hcomments s hs).isComment
    · exact isComment_dropSteps t columns s hs
  have hnone := bodies_append hrest []
  rw [List.append_nil] at hnone
  rw [hlines, Remedy.lines, hsteps, List.flatMap_cons, List.flatMap_cons,
    bodies_append fun line hl => isTableHead_of_mem_lines hheading.isComment hl,
    bodies_createTable, hnone]
  rfl

/-- Adding a key creates no table. -/
theorem bodies_surrogateKey (t : Table) : bodies (Text.lines (surrogateKey t).render) = [] := by
  have hkey : isTableHead
      ("ALTER TABLE " ++ quote t.name ++ " ADD COLUMN id INT AUTO_INCREMENT PRIMARY KEY;") =
        false := by
    simp [isTableHead, startsWith, List.isPrefixOf, String.append_assoc]
  rw [lines_render_surrogateKey, Step.lines, bodies, hkey, if_neg Bool.false_ne_true]
  rfl

/-! ## Commas -/

theorem endsWith_comma_iff {s : String} : endsWith s "," = true ↔ s.toList.getLast? = some ',' := by
  rw [endsWith, List.isSuffixOf_iff_suffix]
  constructor
  · rintro ⟨cs, hcs⟩
    rw [← hcs]
    exact List.getLast?_concat
  · intro h
    obtain ⟨cs, hcs⟩ := List.getLast?_eq_some_iff.1 h
    exact ⟨cs, hcs.symm⟩

theorem entryLines_append_singleton (es : List Entry) (e : Entry) :
    entryLines (es ++ [e]) =
      es.map (fun e => "    " ++ e.render ++ ",") ++ ["    " ++ e.render] := by
  induction es with
  | nil => rfl
  | cons e' es ih =>
    rw [List.map_cons, List.cons_append, List.cons_append, ← ih]
    cases es with
    | nil => rfl
    | cons e'' es => rfl

/-- No name as it is written ends in a comma. -/
theorem getLast?_quoted_ne (cs : List Char) : (quoted cs).getLast? ≠ some ',' := by
  intro hlast
  cases h : isPlain cs with
  | true =>
    rw [quoted_of_isPlain h] at hlast
    have hpart := List.all_eq_true.1 (all_isPlainPart_of_isPlain h) _
      (List.mem_of_getLast? hlast)
    exact absurd hpart (by decide)
  | false =>
    rw [quoted_of_not_isPlain h, ← List.cons_append, List.getLast?_concat] at hlast
    exact absurd hlast (by decide)

theorem endsWith_comma_foreignKey (names : List String) (target : String)
    (targets : List String) :
    endsWith ("    " ++ (Entry.foreignKey names target targets).render) "," = false := by
  refine Bool.eq_false_iff.2 fun h => ?_
  rw [endsWith_comma_iff, Entry.render_foreignKey] at h
  simp only [String.toList_append, toList_quote] at h
  split at h
  · have hname : quoted target.toList ≠ [] := by
      obtain ⟨c, hc, -⟩ := exists_visible_quoted target.toList
      exact List.ne_nil_of_mem hc
    have hempty : "".toList = [] := rfl
    rw [hempty, List.append_nil, ← List.append_assoc, List.getLast?_append_of_ne_nil _ hname] at h
    exact getLast?_quoted_ne _ h
  · have hclose : ")".toList = [')'] := rfl
    rw [String.toList_append, hclose, ← List.append_assoc, ← List.append_assoc,
      List.getLast?_concat] at h
    exact absurd h (by decide)

theorem breakToSpace_eq_comma_iff {c : Char} : breakToSpace c = ',' ↔ c = ',' := by
  cases hc : isLineBreak c with
  | false => rw [breakToSpace, hc, if_neg Bool.false_ne_true]
  | true =>
    rw [breakToSpace, hc, if_pos rfl]
    constructor
    · intro h
      cases h
    · rintro rfl
      cases hc

/-- A column taken over ends in a comma only if its type does. -/
theorem endsWith_comma_definition (c : Column) :
    endsWith ("    " ++ c.definition) "," = true ↔
      c.nullable = true ∧ endsWith c.dataType "," = true := by
  rw [endsWith_comma_iff, endsWith_comma_iff, Column.definition]
  simp only [String.toList_append, toList_quote, toList_oneLine]
  cases c.nullable with
  | false =>
    have hnull : " NOT NULL".toList = " NOT NUL".toList ++ ['L'] := rfl
    rw [if_neg Bool.false_ne_true, hnull, ← List.append_assoc, ← List.append_assoc,
      List.getLast?_concat]
    simp
  | true =>
    have hempty : "".toList = [] := rfl
    rw [if_pos rfl, hempty, List.append_nil]
    rcases List.eq_nil_or_concat c.dataType.toList with hnil | ⟨cs, d, hcs⟩
    · have hspace : " ".toList = [' '] := rfl
      rw [hnil, List.map_nil, List.append_nil, hspace, ← List.append_assoc, List.getLast?_concat]
      simp
    · rw [hcs, List.concat_eq_append, List.map_append, List.map_singleton, ← List.append_assoc,
        ← List.append_assoc, List.getLast?_concat, List.getLast?_concat]
      simp only [Option.some.injEq, breakToSpace_eq_comma_iff, true_and]

/-! ## Definitions -/

/-- The name of the column that the entry defines, if it defines one. -/
def Entry.name? : Entry → Option String
  | surrogateKey => some "id"
  | column name _ _ _ => some name
  | primaryKey _ | foreignKey _ _ _ => none

/-- The entry closes the definition of a table: a foreign key, or a column of `t`. -/
inductive Entry.Closes (t : Table) : Entry → Prop
  | foreignKey (columns : List String) (target : String) (targetColumns : List String) :
      Closes t (.foreignKey columns target targetColumns)
  | column {c : Column} (mem : c ∈ t.columns) : Closes t (.ofColumn c false)

/-- The columns that the entries define are written apart, and a foreign key or a
column of `t` comes last. -/
structure IsDefinition (t : Table) (entries : List Entry) : Prop where
  apart : (entries.filterMap Entry.name?).Pairwise WrittenApart
  closed : ∃ es e, entries = es ++ [e] ∧ e.Closes t

theorem IsDefinition.dropLast_entryLines {entries : List Entry} (h : IsDefinition t entries) :
    ∀ line ∈ (entryLines entries).dropLast, endsWith line "," = true := by
  obtain ⟨es, e, rfl, -⟩ := h.closed
  rw [entryLines_append_singleton, List.dropLast_concat]
  intro line hl
  obtain ⟨e', -, rfl⟩ := List.mem_map.1 hl
  rw [endsWith_comma_iff, String.toList_append]
  exact List.getLast?_concat

theorem IsDefinition.getLast?_entryLines {entries : List Entry} (h : IsDefinition t entries) :
    ∀ line ∈ (entryLines entries).getLast?, endsWith line "," = true ↔
      ∃ c ∈ t.columns, line = "    " ++ c.definition ∧ c.nullable = true ∧
        endsWith c.dataType "," = true := by
  obtain ⟨es, e, rfl, he⟩ := h.closed
  rw [entryLines_append_singleton, List.getLast?_concat]
  rintro line ⟨⟩
  constructor
  · intro hcomma
    cases he with
    | foreignKey columns target targets =>
      rw [endsWith_comma_foreignKey] at hcomma
      cases hcomma
    | column hc =>
      rw [Entry.render_ofColumn] at hcomma ⊢
      exact ⟨_, hc, rfl, (endsWith_comma_definition _).1 hcomma⟩
  · rintro ⟨c, -, he, hcomma⟩
    rw [he]
    exact (endsWith_comma_definition c).2 hcomma

/-! ## The definitions of the remedies -/

theorem isDefinition_values (t : Table) (stem dataType : String) (notNull : Bool) :
    IsDefinition t [.surrogateKey, linkEntry t, .column (stem ++ "_value") dataType notNull false,
      linkKey t] := by
  refine ⟨?_, [_, _, _], _, rfl, .foreignKey _ _ _⟩
  show ["id", t.name ++ "_id", stem ++ "_value"].Pairwise WrittenApart
  simp only [List.pairwise_cons, List.forall_mem_cons, List.not_mem_nil, false_implies,
    implies_true, and_true, List.Pairwise.nil]
  exact ⟨⟨writtenApart_id_append _ (by decide), writtenApart_id_append _ (by decide)⟩,
    writtenApart_link_value _ _⟩

theorem filterMap_name?_ofColumn (cs : List Column) :
    (cs.map (Entry.ofColumn · false)).filterMap Entry.name? = cs.map Column.name := by
  rw [List.filterMap_map]
  exact congrFun (List.filterMap_eq_map (f := Column.name)) cs

/-- Columns of a table are written apart. -/
theorem pairwise_writtenApart (hw : t.WellFormed) (ht : t.InLine) {cs : List Column}
    (hcs : cs.Sublist t.columns) : (cs.map Column.name).Pairwise WrittenApart := by
  refine List.pairwise_map.2 ((hw.columns.sublist hcs).imp_of_mem fun ha hb hapart => ?_)
  exact writtenApart_of_not_same (ht.columns _ (hcs.subset ha)) (ht.columns _ (hcs.subset hb))
    hapart

/-- The last of some columns of a table closes a definition. -/
theorem exists_closes {cs : List Column} (hcs : cs ⊆ t.columns) (hne : cs ≠ []) :
    ∃ es e, cs.map (Entry.ofColumn · false) = es ++ [e] ∧ e.Closes t := by
  obtain ⟨ds, d, rfl⟩ := (List.eq_nil_or_concat cs).resolve_left hne
  rw [List.concat_eq_append] at hcs ⊢
  exact ⟨_, _, List.map_append, .column (hcs (by simp))⟩

theorem isDefinition_byColumn (hw : t.WellFormed) (ht : t.InLine) {determinant : Column}
    (hd : determinant ∈ t.columns) {cs : List Column} (hcs : cs.Sublist t.columns) (hne : cs ≠ [])
    (hapart : ∀ c ∈ cs, same c.name determinant.name = false) :
    IsDefinition t (.ofColumn determinant true :: cs.map (Entry.ofColumn · false)) := by
  constructor
  · rw [List.filterMap_cons_some (show Entry.name? _ = some determinant.name from rfl),
      filterMap_name?_ofColumn]
    refine List.pairwise_cons.2 ⟨?_, pairwise_writtenApart hw ht hcs⟩
    rw [List.forall_mem_map]
    exact fun c hc => (writtenApart_of_not_same (ht.columns c (hcs.subset hc))
      (ht.columns _ hd) (hapart c hc)).symm
  · obtain ⟨es, e, he, hcloses⟩ := exists_closes hcs.subset hne
    exact ⟨_ :: es, e, by rw [he, List.cons_append], hcloses⟩

/-- The name under which a column of a foreign key is defined. -/
def declaredName (t : Table) (name : String) : String :=
  ((t.column? name).map Column.name).getD name

theorem name?_entryNamed (t : Table) (name : String) :
    (entryNamed t name).name? = some (declaredName t name) := by
  unfold entryNamed declaredName
  cases t.column? name <;> rfl

theorem same_declaredName (t : Table) (name : String) : same (declaredName t name) name = true := by
  unfold declaredName
  cases hc : t.column? name with
  | none => exact same_refl name
  | some c => simpa [Column.hasName] using List.find?_some hc

theorem hasNoBreak_declaredName (ht : t.InLine) {name : String} (hn : HasNoBreak name.toList) :
    HasNoBreak (declaredName t name).toList := by
  unfold declaredName
  cases hc : t.column? name with
  | none => exact hn
  | some c => exact ht.columns c (List.mem_of_find?_eq_some hc)

theorem isDefinition_byForeignKey (hw : t.WellFormed) (ht : t.InLine) {fk : ForeignKey}
    (hfk : fk ∈ t.foreignKeys) {cs : List Column} (hcs : cs.Sublist t.columns)
    (hout : ∀ c ∈ cs, t.inForeignKey c.name = false) :
    IsDefinition t (fk.columns.map (entryNamed t) ++ cs.map (Entry.ofColumn · false) ++
      [.primaryKey fk.columns, .foreignKey fk.columns fk.target fk.targetColumns]) := by
  constructor
  · have hkey : (fk.columns.map (entryNamed t)).filterMap Entry.name? =
        fk.columns.map (declaredName t) := by
      rw [List.filterMap_map, ← List.filterMap_eq_map]
      exact congrArg (List.filterMap · _) (funext fun n => name?_entryNamed t n)
    rw [List.filterMap_append, List.filterMap_append, hkey, filterMap_name?_ofColumn]
    show (_ ++ []).Pairwise WrittenApart
    rw [List.append_nil]
    refine List.pairwise_append.2 ⟨?_, pairwise_writtenApart hw ht hcs, ?_⟩
    · refine List.pairwise_map.2 ((ht.unrepeated fk hfk).imp_of_mem fun {a b} ha hb hab => ?_)
      refine writtenApart_of_not_same (hasNoBreak_declaredName ht (ht.references fk hfk a ha))
        (hasNoBreak_declaredName ht (ht.references fk hfk b hb)) ?_
      refine Bool.eq_false_iff.2 fun hsame => ?_
      rw [same_trans (same_symm (same_declaredName t a))
        (same_trans hsame (same_declaredName t b))] at hab
      cases hab
    · intro n hn m hm
      obtain ⟨a, ha, rfl⟩ := List.mem_map.1 hn
      obtain ⟨c, hc, rfl⟩ := List.mem_map.1 hm
      refine writtenApart_of_not_same (hasNoBreak_declaredName ht (ht.references fk hfk a ha))
        (ht.columns c (hcs.subset hc)) ?_
      -- a dependent column is in no foreign key
      refine Bool.eq_false_iff.2 fun hsame => ?_
      have hcovers := List.any_eq_false.1 (hout c hc) fk hfk
      exact hcovers (List.any_eq_true.2
        ⟨a, ha, same_trans (same_symm (same_declaredName t a)) hsame⟩)
  · exact ⟨fk.columns.map (entryNamed t) ++ cs.map (Entry.ofColumn · false) ++
      [.primaryKey fk.columns], _, (List.append_assoc _ [_] [_]).symm, .foreignKey _ _ _⟩

theorem isDefinition_address (hw : t.WellFormed) (ht : t.InLine) {cs : List Column}
    (hcs : cs.Sublist t.columns) (hid : ∀ c ∈ cs, lower c.name ≠ "id")
    (hlink : ∀ c ∈ cs, endsWith (lower c.name) "_id" = false) :
    IsDefinition t ([.surrogateKey, linkEntry t] ++ cs.map (Entry.ofColumn · false) ++
      [linkKey t]) := by
  constructor
  · rw [List.filterMap_append, List.filterMap_append, filterMap_name?_ofColumn]
    show (["id", t.name ++ "_id"] ++ cs.map Column.name ++ []).Pairwise WrittenApart
    rw [List.append_nil]
    refine List.pairwise_cons.2 ⟨?_, List.pairwise_cons.2 ⟨?_, pairwise_writtenApart hw ht hcs⟩⟩
    · refine List.forall_mem_cons.2 ⟨writtenApart_id_append _ (by decide),
        List.forall_mem_map.2 fun c hc => ?_⟩
      have hlower : lower (oneLine "id") = "id" := by decide +kernel
      rw [writtenApart_iff, oneLine_eq_self (ht.columns c (hcs.subset hc)), hlower]
      exact fun he => hid c hc he.symm
    · exact List.forall_mem_map.2 fun c hc =>
        writtenApart_link (ht.columns c (hcs.subset hc)) (hlink c hc)
  · exact ⟨_, _, rfl, .foreignKey _ _ _⟩

end Remedy

end NormalForms
