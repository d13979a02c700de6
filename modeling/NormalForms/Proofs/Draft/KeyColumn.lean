import Mathlib.Data.List.Forall2
import Mathlib.Data.List.TakeWhile
import NormalForms.Proofs.Identifier.Quoting
import NormalForms.Proofs.Schema.Invariant

/-!
# Reading key columns back

A clause names the columns of a key as it spells them, perhaps with an order after
each. Of a name between quotes, `keyColumn` reads what stands before the first
closing quote, and of any other the first word. So a name comes back as it was
written, whatever order follows, unless it holds the quote that closes it: that
is written twice, and ends the name all the same. A clause thus finds the columns
that it names if it spells them as their definitions do, and no name among them
holds its closing quote (`Name.IsLegible`).
-/

namespace NormalForms

open Identifier Text Script Sql

namespace Identifier

/-! ## Words -/

/-- The text that follows a name starts with a blank, if there is any. -/
def StartsBlank (cs : List Char) : Prop := ∀ c ∈ cs.head?, isBlank c = true

/-- The orders of a column of a key: none, ascending and descending. -/
def orders : List String := ["", " ASC", " DESC"]

theorem startsBlank_of_mem_orders {order : String} (h : order ∈ orders) :
    StartsBlank order.toList := by
  simp only [orders, List.mem_cons, List.not_mem_nil, or_false] at h
  rcases h with rfl | rfl | rfl <;> simp [StartsBlank, isBlank]

theorem firstWord_append {word cs : List Char} (hword : ∀ c ∈ word, isBlank c = false)
    (hcs : StartsBlank cs) : firstWord (word ++ cs) = word := by
  have hnone : cs.takeWhile (fun c => !isBlank c) = [] := by
    cases cs with
    | nil => rfl
    | cons c cs => simp [hcs c rfl]
  rw [firstWord, List.takeWhile_append_of_pos fun c hc => by rw [hword c hc]; rfl, hnone,
    List.append_nil]

/-- Blanks at the end are in no word. -/
theorem firstWord_trimEnd (cs : List Char) : firstWord (trimEnd cs) = firstWord cs := by
  induction cs with
  | nil => rfl
  | cons c cs ih =>
    cases hc : isBlank c with
    | false =>
      rw [trimEnd_cons_visible hc, firstWord, firstWord, List.takeWhile_cons_of_pos (by simp [hc]),
        List.takeWhile_cons_of_pos (by simp [hc])]
      exact congrArg (c :: ·) ih
    | true =>
      have hcons : trimEnd (c :: cs) = [] ∨ trimEnd (c :: cs) = c :: trimEnd cs := by
        by_cases hcs : trimEnd cs = []
        · left
          rw [← List.singleton_append, trimEnd_append_of_eq_nil hcs, trimEnd]
          simp [hc]
        · exact .inr (@trimEnd_append_of_ne_nil [c] cs hcs)
      have hnone : ∀ ds, firstWord (c :: ds) = [] := fun ds =>
        List.takeWhile_cons_of_neg (by simp [hc])
      rw [hnone]
      rcases hcons with he | he <;> rw [he]
      · rfl
      · exact hnone _

/-- **A word is read back.** -/
theorem leadingName_word {word cs : List Char} (hne : word ≠ [])
    (hword : ∀ c ∈ word, isBlank c = false) (hopen : ∀ c ∈ word.head?, closer? c = none)
    (hcs : StartsBlank cs) : leadingName (trim (word ++ cs)) = word := by
  obtain ⟨c, word, rfl⟩ := List.exists_cons_of_ne_nil hne
  have hc := hword c List.mem_cons_self
  have hstart : trimStart (c :: word ++ cs) = c :: (word ++ cs) := by
    rw [trimStart, List.cons_append, List.dropWhile_cons_of_neg (by simp [hc])]
  rw [trim, hstart, trimEnd_cons_visible hc, leadingName, hopen c rfl]
  dsimp only
  rw [← trimEnd_cons_visible hc, firstWord_trimEnd]
  exact firstWord_append hword hcs

/-! ## Names between quotes -/

/-- What stands before the first `close`. -/
def before (close : Char) (cs : List Char) : List Char := cs.takeWhile (· != close)

theorem before_append_cons (close : Char) (cs ds : List Char) :
    before close (cs ++ close :: ds) = before close cs := by
  induction cs with
  | nil => simp [before]
  | cons c cs ih =>
    unfold before at ih ⊢
    rw [List.cons_append, List.takeWhile_cons, List.takeWhile_cons, ih]

theorem before_eq_self_iff {close : Char} {cs : List Char} :
    before close cs = cs ↔ close ∉ cs := by
  rw [before, List.takeWhile_eq_self_iff]
  constructor
  · intro h hmem
    exact absurd (h close hmem) (by simp)
  · intro h c hc
    exact bne_iff_ne.2 fun he => h (he ▸ hc)

theorem before_escape (cs : List Char) : before '"' (escape cs) = before '"' cs := by
  induction cs with
  | nil => rfl
  | cons c cs ih =>
    unfold before at ih ⊢
    by_cases hc : c = '"'
    · subst hc
      simp [escape_cons_quote]
    · simp [escape_cons_of_ne hc, hc, ih]

/-- A quote in a text is written twice at most: the first one stays the first. -/
theorem before_escapedAfter (q : Char) (previous : Option Char) (cs : List Char) :
    before q (escapedAfter q previous cs) = before q cs := by
  induction cs generalizing previous with
  | nil => rfl
  | cons c cs ih =>
    by_cases hc : c = q
    · subst hc
      have hhead : ∃ ds, escapedAfter c previous (c :: cs) = c :: ds := by
        rw [escapedAfter.eq_def]
        dsimp only
        rw [if_pos rfl]
        split
        · exact ⟨_, rfl⟩
        · split
          · exact ⟨_, rfl⟩
          · split
            · exact ⟨_, rfl⟩
            · exact ⟨_, rfl⟩
      obtain ⟨ds, hds⟩ := hhead
      rw [hds]
      simp [before]
    · have hstep : escapedAfter q previous (c :: cs) = c :: escapedAfter q (some c) cs := by
        rw [escapedAfter.eq_def]
        dsimp only
        rw [if_neg hc]
      have hcons : ∀ ds, before q (c :: ds) = c :: before q ds := fun ds =>
        List.takeWhile_cons_of_pos (bne_iff_ne.2 hc)
      rw [hstep, hcons, hcons, ih]

theorem closer?_eq_some {q close : Char} (h : closer? q = some close) :
    (q = '[' ∧ close = ']') ∨ (q ≠ '[' ∧ close = q ∧ isBlank q = false) := by
  unfold closer? at h
  split at h
  · rename_i hq
    cases h
    exact .inr ⟨by rw [hq]; decide, hq.symm, by rw [hq]; rfl⟩
  · split at h
    · rename_i hq
      cases h
      exact .inr ⟨by rw [hq]; decide, hq.symm, by rw [hq]; rfl⟩
    · split at h
      · rename_i hq
        cases h
        exact .inl ⟨hq, rfl⟩
      · cases h

theorem isBlank_of_closer? {q close : Char} (h : closer? q = some close) :
    isBlank q = false ∧ isBlank close = false := by
  rcases closer?_eq_some h with ⟨rfl, rfl⟩ | ⟨-, rfl, hq⟩
  · exact ⟨rfl, rfl⟩
  · exact ⟨hq, hq⟩

/-- **Of a name between quotes** there is read what stands before the first of the
quotes that close it. -/
theorem leadingName_quoted {q close : Char} (h : closer? q = some close) (body cs : List Char) :
    leadingName (trim (q :: (body ++ close :: cs))) = before close body := by
  obtain ⟨hq, hclose⟩ := isBlank_of_closer? h
  have hstart : trimStart (q :: (body ++ close :: cs)) = q :: (body ++ close :: cs) :=
    List.dropWhile_cons_of_neg (by simp [hq])
  have hend : trimEnd (body ++ close :: cs) = body ++ close :: trimEnd cs := by
    have hvisible := trimEnd_cons_visible hclose cs
    rw [trimEnd_append_of_ne_nil (by rw [hvisible]; exact List.cons_ne_nil _ _), hvisible]
  rw [trim, hstart, trimEnd_cons_visible hq, hend, leadingName, h]
  dsimp only
  rw [if_pos (by simp)]
  exact before_append_cons close body _

/-! ## Names as `quote` writes them -/

/-- **Of a name that `quote` has written** there is read what stands before its
first double quote, whatever order follows. -/
theorem keyColumn_quote_append {n order : String} (h : HasNoBreak n.toList)
    (horder : order ∈ orders) :
    keyColumn (quote n ++ order) = String.ofList (before '"' n.toList) := by
  rw [keyColumn, String.toList_append, toList_quote]
  congr 1
  cases hplain : isPlain n.toList with
  | true =>
    have hpart := List.all_eq_true.1 (all_isPlainPart_of_isPlain hplain)
    have hquote : '"' ∉ n.toList := fun hmem => absurd (hpart _ hmem) (by decide)
    rw [quoted_of_isPlain hplain, before_eq_self_iff.2 hquote]
    refine leadingName_word ?_ (fun c hc => isBlank_of_isPlainPart (hpart c hc)) ?_
      (startsBlank_of_mem_orders horder)
    · intro hnil
      rw [hnil] at hplain
      cases hplain
    · intro c hc
      have hp := hpart c (List.mem_of_mem_head? hc)
      unfold closer?
      rw [if_neg, if_neg, if_neg] <;> rintro rfl <;> exact absurd hp (by decide)
  | false =>
    have hquoted : quoted n.toList ++ order.toList =
        '"' :: (escape n.toList ++ '"' :: order.toList) := by
      simp [quoted, hplain, map_breakToSpace_eq_self h]
    rw [hquoted, leadingName_quoted rfl, before_escape]

end Identifier

/-! ## Names as statements spell them -/

/-- The name does not end before its end: a word has no blank in it and no quote
in front, and a name between quotes does not hold the quote that closes it. -/
inductive Sql.Name.IsLegible : Name → Prop
  | word {value : String} (visible : value ≠ "") (solid : ∀ c ∈ value.toList, isBlank c = false)
      (unopened : ∀ c ∈ value.toList.head?, closer? c = none) : IsLegible ⟨value, none⟩
  | quoted {value : String} {q close : Char} (closed : closer? q = some close)
      (unclosed : close ∉ value.toList) : IsLegible ⟨value, some q⟩

namespace Sql.Name

theorem exists_toList_render {value : String} {q close : Char} (h : closer? q = some close) :
    ∃ body, (render ⟨value, some q⟩).toList = q :: (body ++ [close]) ∧
      before close body = before close value.toList := by
  rcases closer?_eq_some h with ⟨rfl, rfl⟩ | ⟨hq, rfl, -⟩
  · exact ⟨value.toList, by simp [render], rfl⟩
  · exact ⟨escapedAfter close none value.toList, by simp [render, hq, escaped],
      before_escapedAfter close none _⟩

theorem keyColumn_render_quoted {value : String} {q close : Char} (h : closer? q = some close)
    (order : String) :
    keyColumn (render ⟨value, some q⟩ ++ order) = String.ofList (before close value.toList) := by
  obtain ⟨body, hrender, hbody⟩ := exists_toList_render h
  rw [keyColumn, String.toList_append, hrender, List.cons_append, List.append_assoc,
    List.singleton_append, leadingName_quoted h, hbody]

/-- **A legible name is read back**, whatever order follows. -/
theorem IsLegible.keyColumn_render {n : Name} (h : n.IsLegible) {order : String}
    (horder : order ∈ orders) : keyColumn (n.render ++ order) = n.value := by
  cases h with
  | @word value visible solid unopened =>
    have hne : value.toList ≠ [] := by simpa using visible
    have hrender : render ⟨value, none⟩ = value := rfl
    rw [hrender, keyColumn, String.toList_append,
      leadingName_word hne solid unopened (startsBlank_of_mem_orders horder),
      String.ofList_toList]
  | quoted closed unclosed =>
    rw [keyColumn_render_quoted closed, before_eq_self_iff.2 unclosed, String.ofList_toList]

end Sql.Name

namespace Draft

/-! ## Keys on columns -/

/-- The column of a key is spelled as the name is, with an order after it perhaps. -/
def Spells (k : KeyColumn) (n : Name) : Prop := ∃ order ∈ orders, k.render = n.render ++ order

/-- The clause declares a key of the columns of these names. -/
inductive IsKeyOn (names : List Name) : TableConstraint → Prop
  | primaryKey {name : Option Name} {columns : List KeyColumn}
      (spelled : List.Forall₂ Spells columns names) : IsKeyOn names (.primaryKey name columns)
  | unique {name : Option Name} {columns : List KeyColumn}
      (spelled : List.Forall₂ Spells columns names) : IsKeyOn names (.unique name columns)
  | foreignKey {name : Option Name} {target : DottedName} {targetColumns : List Name} :
      IsKeyOn names (.foreignKey name names target targetColumns)

theorem keyColumnsOf_eq {columns : List KeyColumn} {names : List Name}
    (h : List.Forall₂ Spells columns names) (hnames : ∀ n ∈ names, n.IsLegible) :
    keyColumnsOf columns = names.map Name.value := by
  induction h with
  | nil => rfl
  | @cons k n ks ns hk _ ih =>
    obtain ⟨hn, hns⟩ := List.forall_mem_cons.1 hnames
    obtain ⟨order, horder, hrender⟩ := hk
    rw [keyColumnsOf, List.map_cons, List.map_cons, hrender, hn.keyColumn_render horder]
    exact congrArg (n.value :: ·) (ih hns)

theorem columnsOf_eq {names : List Name} (hnames : ∀ n ∈ names, n.IsLegible) :
    columnsOf names = names.map Name.value := by
  refine List.map_congr_left fun n hn => ?_
  have hread : keyColumn (n.render ++ "") = n.value :=
    (hnames n hn).keyColumn_render List.mem_cons_self
  rwa [String.append_empty] at hread

theorem IsKeyOn.exists_constraint {names : List Name} {clause : TableConstraint}
    (h : IsKeyOn names clause) (hnames : ∀ n ∈ names, n.IsLegible) (t : Table) :
    ∃ con, tableConstraint? t clause = some con ∧ con.columns = names.map Name.value := by
  cases h with
  | primaryKey spelled => exact ⟨_, rfl, keyColumnsOf_eq spelled hnames⟩
  | unique spelled => exact ⟨_, rfl, keyColumnsOf_eq spelled hnames⟩
  | foreignKey => exact ⟨_, rfl, columnsOf_eq hnames⟩

/-- **Key columns are read back as they were written**, but for a quote in a name: of
what `quote` writes there is read what stands before the first double quote. So a
key of legible names leads to the columns that are defined by them. -/
theorem keyColumns_read_back {n order : String} (hn : HasNoBreak n.toList)
    (horder : order ∈ orders) :
    keyColumn (quote n ++ order) = String.ofList (before '"' n.toList) ∧
    (keyColumn (quote n ++ order) = n ↔ '"' ∉ n.toList) ∧
    ∀ (p : Progress) (clause : TableConstraint) (ds : List ColumnDefinition), p.1.WellFormed →
      (∀ d ∈ ds, columnOf d ∈ p.1.columns ∧ d.name.IsLegible) →
      IsKeyOn (ds.map ColumnDefinition.name) clause →
      ∃ con, addTableConstraint p clause = addConstraint p con ∧
        List.Forall₂ (fun column d => p.1.column? column = some (columnOf d)) con.columns ds := by
  have hread := keyColumn_quote_append hn horder
  refine ⟨hread, ?_, fun p clause ds hp hds hclause => ?_⟩
  · rw [hread, ← String.toList_inj, String.toList_ofList, before_eq_self_iff]
  · have hnames : ∀ n ∈ ds.map ColumnDefinition.name, n.IsLegible :=
      List.forall_mem_map.2 fun d hd => (hds d hd).2
    obtain ⟨con, hcon, hcolumns⟩ := hclause.exists_constraint hnames p.1
    refine ⟨con, by rw [addTableConstraint, hcon], ?_⟩
    rw [hcolumns, List.map_map, List.forall₂_map_left_iff, List.forall₂_same]
    intro d hd
    have hfound : p.1.column? (columnOf d).name = some (columnOf d) :=
      hp.column?_name (hds d hd).1
    exact hfound

/-- The items of an order, one name of which is written with brackets. -/
def orderItems : CreateTable where
  name := ⟨[⟨"order items", some '\x60'⟩]⟩
  columns := [{ name := ⟨"order id", some '['⟩, type := .plain "INT" },
    { name := ⟨"pos", none⟩, type := .plain "INT" }]
  constraints := []

theorem keyColumns_read_back_orderItems :
    let p := tableOf orderItems
    let clause := TableConstraint.primaryKey none
      [{ expr := .column ⟨"order id", some '['⟩, order := " DESC" }, { expr := .column ⟨"pos", none⟩ }]
    (HasNoBreak "Order Id".toList ∧ " DESC" ∈ orders ∧ p.1.WellFormed ∧
      (∀ d ∈ orderItems.columns, columnOf d ∈ p.1.columns ∧ d.name.IsLegible) ∧
      IsKeyOn (orderItems.columns.map ColumnDefinition.name) clause) ∧
    (keyColumn (quote "Order Id" ++ " DESC") = "Order Id" ∧
      ∃ con, addTableConstraint p clause = addConstraint p con ∧
        List.Forall₂ (fun column d => p.1.column? column = some (columnOf d)) con.columns
          orderItems.columns) := by
  intro p clause
  have hn : HasNoBreak "Order Id".toList := by decide +kernel
  have horder : " DESC" ∈ orders := by decide
  have hp : p.1.WellFormed := wellFormed_tableOf orderItems
  have hds : ∀ d ∈ orderItems.columns, columnOf d ∈ p.1.columns ∧ d.name.IsLegible := by
    have hcolumns : ∀ d ∈ orderItems.columns, columnOf d ∈ p.1.columns := by decide +kernel
    refine fun d hd => ⟨hcolumns d hd, ?_⟩
    simp only [orderItems, List.mem_cons, List.not_mem_nil, or_false] at hd
    rcases hd with rfl | rfl
    · exact .quoted rfl (by decide +kernel)
    · exact .word (by decide) (by simp [isBlank]) (by simp [closer?])
  have hclause : IsKeyOn (orderItems.columns.map ColumnDefinition.name) clause :=
    .primaryKey (.cons ⟨" DESC", by decide, by decide +kernel⟩
      (.cons ⟨"", by decide, by decide +kernel⟩ .nil))
  obtain ⟨-, hwhole, hkeys⟩ := keyColumns_read_back hn horder
  exact ⟨⟨hn, horder, hp, hds, hclause⟩, hwhole.2 (by decide),
    hkeys p clause orderItems.columns hp hds hclause⟩

/-- A table whose key column has a double quote in its name. -/
def inches : CreateTable where
  name := ⟨[⟨"t", none⟩]⟩
  columns := [{ name := ⟨"a\"b", some '"'⟩, type := .plain "INT" }]
  constraints := [.primaryKey none [{ expr := .column ⟨"a\"b", some '"'⟩ }]]

/-- **A name is cut at its double quote**, and the key of that name finds no column. -/
theorem exists_key_cut :
    HasNoBreak "a\"b".toList ∧ keyColumn (quote "a\"b" ++ "") = "a" ∧
      (tableOf inches).1.columns.map Column.name = ["a\"b"] ∧
      (tableOf inches).1.keyNames = ["a"] ∧ (tableOf inches).1.keyColumns = [] := by
  decide +kernel

end Draft

end NormalForms
