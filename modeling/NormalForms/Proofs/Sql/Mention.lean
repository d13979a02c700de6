import NormalForms.Proofs.List.FirstOccurrence
import NormalForms.Sql.Expr

/-!
# What an expression mentions

`Expr.names` are the names of all columns that occur in an expression, as often as
they do and in the order in which it is gone through: from left to right, but for
the pieces that are swapped. They are the names of the columns among the expressions
within it, each of which stands before its own parts (`names_eq`).

What `mentioned` collects are these names, each in the case in which it comes first
(`mentioned_eq_firstsBy`). So every name is there up to its case, and no two differ in
case alone.
-/

namespace NormalForms.Sql.Expr

open Text

/-! ## Names in order -/

mutual

/-- The columns that occur in an expression, in the order in which they are met. -/
def names : Expr → List String
  | column name => [name.value]
  | qualified name => (name.parts.getLast?.map Name.value).toList
  | literal _ => []
  | nested inner => names inner
  | unary _ operand => names operand
  | binary left _ right => names left ++ names right
  | cast _ operand _ => names operand
  | marked operand _ => names operand
  | call _ rest => namesPieces rest
  | access root path => names root ++ namesPieces path
  | phrase pieces => namesPieces pieces
termination_by structural e => e

def namesPiece : Piece → List String
  | .text _ => []
  | .part e => names e
  | .swapped earlier later => namesPieces later ++ namesPieces earlier
termination_by structural p => p

def namesPieces : List Piece → List String
  | [] => []
  | p :: ps => namesPiece p ++ namesPieces ps
termination_by structural ps => ps

end

theorem noteLast_eq (seen : List String) (name : DottedName) :
    noteLast seen name = (names (qualified name)).foldl note seen := by
  unfold noteLast names
  cases name.parts.getLast? <;> rfl

mutual

/-- Going through an expression notes its names one after the other. -/
theorem mentions_eq (seen : List String) (e : Expr) :
    mentions seen e = (names e).foldl note seen := by
  cases e with
  | column name => rfl
  | qualified name => exact noteLast_eq seen name
  | literal value => rfl
  | nested inner => exact mentions_eq seen inner
  | unary op operand => exact mentions_eq seen operand
  | binary left op right =>
    rw [mentions, mentions_eq seen left, mentions_eq _ right, names, List.foldl_append]
  | cast lead operand tail => exact mentions_eq seen operand
  | marked operand mark => exact mentions_eq seen operand
  | call function rest => exact mentionsPieces_eq seen rest
  | access root path =>
    rw [mentions, mentions_eq seen root, mentionsPieces_eq _ path, names, List.foldl_append]
  | phrase pieces => exact mentionsPieces_eq seen pieces
termination_by structural e

theorem mentionsPiece_eq (seen : List String) (p : Piece) :
    mentionsPiece seen p = (namesPiece p).foldl note seen := by
  cases p with
  | text s => rfl
  | part e => exact mentions_eq seen e
  | swapped earlier later =>
    rw [mentionsPiece, mentionsPieces_eq seen later, mentionsPieces_eq _ earlier, namesPiece,
      List.foldl_append]
termination_by structural p

theorem mentionsPieces_eq (seen : List String) (ps : List Piece) :
    mentionsPieces seen ps = (namesPieces ps).foldl note seen := by
  cases ps with
  | nil => rfl
  | cons p ps =>
    rw [mentionsPieces, mentionsPiece_eq seen p, mentionsPieces_eq _ ps, namesPieces,
      List.foldl_append]
termination_by structural ps

end

/-- **What is mentioned** are the names of the expression, noted in order. -/
theorem mentioned_eq (e : Expr) : e.mentioned = e.names.foldl note [] := mentions_eq [] e

/-! ## Noting names -/

theorem note_of_seen {seen : List String} {name : String}
    (h : ∃ m ∈ seen, lower m = lower name) : note seen name = seen := by
  unfold note
  rw [if_pos (by simpa using h)]

theorem note_of_new {seen : List String} {name : String}
    (h : ∀ m ∈ seen, lower m ≠ lower name) : note seen name = seen ++ [name] := by
  unfold note
  rw [if_neg (by simpa using h)]

/-- A name is noted, or one that differs from it in case alone is there. -/
theorem note_cases (seen : List String) (name : String) :
    (∃ m ∈ seen, lower m = lower name) ∧ note seen name = seen ∨
      (∀ m ∈ seen, lower m ≠ lower name) ∧ note seen name = seen ++ [name] := by
  by_cases h : ∃ m ∈ seen, lower m = lower name
  · exact .inl ⟨h, note_of_seen h⟩
  · have hnew : ∀ m ∈ seen, lower m ≠ lower name := fun m hm he => h ⟨m, hm, he⟩
    exact .inr ⟨hnew, note_of_new hnew⟩

/-- **Names that are noted** one after the other are those that come first, up to their
case. -/
theorem foldl_note_eq (names : List String) : names.foldl note [] = firstsBy lower names := by
  induction names using List.reverseRecOn with
  | nil => rfl
  | append_singleton names name ih =>
    rw [List.foldl_append, ih]
    show note (firstsBy lower names) name = _
    rcases note_cases (firstsBy lower names) name with ⟨⟨m, hm, hlower⟩, he⟩ | ⟨hnew, he⟩
    · have hseen : lower name ∈ (firstsBy lower names).map lower := List.mem_map.2 ⟨m, hm, hlower⟩
      rw [he, firstsBy_append_of_mem (mem_map_firstsBy.1 hseen)]
    · have hfresh : lower name ∉ (firstsBy lower names).map lower := by
        intro hmem
        obtain ⟨m, hm, hlower⟩ := List.mem_map.1 hmem
        exact hnew m hm hlower
      rw [he, firstsBy_append_of_not_mem (mt mem_map_firstsBy.2 hfresh)]

/-! ## What is mentioned -/

variable {e : Expr} {m : String}

theorem mentioned_eq_firstsBy (e : Expr) : e.mentioned = firstsBy lower e.names := by
  rw [mentioned_eq, foldl_note_eq]

/-- What is mentioned is a name of the expression, as it is spelled there. -/
theorem mem_names_of_mem_mentioned (h : m ∈ e.mentioned) : m ∈ e.names := by
  rw [mentioned_eq_firstsBy] at h
  exact (firstsBy_sublist lower e.names).subset h

/-- **Every name is mentioned**, up to its case. -/
theorem exists_mem_mentioned (h : m ∈ e.names) : ∃ n ∈ e.mentioned, lower n = lower m := by
  rw [mentioned_eq_firstsBy]
  exact List.mem_map.1 (mem_map_firstsBy.2 (List.mem_map_of_mem h))

theorem pairwise_mentioned (e : Expr) :
    e.mentioned.Pairwise fun m n => lower m ≠ lower n := by
  rw [mentioned_eq_firstsBy]
  exact List.pairwise_map.1 (nodup_map_firstsBy lower e.names)

/-! ## Expressions within an expression -/

mutual

/-- The expressions that a piece consists of, in the order in which they are gone through. -/
def partsPiece : Piece → List Expr
  | .text _ => []
  | .part e => [e]
  | .swapped earlier later => partsPieces later ++ partsPieces earlier
termination_by structural p => p

def partsPieces : List Piece → List Expr
  | [] => []
  | p :: ps => partsPiece p ++ partsPieces ps
termination_by structural ps => ps

end

/-- The expressions directly within an expression, the left operand before the right one. -/
def parts : Expr → List Expr
  | column _ => []
  | qualified _ => []
  | literal _ => []
  | nested inner => [inner]
  | unary _ operand => [operand]
  | binary left _ right => [left, right]
  | cast _ operand _ => [operand]
  | marked operand _ => [operand]
  | call _ rest => partsPieces rest
  | access root path => root :: partsPieces path
  | phrase pieces => partsPieces pieces

mutual

/-- An expression and all expressions within it, each before its own parts. -/
def preorder : Expr → List Expr
  | column name => [column name]
  | qualified name => [qualified name]
  | literal value => [literal value]
  | nested inner => nested inner :: preorder inner
  | unary op operand => unary op operand :: preorder operand
  | binary left op right => binary left op right :: (preorder left ++ preorder right)
  | cast lead operand tail => cast lead operand tail :: preorder operand
  | marked operand mark => marked operand mark :: preorder operand
  | call function rest => call function rest :: preorderPieces rest
  | access root path => access root path :: (preorder root ++ preorderPieces path)
  | phrase pieces => phrase pieces :: preorderPieces pieces
termination_by structural e => e

def preorderPiece : Piece → List Expr
  | .text _ => []
  | .part e => preorder e
  | .swapped earlier later => preorderPieces later ++ preorderPieces earlier
termination_by structural p => p

def preorderPieces : List Piece → List Expr
  | [] => []
  | p :: ps => preorderPiece p ++ preorderPieces ps
termination_by structural ps => ps

end

mutual

theorem preorderPiece_eq (p : Piece) : preorderPiece p = (partsPiece p).flatMap preorder := by
  cases p with
  | text s => rfl
  | part e => exact (List.flatMap_singleton preorder e).symm
  | swapped earlier later =>
    rw [preorderPiece, preorderPieces_eq later, preorderPieces_eq earlier, partsPiece,
      List.flatMap_append]
termination_by structural p

theorem preorderPieces_eq (ps : List Piece) :
    preorderPieces ps = (partsPieces ps).flatMap preorder := by
  cases ps with
  | nil => rfl
  | cons p ps =>
    rw [preorderPieces, preorderPiece_eq p, preorderPieces_eq ps, partsPieces,
      List.flatMap_append]
termination_by structural ps

end

/-- **An expression comes first**, then what is within its parts, one after the other. -/
theorem preorder_eq (e : Expr) : e.preorder = e :: e.parts.flatMap preorder := by
  cases e with
  | column name => rfl
  | qualified name => rfl
  | literal value => rfl
  | nested inner => rw [preorder, parts, List.flatMap_singleton]
  | unary op operand => rw [preorder, parts, List.flatMap_singleton]
  | binary left op right =>
    rw [preorder, parts, List.flatMap_cons, List.flatMap_singleton]
  | cast lead operand tail => rw [preorder, parts, List.flatMap_singleton]
  | marked operand mark => rw [preorder, parts, List.flatMap_singleton]
  | call function rest => rw [preorder, preorderPieces_eq, parts]
  | access root path => rw [preorder, preorderPieces_eq, parts, List.flatMap_cons]
  | phrase pieces => rw [preorder, preorderPieces_eq, parts]

/-- The name of a column without its tables, if the expression is a column. -/
def ownName? : Expr → Option String
  | column name => some name.value
  | qualified name => name.parts.getLast?.map Name.value
  | _ => none

mutual

/-- The names of an expression are those of the columns within it. -/
theorem names_eq (e : Expr) : e.names = e.preorder.filterMap ownName? := by
  cases e with
  | column name => rfl
  | qualified name =>
    rw [preorder, List.filterMap_cons, names, ownName?, List.filterMap_nil]
    cases name.parts.getLast? <;> rfl
  | literal value => rfl
  | nested inner => exact names_eq inner
  | unary op operand => exact names_eq operand
  | binary left op right =>
    rw [names, names_eq left, names_eq right, ← List.filterMap_append]
    rfl
  | cast lead operand tail => exact names_eq operand
  | marked operand mark => exact names_eq operand
  | call function rest => exact namesPieces_eq rest
  | access root path =>
    rw [names, names_eq root, namesPieces_eq path, ← List.filterMap_append]
    rfl
  | phrase pieces => exact namesPieces_eq pieces
termination_by structural e

theorem namesPiece_eq (p : Piece) : namesPiece p = (preorderPiece p).filterMap ownName? := by
  cases p with
  | text s => rfl
  | part e => exact names_eq e
  | swapped earlier later =>
    rw [namesPiece, namesPieces_eq later, namesPieces_eq earlier, ← List.filterMap_append,
      preorderPiece]
termination_by structural p

theorem namesPieces_eq (ps : List Piece) :
    namesPieces ps = (preorderPieces ps).filterMap ownName? := by
  cases ps with
  | nil => rfl
  | cons p ps =>
    rw [namesPieces, namesPiece_eq p, namesPieces_eq ps, ← List.filterMap_append, preorderPieces]
termination_by structural ps

end

/-- **An expression mentions the columns within it**, each once up to its case and as it
is spelled where it comes first. -/
theorem mentioned_first_spellings (e : Expr) :
    e.preorder = e :: e.parts.flatMap preorder ∧
    e.mentioned = firstsBy lower (e.preorder.filterMap ownName?) ∧
    (e.mentioned.map lower).Nodup ∧
    (∀ k, k ∈ e.mentioned.map lower ↔
      ∃ x ∈ e.preorder, ∃ m, x.ownName? = some m ∧ lower m = k) ∧
    ∀ m, m ∈ e.mentioned ↔
      (e.preorder.filterMap ownName?).find? (fun n => lower n = lower m) = some m := by
  have hmentioned : e.mentioned = firstsBy lower (e.preorder.filterMap ownName?) := by
    rw [mentioned_eq_firstsBy, names_eq]
  refine ⟨preorder_eq e, hmentioned, ?_, fun k => ?_, fun m => ?_⟩
  · rw [hmentioned]
    exact nodup_map_firstsBy lower _
  · rw [hmentioned, mem_map_firstsBy, List.map_filterMap, List.mem_filterMap]
    simp only [Option.map_eq_some_iff]
  · rw [hmentioned]
    exact mem_firstsBy_iff

/-- The columns of `price > 0 AND (t.Price IS NULL OR tax < price)`. -/
example :
    let price : Expr := .column ⟨"price", none⟩
    let null : Expr := .marked (.qualified ⟨[⟨"t", none⟩, ⟨"Price", none⟩]⟩) " IS NULL"
    let positive : Expr := .binary price ">" (.literal (.number "0"))
    let small : Expr := .binary (.column ⟨"tax", none⟩) "<" price
    mentioned (.binary positive "AND" (.nested (.binary null "OR" small))) = ["price", "tax"] := by
  cbv

end NormalForms.Sql.Expr
