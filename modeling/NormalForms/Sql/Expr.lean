import NormalForms.Sql.DataType
import NormalForms.Sql.Token

/-!
# Expressions

The expressions of defaults, checks and keys. Columns, literals, operators,
casts and calls are told apart; every other form is a phrase, that is pieces of
text with expressions between them. `render` writes an expression with single
spaces around its operators and keeps the parentheses it was written with.
`column?` is the column that an expression merely wraps, and `mentioned` lists
the columns that occur anywhere in it, each where it is first met and in the
case it has there.
-/

namespace NormalForms.Sql

/-! ## Literals -/

inductive Literal where
  | number (text : String)
  | string (quoting : Quoting) (text : String)
  | placeholder (text : String)
  | bool (value : Bool)
  | null
  deriving DecidableEq, Repr

def escapeCode (c : Char) : List Char :=
  match c with
  | '\'' => ['\\', '\'']
  | '\\' => ['\\', '\\']
  | '\n' => ['\\', 'n']
  | '\t' => ['\\', 't']
  | '\r' => ['\\', 'r']
  | c => [c]

def hexDigits (width n : Nat) : List Char :=
  let digits := (Nat.toDigits 16 n).map Char.toUpper
  List.replicate (width - digits.length) '0' ++ digits

def codePoint (c : Char) : List Char :=
  if c = '\'' then ['\'', '\'']
  else if c = '\\' then ['\\', '\\']
  else if c.toNat < 0x80 then [c]
  else if c.toNat ≤ 0xFFFF then '\\' :: hexDigits 4 c.toNat
  else '\\' :: '+' :: hexDigits 6 c.toNat

/-- A text as it stands between its quotes. -/
def Quoting.encode (text : String) : Quoting → String
  | single => Sql.escaped '\'' text
  | double => Sql.escaped '"' text
  | escaped => String.ofList (text.toList.flatMap escapeCode)
  | unicode => String.ofList (text.toList.flatMap codePoint)
  | _ => text

def Literal.render : Literal → String
  | number text => text
  | string quoting text => quoting.opening ++ quoting.encode text ++ quoting.closing
  | placeholder text => text
  | bool true => "true"
  | bool false => "false"
  | null => "NULL"

/-! ## Expressions -/

mutual

inductive Expr where
  | column (name : Name)
  | qualified (name : DottedName)
  | literal (value : Literal)
  | nested (inner : Expr)
  | unary (op : String) (operand : Expr)
  | binary (left : Expr) (op : String) (right : Expr)
  /-- A cast, with the text on each side of what it casts. -/
  | cast (lead : String) (operand : Expr) (tail : String)
  /-- An operand with a mark after it. -/
  | marked (operand : Expr) (mark : String)
  /-- A call, with all that stands after the name of the function. -/
  | call (function : DottedName) (rest : List Piece)
  /-- A part of a value, reached by fields and subscripts. -/
  | access (root : Expr) (path : List Piece)
  | phrase (pieces : List Piece)
  deriving Repr

/-- A piece of an expression: text, or an expression within it. -/
inductive Piece where
  | text (s : String)
  | part (e : Expr)
  /-- Pieces of which the later ones count as mentioned before the earlier ones. -/
  | swapped (earlier later : List Piece)
  deriving Repr

end

instance : Inhabited Expr := ⟨.phrase []⟩

instance : Coe String Piece := ⟨.text⟩

instance : Coe Expr Piece := ⟨.part⟩

namespace Piece

/-- Lists of pieces with `separator` between them. -/
def separated (separator : String) : List (List Piece) → List Piece
  | [] => []
  | [ps] => ps
  | ps :: rest => ps ++ .text separator :: separated separator rest

def listed (items : List (List Piece)) : List Piece := separated ", " items

def ofExprs (es : List Expr) : List Piece := listed (es.map fun e => [.part e])

end Piece

namespace Expr

mutual

def render : Expr → String
  | column name => name.render
  | qualified name => name.render
  | literal value => value.render
  | nested inner => "(" ++ inner.render ++ ")"
  | unary op operand => op ++ operand.render
  | binary left op right => left.render ++ " " ++ op ++ " " ++ right.render
  | cast lead operand tail => lead ++ operand.render ++ tail
  | marked operand mark => operand.render ++ mark
  | call function rest => function.render ++ renderPieces rest
  | access root path => root.render ++ renderPieces path
  | phrase pieces => renderPieces pieces
termination_by structural e => e

def renderPiece : Piece → String
  | .text s => s
  | .part e => e.render
  | .swapped earlier later => renderPieces earlier ++ renderPieces later
termination_by structural p => p

def renderPieces : List Piece → String
  | [] => ""
  | p :: ps => renderPiece p ++ renderPieces ps
termination_by structural ps => ps

end

/-! ## Columns -/

/-- The column that an expression is, but for parentheses and casts. -/
def column? : Expr → Option String
  | column name => some name.value
  | qualified name => name.parts.getLast?.map Name.value
  | nested inner => inner.column?
  | cast _ operand _ => operand.column?
  | _ => none

/-- Appends a name unless one that differs in case at most is there. -/
def note (names : List String) (name : String) : List String :=
  if names.any fun n => Text.lower n == Text.lower name then names else names ++ [name]

def noteLast (names : List String) (n : DottedName) : List String :=
  match n.parts.getLast? with
  | some name => note names name.value
  | none => names

mutual

/-- Adds to `names` the columns that occur in an expression. -/
def mentions (names : List String) : Expr → List String
  | column name => note names name.value
  | qualified name => noteLast names name
  | literal _ => names
  | nested inner => mentions names inner
  | unary _ operand => mentions names operand
  | binary left _ right => mentions (mentions names left) right
  | cast _ operand _ => mentions names operand
  | marked operand _ => mentions names operand
  | call _ rest => mentionsPieces names rest
  | access root path => mentionsPieces (mentions names root) path
  | phrase pieces => mentionsPieces names pieces
termination_by structural e => e

def mentionsPiece (names : List String) : Piece → List String
  | .text _ => names
  | .part e => mentions names e
  | .swapped earlier later => mentionsPieces (mentionsPieces names later) earlier
termination_by structural p => p

def mentionsPieces (names : List String) : List Piece → List String
  | [] => names
  | p :: ps => mentionsPieces (mentionsPiece names p) ps
termination_by structural ps => ps

end

/-- The columns that occur in an expression, without repetitions. -/
def mentioned (e : Expr) : List String := mentions [] e

end Expr

end NormalForms.Sql
