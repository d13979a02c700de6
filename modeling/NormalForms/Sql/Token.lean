import NormalForms.Identifier
import NormalForms.Sql.Keyword

/-!
# Tokens

What the text of a statement is made of: words, quoted or not, numbers, text
literals, placeholders and symbols. Each token knows how it is shown in a
message, `Token.text`, and is located by the line and column of its first
character, both counted from one.
-/

namespace NormalForms.Sql

structure Position where
  line : Nat
  column : Nat
  deriving DecidableEq, Repr

namespace Position

def start : Position := ⟨1, 1⟩

/-- The position after a character. -/
def after (p : Position) (c : Char) : Position :=
  if c = '\n' then ⟨p.line + 1, 1⟩ else ⟨p.line, p.column + 1⟩

def text (p : Position) : String :=
  " at Line: " ++ p.line.repr ++ ", Column: " ++ p.column.repr

end Position

/-- How a text literal is quoted: by plain quotes, by a letter and a quote, or
between two equal tags of dollar signs. -/
inductive Quoting where
  | single
  | double
  | national
  | hex
  | bytes
  | doubleBytes
  | raw
  | doubleRaw
  | escaped
  | unicode
  | dollar (tag : String)
  deriving DecidableEq, Repr

namespace Quoting

def opening : Quoting → String
  | single => "'"
  | double => "\""
  | national => "N'"
  | hex => "X'"
  | bytes => "B'"
  | doubleBytes => "B\""
  | raw => "R'"
  | doubleRaw => "R\""
  | escaped => "E'"
  | unicode => "U&'"
  | dollar tag => "$" ++ tag ++ "$"

def closing : Quoting → String
  | double | doubleBytes | doubleRaw => "\""
  | dollar tag => "$" ++ tag ++ "$"
  | _ => "'"

end Quoting

inductive Token where
  | word (text : String) (quote : Option Char)
  /-- A number may end in a mark for long ones. -/
  | number (text : String) (isLong : Bool)
  | string (quoting : Quoting) (text : String)
  | placeholder (text : String)
  /-- An operator that only its user knows. -/
  | operator (text : String)
  /-- A symbol of the language, or a character that starts no other token. -/
  | symbol (text : String)
  deriving DecidableEq, Repr

namespace Token

def text : Token → String
  | word text none => text
  | word text (some q) =>
    String.singleton q ++ text ++ String.singleton ((Identifier.closer? q).getD q)
  | number text isLong => if isLong then text ++ "L" else text
  | string quoting text => quoting.opening ++ text ++ quoting.closing
  | placeholder text | operator text | symbol text => text

/-- The keyword that an unquoted word spells. -/
def capitals? : Token → Option String
  | word text none => some (Keyword.ofText text)
  | _ => none

/-- Is the token an unquoted word that spells the keyword, in whatever case? -/
def isKeyword (keyword : String) (t : Token) : Bool := t.capitals? == some keyword

def isAnyKeyword (keywords : List String) (t : Token) : Bool :=
  t.capitals?.any fun k => keywords.contains k

end Token

structure Located where
  token : Token
  position : Position
  deriving DecidableEq, Repr

end NormalForms.Sql
