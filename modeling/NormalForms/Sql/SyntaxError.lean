import NormalForms.Sql.Token

/-!
# Syntax errors

Why a text is not a statement. Its characters may make no tokens, for one of the
reasons of `LexicalFault`; some token may stand where another is wanted; a number
may not fit; expressions may nest too deep; and some forms have conditions of
their own.
-/

namespace NormalForms.Sql

/-- Why characters make no token. -/
inductive LexicalFault where
  | openString
  | openEscapedString
  | openUnicodeString
  | openName (close : Char)
  | openComment
  | openDollarString
  | openDollarTag
  | leadingUnderscore
  /-- An operator that cannot stand alone. -/
  | partialOperator (start : String)
  | hexDigit (c : Char)
  | missingHexDigit
  | noCharacter (code : Nat)
  deriving DecidableEq, Repr

def LexicalFault.text : LexicalFault → String
  | openString => "Unterminated string literal"
  | openEscapedString => "Unterminated encoded string literal"
  | openUnicodeString => "Unterminated unicode encoded string literal"
  | openName close => "Expected close delimiter '" ++ String.singleton close ++ "' before EOF."
  | openComment => "Unexpected EOF while in a multi-line comment"
  | openDollarString => "Unterminated dollar-quoted string"
  | openDollarTag => "Unterminated dollar-quoted, expected $"
  | leadingUnderscore => "Unexpected character '_'"
  | partialOperator start => "Expected a valid binary operator after '" ++ start ++ "'"
  | hexDigit c => "Invalid hex digit in escaped unicode string: " ++ String.singleton c
  | missingHexDigit => "Unexpected EOF while parsing hex digit in escaped unicode string."
  | noCharacter code =>
    "Invalid unicode character: " ++ String.ofList (Nat.toDigits 16 code)

/-- The name of a token for which there is no operator. -/
def Token.kind : Token → String
  | .word text quote =>
    "Word(Word \x7b value: \"" ++ text ++ "\", quote_style: " ++
      (if quote.isNone then "None" else "Some") ++ ", keyword: " ++ Keyword.ofText text ++ " \x7d)"
  | .symbol "<<" => "ShiftLeft"
  | .symbol ">>" => "ShiftRight"
  | .symbol "#" => "Sharp"
  | .symbol "&&" => "Overlap"
  | .symbol "^@" => "CaretAt"
  | .symbol "!" => "ExclamationMark"
  | .symbol "[" => "LBracket"
  | .symbol "@" => "AtSign"
  | t => t.text

inductive SyntaxError where
  | lexical (fault : LexicalFault) (position : Position)
  /-- Nothing is found at the end of the text. -/
  | unexpected (wanted : String) (found : Option Located)
  | notANumber (text kind reason : String) (start : Position)
  | noOperator (found : Located)
  /-- A condition of some form does not hold, perhaps at a place. -/
  | refused (reason : String) (position : Option Position)
  | tooDeep
  deriving DecidableEq, Repr

namespace SyntaxError

/-- The place of an error; nothing at the end of the text. -/
def place (p : Option Position) : String := (p.map Position.text).getD ""

def shown (t : Option Token) : String := (t.map Token.text).getD "EOF"

def mismatch (wanted : String) (found : Option Token) : String :=
  "Expected: " ++ wanted ++ ", found: " ++ shown found

def reason : SyntaxError → String
  | lexical fault position => fault.text ++ position.text
  | unexpected wanted found =>
    mismatch wanted (found.map Located.token) ++ place (found.map Located.position)
  | notANumber text kind reason start =>
    "Could not parse '" ++ text ++ "' as " ++ kind ++ ": " ++ reason ++ start.text
  | noOperator found =>
    "No infix parser for token " ++ found.token.kind ++ found.position.text
  | refused reason position => reason ++ place position
  | tooDeep => "recursion limit exceeded"

def message (e : SyntaxError) : String := "sql parser error: " ++ e.reason

end SyntaxError

end NormalForms.Sql
