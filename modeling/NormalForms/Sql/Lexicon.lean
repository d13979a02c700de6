import NormalForms.Dialect
import NormalForms.Text.Letter

/-!
# Lexicons

How a dialect forms words, which quotes it puts around names and texts, and
which comments, escapes and operators it knows.
-/

namespace NormalForms.Sql

structure Lexicon where
  wordStart : Char → Bool
  wordPart : Char → Bool
  /-- The characters that open a quoted name. -/
  nameQuotes : List Char
  /-- A letter before a quote makes bytes, raw text, escaped text, or text with
  code points. -/
  byteStrings : Bool := false
  rawStrings : Bool := false
  escapedStrings : Bool := false
  unicodeStrings : Bool := false
  /-- A backslash in a string takes the next character with it. -/
  backslashEscapes : Bool := false
  /-- A backslash before a wildcard of `LIKE` stays. -/
  keepsWildcardEscapes : Bool := false
  /-- A number sign starts a comment. -/
  hashComments : Bool := false
  /-- Two slashes start a comment. -/
  slashComments : Bool := false
  /-- Two dashes start a comment only before a space. -/
  spacedDashes : Bool := false
  /-- A comment to the end of the line may end at a carriage return too. -/
  returnEndsLine : Bool := false
  /-- Comments between slash and star may hold others. -/
  nestedComments : Bool := false
  /-- A word may start with digits. -/
  digitWords : Bool := false
  /-- An underscore may stand between the digits of a number. -/
  digitSeparators : Bool := false
  /-- A dollar sign starts a placeholder and never a text. -/
  dollarPlaceholders : Bool := false
  /-- Two slashes divide. -/
  doubleSlash : Bool := false
  /-- Users may define operators, and there are symbols for geometry. -/
  openOperators : Bool := false

def codeWithin (low high : Nat) (c : Char) : Bool := low ≤ c.toNat && c.toNat ≤ high

def isAscii (c : Char) : Bool := c.toNat < 0x80

end NormalForms.Sql

namespace NormalForms.Dialect

open Sql Text

/-- The characters that may start a word. -/
def startsWord : Dialect → Char → Bool
  | generic, c | msSql, c => isLetter c || c == '_' || c == '#' || c == '@'
  | mySql, c => isLetter c || c == '_' || c == '$' || c == '@' || !isAscii c
  | postgreSql, c => isLetter c || c == '_' || !isAscii c
  | sqlite, c => c.isAlpha || c == '_' || codeWithin 0x7F 0xFFFF c
  | ansi, c => c.isAlpha
  | snowflake, c => c.isAlpha || c == '_'
  | duckDb, c => isLetter c || c == '_'

/-- The characters that may follow in a word. -/
def continuesWord : Dialect → Char → Bool
  | generic, c | msSql, c =>
    isLetter c || c.isDigit || c == '@' || c == '$' || c == '#' || c == '_'
  | mySql, c => startsWord mySql c || c.isDigit
  | postgreSql, c => isLetter c || c.isDigit || c == '$' || c == '_' || !isAscii c
  | sqlite, c => startsWord sqlite c || c.isDigit
  | ansi, c => c.isAlpha || c.isDigit || c == '_'
  | snowflake, c => c.isAlpha || c.isDigit || c == '$' || c == '_'
  | duckDb, c => isLetter c || c.isDigit || c == '$' || c == '_'

def nameQuotes : Dialect → List Char
  | generic | ansi | snowflake | duckDb => ['"', '\x60']
  | mySql => ['\x60']
  | postgreSql => ['"']
  | msSql => ['"', '[']
  | sqlite => ['"', '\x60', '[']

def lexicon (d : Dialect) : Lexicon where
  wordStart := startsWord d
  wordPart := continuesWord d
  nameQuotes := nameQuotes d
  byteStrings := d == generic || d == mySql || d == postgreSql
  rawStrings := d == generic
  escapedStrings := d == generic || d == postgreSql
  unicodeStrings := d == generic || d == postgreSql
  backslashEscapes := d == mySql || d == snowflake
  keepsWildcardEscapes := d == mySql
  hashComments := d == mySql || d == snowflake
  slashComments := d == snowflake
  spacedDashes := d == mySql
  returnEndsLine := d == postgreSql
  nestedComments := d == generic || d == postgreSql || d == msSql
  digitWords := d == mySql
  digitSeparators := d == postgreSql
  dollarPlaceholders := d == sqlite
  doubleSlash := d == generic || d == duckDb
  openOperators := d == postgreSql

end NormalForms.Dialect
