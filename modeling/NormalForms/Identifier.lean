import NormalForms.Text.Blank
import NormalForms.Text.Line

/-!
# Identifiers

A name may be written with quotes around it: double quotes, grave accents, or
square brackets. `unquote` reads one pair of them off; `quote` writes a name so
that it is a single token on a single line. Two spellings name the same thing
when their `key`s agree: blanks and one pair of quotes around a name do not
count, and neither does the case of ASCII letters.
-/

namespace NormalForms.Identifier

open Text

/-- The character that ends a name opened by `c`. -/
def closer? (c : Char) : Option Char :=
  if c = '"' then some '"'
  else if c = '\x60' then some '\x60'
  else if c = '[' then some ']'
  else none

/-- The name between one matching pair of quotes; any other text as it is. -/
def bare : List Char → List Char
  | [] => []
  | c :: cs =>
    match closer? c with
    | some close => if cs.getLast? = some close then cs.dropLast else c :: cs
    | none => c :: cs

def unquote (s : String) : String := String.ofList (bare s.toList)

/-- Characters of a name that needs no quotes. -/
def isPlainPart (c : Char) : Bool := c.isAlphanum || c == '_'

/-- ASCII letters, digits and underscores, not led by a digit. -/
def isPlain : List Char → Bool
  | [] => false
  | c :: cs => (c.isAlpha || c == '_') && cs.all isPlainPart

/-- Each double quote written twice. -/
def escape (cs : List Char) : List Char := cs.flatMap fun c => if c = '"' then ['"', '"'] else [c]

/-- The characters of `quote`. -/
def quoted (cs : List Char) : List Char :=
  if isPlain cs then cs else '"' :: escape (cs.map breakToSpace) ++ ['"']

/-- A plain name as it is, any other between double quotes. -/
def quote (s : String) : String := String.ofList (quoted s.toList)

/-- What decides whether two spellings name the same thing. -/
def key (s : String) : String := lower (unquote (trimmed s))

def same (a b : String) : Bool := key a == key b

/-- Names written one after the other as quoted identifiers. -/
def quoteList (names : List String) : String := String.intercalate ", " (names.map quote)

/-! ## Facts -/

@[simp] theorem toList_unquote (s : String) : (unquote s).toList = bare s.toList := by
  simp [unquote]

@[simp] theorem toList_quote (s : String) : (quote s).toList = quoted s.toList := by
  simp [quote]

theorem same_iff {a b : String} : same a b = true ↔ key a = key b := by
  simp [same]

theorem same_refl (a : String) : same a a = true := same_iff.2 rfl

theorem same_symm {a b : String} (h : same a b = true) : same b a = true :=
  same_iff.2 (same_iff.1 h).symm

theorem same_trans {a b c : String} (h : same a b = true) (h' : same b c = true) :
    same a c = true :=
  same_iff.2 ((same_iff.1 h).trans (same_iff.1 h'))

theorem quoted_of_isPlain {cs : List Char} (h : isPlain cs = true) : quoted cs = cs := by
  simp [quoted, h]

end NormalForms.Identifier
