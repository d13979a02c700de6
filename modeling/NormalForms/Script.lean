import NormalForms.Text.Blank
import NormalForms.Text.Search

/-!
# Scripts

A script holds statements with semicolons between them. `segments` cuts it at
the semicolons that stand outside string literals, quoted names and comments;
`statements` trims the segments and drops the empty ones.

The scan is in one of four modes. A quote, a grave accent or an opening bracket
leads to `quoted`, until the character that closes it; `--` leads to
`lineComment`, until a line feed; a slash and a star lead to `blockComment`,
until a star and a slash.
-/

namespace NormalForms.Script

open Text

inductive Mode where
  | code
  | quoted (close : Char)
  | lineComment
  | blockComment
  deriving DecidableEq, Repr

/-- The mode that one character leads to from `code`. -/
def Mode.enter (c : Char) : Mode :=
  if c = '\'' ∨ c = '"' ∨ c = '\x60' then .quoted c
  else if c = '[' then .quoted ']'
  else .code

/-- The segments of what is left of a script, scanned from a mode. -/
def scan : Mode → List Char → List (List Char)
  | _, [] => [[]]
  | .code, '-' :: '-' :: cs => extend '-' (extend '-' (scan .lineComment cs))
  | .code, '/' :: '*' :: cs => extend '/' (extend '*' (scan .blockComment cs))
  | .code, ';' :: cs => [] :: scan .code cs
  | .code, c :: cs => extend c (scan (.enter c) cs)
  | .quoted q, c :: cs => extend c (scan (if c = q then .code else .quoted q) cs)
  | .lineComment, c :: cs => extend c (scan (if c = '\n' then .code else .lineComment) cs)
  | .blockComment, '*' :: '/' :: cs => extend '*' (extend '/' (scan .code cs))
  | .blockComment, c :: cs => extend c (scan .blockComment cs)

def segments (script : List Char) : List (List Char) := scan .code script

/-- The statements of a script, in order. -/
def statements (script : String) : List String :=
  (((segments script.toList).map trim).filter fun s => !s.isEmpty).map String.ofList

/-- One script from several texts, each closed by a semicolon on a line of its
own. -/
def combine (texts : List String) : String := String.join (texts.map (· ++ "\n;\n"))

/-! ## Facts -/

theorem scan_ne_nil (m : Mode) (cs : List Char) : scan m cs ≠ [] := by
  fun_cases scan m cs <;> simp [extend_ne_nil]

end NormalForms.Script
