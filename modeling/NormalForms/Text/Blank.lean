/-!
# Blank characters

`isBlank` is the Unicode property `White_Space`: twenty-five characters, the
line and page breaks and the no-break spaces among them. `trim` removes them
at both ends of a text, `trimEnd` at the end alone, and `firstWord` is what
stands before the first of them.
-/

namespace NormalForms.Text

def isBlank (c : Char) : Bool :=
  let n := c.toNat
  (9 ≤ n && n ≤ 13) || n == 0x20 || n == 0x85 || n == 0xA0 || n == 0x1680 ||
    (0x2000 ≤ n && n ≤ 0x200A) || n == 0x2028 || n == 0x2029 || n == 0x202F ||
    n == 0x205F || n == 0x3000

def trimStart (cs : List Char) : List Char := cs.dropWhile isBlank

def trimEnd (cs : List Char) : List Char := (cs.reverse.dropWhile isBlank).reverse

def trim (cs : List Char) : List Char := trimEnd (trimStart cs)

/-- The characters before the first blank. -/
def firstWord (cs : List Char) : List Char := cs.takeWhile fun c => !isBlank c

/-- `s` without the blanks at its ends. -/
def trimmed (s : String) : String := String.ofList (trim s.toList)

/-- No character of `s` is visible. -/
def isBlankText (s : String) : Bool := s.toList.all isBlank

/-! ## Facts -/

@[simp] theorem toList_trimmed (s : String) : (trimmed s).toList = trim s.toList := by
  simp [trimmed]

end NormalForms.Text
