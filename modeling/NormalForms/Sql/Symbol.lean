import NormalForms.Sql.Lexicon

/-!
# Symbols

Where dialects let users define operators, most symbols made of operator
characters go on as long as such characters follow, and are then operators of
somebody's own. Reading takes the longest symbol that a text starts with;
`Symbol.all` lists longer symbols first.
-/

namespace NormalForms.Sql

/-- How a symbol may go on where operators are open. -/
inductive Growth where
  /-- It ends as it is spelled. -/
  | fixed
  /-- More operator characters make another operator of it. -/
  | growing
  /-- It needs more operator characters. -/
  | incomplete
  deriving DecidableEq, Repr

structure Symbol where
  spelling : String
  growth : Growth
  deriving DecidableEq, Repr

namespace Symbol

/-- Two symbols have a shown form that differs from the spelling. -/
def shown (s : Symbol) : String :=
  if s.spelling = "!=" then "<>" else if s.spelling = "<|" then "<<|" else s.spelling

/-- The characters of operators that users define. -/
def isOperatorPart (c : Char) : Bool := "+-*/<>=~!@#%^&|\x60?".toList.contains c

def ofSpellings (growth : Growth) (spellings : List String) : List Symbol :=
  spellings.map fun s => ⟨s, growth⟩

def ofFour : List Symbol := ofSpellings .fixed ["!~~*"]

def ofThree (l : Lexicon) : List Symbol :=
  ofSpellings .growing ["->>", "||/", "<=>", "#>>", "~~*"] ++ ofSpellings .fixed ["!~~", "!~*"] ++
  if l.openOperators then
    ofSpellings .growing ["|&>", "|>>", "<<|", "<->"] ++
      ofSpellings .fixed ["@-@", "?||", "?-|", "&<|"]
  else []

def ofTwo (l : Lexicon) : List Symbol :=
  ofSpellings .growing ["->", "||", "|/", "<=", "<>", "<<", "<@", ">=", ">>", "&&", "~*", "~~", "#-",
    "#>"] ++
  ofSpellings .fixed ["==", "=>", "!=", "!!", "!~", "::", ":=", "^@", "@>", "@?", "@@"] ++
  (if l.doubleSlash then ofSpellings .fixed ["//"] else []) ++
  if l.openOperators then
    ofSpellings .growing ["<|", "<^", ">^", "&<", "~=", "##"] ++
      ofSpellings .fixed ["&>", "?|", "?&", "?-", "?#"] ++
      ofSpellings .incomplete ["|&", "|>", "<-", "@-"]
  else []

def ofOne (l : Lexicon) : List Symbol :=
  ofSpellings .growing ["-", "%", "|", "<", ">", "&", "~", "#"] ++
  ofSpellings .fixed ["+", "*", "/", "=", "!", ":", "^", "@", ",", "(", ")", ";", "\\", "[", "]",
    "\x7b", "\x7d", "."] ++
  if l.openOperators then ofSpellings .fixed ["?"] else []

/-- The symbols of a lexicon, longer ones first. -/
def all (l : Lexicon) : List Symbol := ofFour ++ ofThree l ++ ofTwo l ++ ofOne l

end Symbol

end NormalForms.Sql
