import NormalForms.Sql.Symbol
import NormalForms.Sql.SyntaxError

/-!
# From text to tokens

`Lexer.step` takes one token, one comment or one blank off a text. The pieces
it is made of each return what they read and what is left, or a fault with what
is left where it was noticed. `tokens` repeats the step and locates the tokens;
blanks and comments leave none.
-/

namespace NormalForms.Sql.Lexer

open Text

/-- What was read and what is left; a fault with what is left where it is. -/
abbrev Reading (α : Type) := Except (LexicalFault × List Char) (α × List Char)

def text (cs : List Char) : String := String.ofList cs

/-! ## Quoted texts -/

/-- A text up to its closing quote, in which a doubled quote stands for itself;
nothing if the quote is missing. -/
def quotedText (close : Char) : List Char → Option (List Char × List Char)
  | [] => none
  | c :: cs =>
    if c = close then
      match cs with
      | [] => some ([], [])
      | d :: ds =>
        if d = close then (quotedText close ds).map fun (body, rest) => (c :: body, rest)
        else some ([], d :: ds)
    else (quotedText close cs).map fun (body, rest) => (c :: body, rest)

def escaped (c : Char) : Char :=
  match c with
  | '0' => '\x00'
  | 'a' => '\x07'
  | 'b' => '\x08'
  | 'f' => '\x0c'
  | 'n' => '\n'
  | 'r' => '\r'
  | 't' => '\t'
  | 'Z' => '\x1a'
  | c => c

/-- As `quotedText`, where a backslash escapes the next character; before a
wildcard of `LIKE` it may stay. -/
def escapedText (keepsWildcards : Bool) (close : Char) :
    List Char → Option (List Char × List Char)
  | [] => none
  | ['\\'] => none
  | '\\' :: c :: cs =>
    (escapedText keepsWildcards close cs).map fun (body, rest) =>
      if keepsWildcards ∧ (c = '%' ∨ c = '_') then ('\\' :: c :: body, rest)
      else (escaped c :: body, rest)
  | c :: cs =>
    if c = close then
      match cs with
      | [] => some ([], [])
      | d :: ds =>
        if d = close then
          (escapedText keepsWildcards close ds).map fun (body, rest) => (c :: body, rest)
        else some ([], d :: ds)
    else (escapedText keepsWildcards close cs).map fun (body, rest) => (c :: body, rest)

def stringText (l : Lexicon) (escapes : Bool) (close : Char) (cs : List Char) :
    Option (List Char × List Char) :=
  if escapes then escapedText l.keepsWildcardEscapes close cs else quotedText close cs

def textUntil (mark : List Char) : List Char → Option (List Char × List Char)
  | [] => none
  | c :: cs =>
    if mark.isPrefixOf (c :: cs) then some ([], (c :: cs).drop mark.length)
    else (textUntil mark cs).map fun (body, rest) => (c :: body, rest)

/-! ## Code points in texts -/

def digitValue? (base : Nat) (c : Char) : Option Nat :=
  let value :=
    if c.isDigit then some (c.toNat - '0'.toNat)
    else if codeWithin 0x41 0x46 c then some (c.toNat - 'A'.toNat + 10)
    else if codeWithin 0x61 0x66 c then some (c.toNat - 'a'.toNat + 10)
    else none
  value.filter (· < base)

def isHexDigit (c : Char) : Bool := (digitValue? 16 c).isSome

def digitsUpTo (base : Nat) : Nat → List Char → Nat × Nat
  | 0, _ | _, [] => (0, 0)
  | n + 1, c :: cs =>
    match digitValue? base c with
    | some d =>
      let (value, count) := digitsUpTo base n cs
      (d * base ^ count + value, count + 1)
    | none => (0, 0)

def character? (code : Nat) : Option Char :=
  if code.isValidChar then some (Char.ofNat code) else none

def escapeCode? (cs : List Char) : Option (Char × List Char) :=
  let code (base most : Nat) (cs : List Char) (lowest : Nat) : Option (Char × List Char) :=
    let (value, count) := digitsUpTo base most cs
    if count < lowest then none else (character? value).map (·, cs.drop count)
  match cs with
  | [] => none
  | 'b' :: cs => some ('\x08', cs)
  | 'f' :: cs => some ('\x0c', cs)
  | 'n' :: cs => some ('\n', cs)
  | 'r' :: cs => some ('\r', cs)
  | 't' :: cs => some ('\t', cs)
  | 'u' :: cs => code 16 4 cs 4
  | 'U' :: cs => code 16 8 cs 8
  | 'x' :: cs =>
    if (digitsUpTo 16 2 cs).2 = 0 then some ('x', cs)
    else (code 16 2 cs 1).filter fun p => isAscii p.1
  | c :: cs =>
    if (digitValue? 8 c).isSome then
      let (value, count) := digitsUpTo 8 3 (c :: cs)
      (character? (value % 0x100)).bind fun d =>
        if isAscii d then some (d, (c :: cs).drop count) else none
    else some (c, cs)

/-- An escaped text after its opening quote, in at most `n` steps. -/
def escapedStringText : Nat → List Char → Option (List Char × List Char)
  | 0, _ | _, [] => none
  | n + 1, '\'' :: cs =>
    match cs with
    | '\'' :: cs =>
      (escapedStringText n cs).map fun (body, rest) => ('\'' :: body, rest)
    | cs => some ([], cs)
  | n + 1, '\\' :: cs =>
    match escapeCode? cs with
    | some (c, rest) =>
      if c = '\x00' then none
      else (escapedStringText n rest).map fun (body, rest) => (c :: body, rest)
    | none => none
  | n + 1, c :: cs => (escapedStringText n cs).map fun (body, rest) => (c :: body, rest)

/-- The character whose code is spelled by exactly `n` more digits after `value`. -/
def hexCode : Nat → Nat → List Char → Reading Char
  | 0, value, cs =>
    match character? value with
    | some c => .ok (c, cs)
    | none => .error (.noCharacter value, cs)
  | _ + 1, _, [] => .error (.missingHexDigit, [])
  | n + 1, value, c :: cs =>
    match digitValue? 16 c with
    | some d => hexCode n (16 * value + d) cs
    | none => .error (.hexDigit c, cs)

def unicodeStringText : Nat → List Char → Reading (List Char)
  | 0, _ | _, [] => .error (.openUnicodeString, [])
  | n + 1, '\'' :: cs =>
    match cs with
    | '\'' :: cs => (unicodeStringText n cs).map fun (body, rest) => ('\'' :: body, rest)
    | cs => .ok ([], cs)
  | n + 1, '\\' :: cs =>
    let code : Reading Char := match cs with
      | '\\' :: cs => .ok ('\\', cs)
      | '+' :: cs => hexCode 6 0 cs
      | cs => hexCode 4 0 cs
    code.bind fun (c, cs) => (unicodeStringText n cs).map fun (body, rest) => (c :: body, rest)
  | n + 1, c :: cs => (unicodeStringText n cs).map fun (body, rest) => (c :: body, rest)

/-! ## Comments -/

/-- What follows a comment of which `depth` comments around it are open. -/
def afterComment (nested : Bool) : Nat → List Char → Option (List Char)
  | _, [] => none
  | depth, '*' :: '/' :: cs =>
    match depth with
    | 0 => some cs
    | depth + 1 => afterComment nested depth cs
  | depth, '/' :: '*' :: cs =>
    if nested then afterComment nested (depth + 1) cs else afterComment nested depth ('*' :: cs)
  | depth, _ :: cs => afterComment nested depth cs

def afterLine (l : Lexicon) (cs : List Char) : List Char :=
  (cs.dropWhile fun c => c != '\n' && !(l.returnEndsLine && c == '\r')).drop 1

/-! ## Numbers -/

def digitRun (l : Lexicon) (isDigit : Char → Bool) : List Char → List Char
  | '_' :: cs =>
    if l.digitSeparators && cs.head?.any isHexDigit then '_' :: digitRun l isDigit cs else []
  | c :: cs => if isDigit c then c :: digitRun l isDigit cs else []
  | [] => []

def exponent (cs : List Char) : List Char :=
  match cs with
  | e :: cs =>
    if e = 'e' ∨ e = 'E' then
      let sign := (cs.take 1).filter fun c => c == '+' || c == '-'
      let digits := (cs.drop sign.length).takeWhile Char.isDigit
      if digits.isEmpty then [] else e :: sign ++ digits
    else []
  | [] => []

def mantissa (l : Lexicon) (cs : List Char) : List Char :=
  let whole := digitRun l Char.isDigit cs
  match cs.drop whole.length with
  | '.' :: cs => whole ++ '.' :: digitRun l Char.isDigit cs
  | _ => whole

def isWord : Option Token → Bool
  | some (.word _ _) => true
  | _ => false

def numberToken (digits rest : List Char) : Token × List Char :=
  match rest with
  | 'L' :: rest => (.number (text digits) true, rest)
  | rest => (.number (text digits) false, rest)

/-- The token at a digit or a period; `before` is the token that stands right
before it. -/
def number (l : Lexicon) (before : Option Token) (cs : List Char) : Token × List Char :=
  let digits := mantissa l cs
  let exp := exponent (cs.drop digits.length)
  let rest := cs.drop (digits.length + exp.length)
  match cs with
  | '0' :: 'x' :: cs =>
    let hex := digitRun l isHexDigit cs
    (.string .hex (text hex), cs.drop hex.length)
  | _ =>
    if digits = ['.'] ∨ digits.head? = some '.' ∧ l.digitWords ∧ isWord before then
      (.symbol ".", cs.drop 1)
    else if l.digitWords ∧ !(rest.head?.any fun c => c == 'e' || c == 'E') ∧ exp = [] ∧
        (rest.takeWhile l.wordPart) ≠ [] then
      (.word (text (digits ++ rest.takeWhile l.wordPart)) none, rest.dropWhile l.wordPart)
    else if l.digitWords ∧ before = some (.symbol ".") ∧
        (exp ≠ [] ∨ rest.head?.any fun c => c == 'e' || c == 'E') then
      (.word (text (digits ++ exp)) none, rest)
    else numberToken (digits ++ exp) rest

/-! ## One step -/

def closed (fault : LexicalFault) (noticed : List Char) (make : String → Token) :
    Option (List Char × List Char) → Reading (Option Token)
  | some (body, rest) => .ok (some (make (text body)), rest)
  | none => .error (fault, noticed)

def stringToken (l : Lexicon) (quoting : Quoting) (escapes : Bool) (cs : List Char) :
    Reading (Option Token) :=
  closed .openString cs (.string quoting)
    (stringText l escapes (cs.headD '\'') (cs.drop 1))

/-- A text literal that a letter and a quote start. -/
def letteredString? (l : Lexicon) : List Char → Option (Reading (Option Token))
  | c :: '\'' :: cs =>
    match c.toLower with
    | 'b' => if l.byteStrings then some (stringToken l .bytes false ('\'' :: cs)) else none
    | 'r' => if l.rawStrings then some (stringToken l .raw false ('\'' :: cs)) else none
    | 'n' => some (stringToken l .national l.backslashEscapes ('\'' :: cs))
    | 'x' => some (stringToken l .hex true ('\'' :: cs))
    | 'e' =>
      if l.escapedStrings then
        some (closed .openEscapedString (c :: '\'' :: cs) (.string .escaped)
          (escapedStringText cs.length cs))
      else none
    | _ => none
  | c :: '"' :: cs =>
    match c.toLower with
    | 'b' => if l.byteStrings then some (stringToken l .doubleBytes false ('"' :: cs)) else none
    | 'r' => if l.rawStrings then some (stringToken l .doubleRaw false ('"' :: cs)) else none
    | _ => none
  | c :: '&' :: '\'' :: cs =>
    if c.toLower = 'u' ∧ l.unicodeStrings then
      some ((unicodeStringText cs.length.succ cs).map fun (body, rest) =>
        (some (.string .unicode (text body)), rest))
    else none
  | _ => none

/-- What a dollar sign starts: a text between two marks of dollar signs, or a
placeholder. -/
def dollar (l : Lexicon) (cs : List Char) : Reading (Option Token) :=
  match l.dollarPlaceholders, cs with
  | false, '$' :: cs => closed .openDollarString [] (.string (.dollar "")) (textUntil ['$', '$'] cs)
  | _, cs =>
    let isTagPart (c : Char) :=
      isLetter c || c.isDigit || c == '_' || (l.dollarPlaceholders && c == '$')
    let tag := cs.takeWhile isTagPart
    match l.dollarPlaceholders, cs.dropWhile isTagPart with
    | false, '$' :: rest =>
      closed .openDollarTag [] (.string (.dollar (text tag)))
        (textUntil ('$' :: tag ++ ['$']) rest)
    | _, rest => .ok (some (.placeholder (text ('$' :: tag))), rest)

def word (l : Lexicon) (start cs : List Char) : Reading (Option Token) :=
  .ok (some (.word (text (start ++ cs.takeWhile l.wordPart)) none), cs.dropWhile l.wordPart)

/-- A word that starts with a number sign or an at sign, whatever comes next in
it, unless a symbol starts there. -/
def markedWord? (l : Lexicon) : List Char → Option (Reading (Option Token))
  | '#' :: c :: cs =>
    if !l.wordStart '#' || "-> ".toList.contains c then none else some (word l ['#', c] cs)
  | '@' :: '@' :: c :: cs =>
    if !l.wordStart '@' || c = ' ' then none else some (word l ['@', '@', c] cs)
  | '@' :: c :: cs =>
    if !l.wordStart '@' || "@>? '\"\x60".toList.contains c then none
    else some (word l ['@', c] cs)
  | _ => none

def symbol? (l : Lexicon) (cs : List Char) : Option (Reading (Option Token)) :=
  ((Symbol.all l).find? fun s => s.spelling.toList.isPrefixOf cs).map fun s =>
    let rest := cs.drop s.spelling.length
    let more := if l.openOperators && s.growth != .fixed then
      rest.takeWhile Symbol.isOperatorPart else []
    if !more.isEmpty then .ok (some (.operator (s.shown ++ text more)), rest.drop more.length)
    else if s.growth = .incomplete then .error (.partialOperator s.shown, rest)
    else .ok (some (.symbol s.shown), rest)

def comment? (l : Lexicon) : List Char → Option (Reading (Option Token))
  | '#' :: cs => if l.hashComments then some (.ok (none, afterLine l cs)) else none
  | '-' :: '-' :: cs =>
    if l.spacedDashes ∧ cs.head? ≠ some ' ' then none else some (.ok (none, afterLine l cs))
  | '/' :: '/' :: cs => if l.slashComments then some (.ok (none, afterLine l cs)) else none
  | '/' :: '*' :: cs =>
    some <| match afterComment l.nestedComments 0 cs with
      | some rest => .ok (none, rest)
      | none => .error (.openComment, [])
  | _ => none

/-- Takes what stands at `c` off the text; no token for a blank or a comment. -/
def step (l : Lexicon) (before : Option Token) (c : Char) (cs : List Char) :
    Reading (Option Token) :=
  if c = ' ' ∨ c = '\t' ∨ c = '\n' ∨ c = '\r' then .ok (none, cs)
  else match letteredString? l (c :: cs) with
  | some reading => reading
  | none =>
    if c ∈ l.nameQuotes then
      let close := (Identifier.closer? c).getD c
      closed (.openName close) (c :: cs) (.word · (some c)) (quotedText close cs)
    else if c = '\'' then stringToken l .single l.backslashEscapes (c :: cs)
    else if c = '"' then stringToken l .double l.backslashEscapes (c :: cs)
    else if c = '.' ∧ cs.head? = some '_' then
      if isWord before then .ok (some (.symbol "."), cs)
      else .error (.leadingUnderscore, c :: cs)
    else if c.isDigit ∨ c = '.' then
      .ok (some (number l before (c :: cs)).1, (number l before (c :: cs)).2)
    else match (comment? l (c :: cs)).or (markedWord? l (c :: cs)) with
    | some reading => reading
    | none =>
      if c = '?' ∧ !l.openOperators then
        .ok (some (.placeholder (text (c :: cs.takeWhile Char.isDigit))), cs.dropWhile Char.isDigit)
      else match symbol? l (c :: cs) with
      | some reading => reading
      | none =>
        if l.wordStart c then word l [c] cs
        else if c = '$' then dollar l cs
        else if isBlank c then .ok (none, cs)
        else .ok (some (.symbol (String.singleton c)), cs)

/-! ## The whole text -/

def advance (p : Position) (cs : List Char) (n : Nat) : Position :=
  (cs.take n).foldl Position.after p

/-- The tokens of a text that starts at a position, in at most `n` steps. -/
def run (l : Lexicon) : Nat → Option Token → Position → List Char →
    Except SyntaxError (List Located)
  | 0, _, _, _ | _, _, _, [] => .ok []
  | n + 1, before, p, c :: cs =>
    let positionAt (rest : List Char) := advance p (c :: cs) (cs.length + 1 - rest.length)
    match step l before c cs with
    | .error (fault, rest) => .error (.lexical fault (positionAt rest))
    | .ok (token?, rest) =>
      let next := run l n token? (positionAt rest) rest
      match token? with
      | some token => next.map (⟨token, p⟩ :: ·)
      | none => next

def tokens (l : Lexicon) (s : String) : Except SyntaxError (List Located) :=
  run l s.toList.length none Position.start s.toList

end NormalForms.Sql.Lexer
