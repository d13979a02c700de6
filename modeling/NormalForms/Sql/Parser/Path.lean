import NormalForms.Sql.Parser.Operand

/-!
# Reading paths

What may follow an operand without an operator: periods with fields, and
brackets with subscripts. A path of plain names is one longer name; a call at
its end has a longer function name; any other path is an access into its root.
-/

namespace NormalForms.Sql.Parser

inductive Link where
  | field (e : Expr)
  /-- A subscript, or several links that stay together. -/
  | further (pieces : List Piece)

namespace Link

def name? : Link → Option Name
  | field (.column n) => some n
  | _ => none

def pieces : Link → List Piece
  | field e => [.text ".", .part e]
  | further ps => ps

/-- The links of an expression after a period. -/
def ofExpr : Expr → List Link
  | .qualified n => n.parts.map fun p => field (.column p)
  | .access root path => [field root, further path]
  | e => [field e]

end Link

def allNames (links : List Link) : Option (List Name) := links.mapM Link.name?

def joined (root : Expr) (links : List Link) : Expr :=
  let access := Expr.access root (links.flatMap Link.pieces)
  match root, links with
  | _, [] => root
  | .column n, _ =>
    match allNames links, allNames links.dropLast, links.getLast? with
    | some ns, _, _ => .qualified ⟨n :: ns⟩
    | none, some ns, some (.field (.call f rest)) => .call ⟨n :: ns ++ f.parts⟩ rest
    | _, _, _ => access
  | _, _ => access

/-! ## Outer joins -/

def outerMark : String := " (+)"

def columnNames? : Expr → Option (List Name)
  | .column n => some [n]
  | .qualified n => some n.parts
  | _ => none

/-- The column of an outer join after the first name of its path; anything else
as it is. -/
def outerColumn? : List Link → Option (List Name)
  | [.field (.marked column mark)] => if mark = outerMark then columnNames? column else none
  | _ => none

/-- A root and the links after it, where a mark of an outer join belongs to the
path as a whole; `place` is where the root starts. -/
def joinedOuter (place : Option Position) (root : Expr) (links : List Link) : Parser Expr := do
  match outerColumn? links, root with
  | none, _ => return joined root links
  | some ns, .column n => return .marked (.qualified ⟨n :: ns⟩) outerMark
  | some _, _ => refuse "column identifier before (+)" place

/-! ## Subscripts -/

/-- What stands between brackets, after the first of them: an index, or bounds
with colons between them. -/
def subscript (parts : Parts) : Parser (List Piece) := do
  let bound : Parser Piece := return .part (← parts.whole)
  let low ← if ← isSymbol ":" then pure [] else pure [← bound]
  if !low.isEmpty && (← accept "]") then return .text "[" :: low ++ [.text "]"]
  demand ":"
  if ← accept "]" then return .text "[" :: low ++ [.text ":]"]
  let high ← bound
  if ← accept "]" then return .text "[" :: low ++ [.text ":", high, .text "]"]
  demand ":"
  if ← accept "]" then return .text "[" :: low ++ [.text ":", high, .text "]"]
  let stride ← bound
  demand "]"
  return .text "[" :: low ++ [.text ":", high, .text ":", stride, .text "]"]

/-! ## Paths -/

/-- At most `n` links, and whether a star ends them. -/
def linksUpTo (parts : Parts) : Nat → Parser (List Link × Bool)
  | 0 => return ([], false)
  | n + 1 => do
    if ← isSymbol "." then
      if (← peekAt 1) == some (.symbol "*") then
        unless ← inDialect [.postgreSql] do return ([], false)
        modify (·.drop 2)
        return ([], true)
      skip
      let links ← match ← peek with
        | some (.string .single _) => do pure [Link.field (.column (← name))]
        | _ => do pure (Link.ofExpr (← parts.tighterThan .period))
      let (further, star) ← linksUpTo parts n
      return (links ++ further, star)
    if (← isSymbol "[") && !(← inDialect [.snowflake]) then
      skip
      let link := Link.further (← subscript parts)
      let (further, star) ← linksUpTo parts n
      return (link :: further, star)
    return ([], false)

def withPath (parts : Parts) (p : Parser Expr) : Parser Expr := do
  let start ← get
  let root ← p
  let (links, star) ← linksUpTo parts (← bound)
  let names? := match root with
    | .column n => (allNames links).map (n :: ·)
    | _ => none
  if star then
    match names? with
    | some ns => return .phrase [.text ((DottedName.mk ns).render ++ ".*")]
    | none => unexpected "an identifier or a '*' after '.'"
  if ← isOuterMark then
    let last ← lastSince start
    modify (·.drop 3)
    match names? with
    | some _ => return .marked (joined root links) outerMark
    | none => throw (.unexpected "column identifier before (+)" last)
  joinedOuter (start.head?.map Located.position) root links

/-! ## Fields of objects -/

def objectKey : Parser Piece := do
  match ← peek with
  | some (.word text none) => skip; return .text text
  | some (.word text (some '"')) => skip; return .text (Name.mk text (some '"')).render
  | _ => unexpected "variant object key name"

/-- The keys and subscripts of an object, at most `n`; a colon leads the first
key and periods the others. -/
def objectPathUpTo (parts : Parts) (mark : String) : Nat → Parser (List Piece)
  | 0 => return []
  | n + 1 => do
    if ← accept mark then
      let key ← objectKey
      return .text mark :: key :: (← objectPathUpTo parts "." n)
    if ← accept "[" then
      let key ← parts.whole
      demand "]"
      return .text "[" :: .part key :: .text "]" :: (← objectPathUpTo parts "." n)
    return []

def objectField (parts : Parts) (e : Expr) : Parser Expr := do
  return .phrase (.part e :: (← objectPathUpTo parts ":" (← bound)))

end NormalForms.Sql.Parser
