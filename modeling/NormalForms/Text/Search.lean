/-!
# Searching and cutting texts

Texts are searched as lists of characters. Letter case is that of the ASCII
letters alone: `lower` and `upper` leave every other character as it is.
`fields` cuts a text at each character of a class and never loses one of the
others; lengths are counted in UTF-8 bytes.
-/

namespace NormalForms.Text

/-- ASCII capitals become small letters. -/
def lower (s : String) : String := s.map Char.toLower

/-- ASCII small letters become capitals. -/
def upper (s : String) : String := s.map Char.toUpper

/-- Does `part` stand somewhere in `cs`? -/
def hasPart (part : List Char) : List Char → Bool
  | [] => part.isEmpty
  | c :: cs => part.isPrefixOf (c :: cs) || hasPart part cs

def contains (s part : String) : Bool := hasPart part.toList s.toList

def startsWith (s start : String) : Bool := start.toList.isPrefixOf s.toList

def endsWith (s ending : String) : Bool := ending.toList.isSuffixOf s.toList

/-- What follows `start` in `s`. -/
def afterStart? (s start : String) : Option String :=
  (start.toList.isPrefixOf? s.toList).map String.ofList

/-- What precedes `ending` in `s`. -/
def beforeEnd? (s ending : String) : Option String :=
  (ending.toList.isSuffixOf? s.toList).map String.ofList

/-- Adds an element in front of the first of some pieces. -/
def extend {α : Type} (c : α) : List (List α) → List (List α)
  | [] => [[c]]
  | p :: ps => (c :: p) :: ps

/-- The pieces of a text between the elements of the class `cut`; one more than
there are such elements. -/
def fields {α : Type} (cut : α → Bool) : List α → List (List α)
  | [] => [[]]
  | c :: cs => if cut c then [] :: fields cut cs else extend c (fields cut cs)

/-- UTF-8 bytes of a text. -/
def byteLength (s : String) : Nat := s.utf8ByteSize

/-! ## Facts -/

@[simp] theorem toList_lower (s : String) : (lower s).toList = s.toList.map Char.toLower := by
  simp [lower]

@[simp] theorem toList_upper (s : String) : (upper s).toList = s.toList.map Char.toUpper := by
  simp [upper]

section Fields

variable {α : Type} {cut : α → Bool}

theorem extend_ne_nil (c : α) (ps : List (List α)) : extend c ps ≠ [] := by
  cases ps <;> simp [extend]

theorem flatten_extend (c : α) (ps : List (List α)) :
    (extend c ps).flatten = c :: ps.flatten := by
  cases ps <;> simp [extend]

theorem fields_ne_nil (cut : α → Bool) (cs : List α) : fields cut cs ≠ [] := by
  cases cs with
  | nil => simp [fields]
  | cons c cs =>
    unfold fields
    split
    · simp
    · exact extend_ne_nil c _

/-- A text that nothing cuts is one piece. -/
theorem fields_of_forall {cs : List α} (h : ∀ c ∈ cs, cut c = false) :
    fields cut cs = [cs] := by
  induction cs with
  | nil => rfl
  | cons c cs ih =>
    obtain ⟨hc, hcs⟩ := List.forall_mem_cons.1 h
    rw [fields, hc, ih hcs]
    rfl

/-- An element that cuts keeps what is on its two sides apart. -/
theorem fields_append_cons {d : α} (hd : cut d = true) (cs ds : List α) :
    fields cut (cs ++ d :: ds) = fields cut cs ++ fields cut ds := by
  induction cs with
  | nil => simp [fields, hd]
  | cons c cs ih =>
    rw [List.cons_append, fields, fields, ih]
    split
    · rfl
    · obtain ⟨p, ps, hp⟩ := List.exists_cons_of_ne_nil (fields_ne_nil cut cs)
      rw [hp]
      rfl

/-- No piece holds an element that cuts. -/
theorem forall_of_mem_fields {cs p : List α} (h : p ∈ fields cut cs) :
    ∀ c ∈ p, cut c = false := by
  induction cs generalizing p with
  | nil =>
    cases List.mem_singleton.1 h
    exact List.forall_mem_nil _
  | cons c cs ih =>
    unfold fields at h
    split at h
    · rcases List.mem_cons.1 h with rfl | h
      · exact List.forall_mem_nil _
      · exact ih h
    · rename_i hc
      obtain ⟨q, qs, hq⟩ := List.exists_cons_of_ne_nil (fields_ne_nil cut cs)
      rw [hq] at h ih
      rcases List.mem_cons.1 h with rfl | h
      · exact List.forall_mem_cons.2 ⟨Bool.eq_false_iff.2 hc, ih List.mem_cons_self⟩
      · exact ih (List.mem_cons_of_mem q h)

/-- Nothing is lost but the elements that cut. -/
theorem flatten_fields (cut : α → Bool) (cs : List α) :
    (fields cut cs).flatten = cs.filter fun c => !cut c := by
  induction cs with
  | nil => rfl
  | cons c cs ih =>
    by_cases h : cut c <;> simp [fields, h, ih, flatten_extend]

end Fields

end NormalForms.Text
