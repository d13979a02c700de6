import NormalForms.Text.Search

/-!
# Raw texts

What the system calls a text, such as the name of a file or an argument, is a run
of bytes, which need not be the UTF-8 of a text. `text?` reads those that are, and
`display` shows the others with a replacement character for each part that is
broken. ASCII characters stand for one byte each, which no other character has, so
that raw texts can be searched for them.
-/

namespace NormalForms

structure RawText where
  bytes : List UInt8
  deriving DecidableEq, Repr

namespace RawText

def ofString (s : String) : RawText := ⟨s.toUTF8.data.toList⟩

instance : Coe String RawText := ⟨ofString⟩

/-- The text that the bytes stand for, if they stand for one. -/
def text? (r : RawText) : Option String := String.fromUTF8? r.bytes.toByteArray

def isEmpty (r : RawText) : Bool := r.bytes.isEmpty

def startsWith (r start : RawText) : Bool := start.bytes.isPrefixOf r.bytes

/-! ## Showing what is broken -/

/-- A character of which bytes are missing: the number that those so far stand
for, how many are missing, and the bounds of the next. -/
structure Begun where
  code : Nat
  missing : Nat
  least : UInt8 := 0x80
  greatest : UInt8 := 0xBF

/-- What a byte may be the first of. The bounds of the second byte leave out
numbers that fit in fewer bytes, or that no character has. -/
def begin? (b : UInt8) : Option Begun :=
  if b < 0x80 then some { code := b.toNat, missing := 0 }
  else if b < 0xC2 then none
  else if b < 0xE0 then some { code := b.toNat - 0xC0, missing := 1 }
  else if b < 0xF0 then
    some
      { code := b.toNat - 0xE0
        missing := 2
        least := if b = 0xE0 then 0xA0 else 0x80
        greatest := if b = 0xED then 0x9F else 0xBF }
  else if b < 0xF5 then
    some
      { code := b.toNat - 0xF0
        missing := 3
        least := if b = 0xF0 then 0x90 else 0x80
        greatest := if b = 0xF4 then 0x8F else 0xBF }
  else none

def replacement : Char := '\uFFFD'

/-- The character that is complete, or else what there is of it. -/
def Begun.split (p : Begun) : List Char × Option Begun :=
  if p.missing = 0 then ([Char.ofNat p.code], none) else ([], some p)

/-- What becomes of a byte that no character goes on with. -/
def restart (b : UInt8) : List Char × Option Begun :=
  match begin? b with
  | some p => p.split
  | none => ([replacement], none)

/-- What becomes of a byte after the character that has begun. -/
def goOn (p : Begun) (b : UInt8) : List Char × Option Begun :=
  if p.least ≤ b ∧ b ≤ p.greatest then
    Begun.split { code := p.code * 64 + (b.toNat - 0x80), missing := p.missing - 1 }
  else
    (replacement :: (restart b).1, (restart b).2)

/-- The characters of some bytes, with a replacement for each longest part that
begins a character and does not complete it. -/
def mended : Option Begun → List UInt8 → List Char
  | none, [] => []
  | some _, [] => [replacement]
  | none, b :: bs => (restart b).1 ++ mended (restart b).2 bs
  | some p, b :: bs => (goOn p b).1 ++ mended (goOn p b).2 bs

/-- The text that is shown for the bytes. -/
def display (r : RawText) : String := r.text?.getD (String.ofList (mended none r.bytes))

/-! ## Facts -/

theorem bytes_ofString (s : String) :
    (ofString s).bytes = s.toList.flatMap String.utf8EncodeChar := by
  rw [ofString, String.toUTF8_eq_toByteArray, ← String.utf8Encode_toList, List.utf8Encode,
    List.data_toByteArray]

@[simp] theorem text?_ofString (s : String) : (ofString s).text? = some s := by
  have hbytes : (ofString s).bytes.toByteArray = s.toByteArray := by
    rw [bytes_ofString, ← List.utf8Encode, String.utf8Encode_toList]
  rw [text?, hbytes, String.fromUTF8?, dif_pos s.isValidUTF8]
  rfl

theorem ofString_injective : Function.Injective ofString := fun s t h =>
  Option.some.inj ((text?_ofString s).symm.trans ((congrArg text? h).trans (text?_ofString t)))

theorem eq_ofString_of_text? {r : RawText} {s : String} (h : r.text? = some s) :
    r = ofString s := by
  unfold text? String.fromUTF8? at h
  split at h
  · cases h
    show r = ⟨r.bytes.toByteArray.data.toList⟩
    rw [List.data_toByteArray]
  · cases h

theorem utf8EncodeChar_of_ascii {c : Char} (h : c.toNat < 128) :
    String.utf8EncodeChar c = [c.toUInt8] := by
  unfold String.utf8EncodeChar
  exact if_pos (Nat.le_of_lt_succ h)

/-- No byte of a longer character is one of an ASCII character. -/
theorem le_toNat_of_mem_utf8EncodeChar {c : Char} (h : 128 ≤ c.toNat) {b : UInt8}
    (hb : b ∈ String.utf8EncodeChar c) : 128 ≤ b.toNat := by
  have hlong : ¬ c.val.toNat ≤ 127 := Nat.not_le_of_lt h
  simp only [String.utf8EncodeChar, hlong, if_false] at hb
  split at hb
  · simp only [List.mem_cons, List.not_mem_nil, or_false] at hb
    rcases hb with rfl | rfl <;> simp <;> omega
  · split at hb
    · simp only [List.mem_cons, List.not_mem_nil, or_false] at hb
      rcases hb with rfl | rfl | rfl <;> simp <;> omega
    · simp only [List.mem_cons, List.not_mem_nil, or_false] at hb
      rcases hb with rfl | rfl | rfl | rfl <;> simp <;> omega

/-- The byte of an ASCII character stands for nothing else. -/
theorem mem_utf8EncodeChar_iff {a c : Char} (ha : a.toNat < 128) :
    a.toUInt8 ∈ String.utf8EncodeChar c ↔ a = c := by
  have hbyte : ∀ {d : Char}, d.toNat < 128 → d.toUInt8.toNat = d.toNat := fun {d} hd => by
    show d.val.toNat % 256 = _
    exact Nat.mod_eq_of_lt (Nat.lt_trans hd (by decide))
  constructor
  · intro hmem
    rcases Nat.lt_or_ge c.toNat 128 with hc | hc
    · rw [utf8EncodeChar_of_ascii hc, List.mem_singleton] at hmem
      have hnat := congrArg UInt8.toNat hmem
      rw [hbyte ha, hbyte hc] at hnat
      exact Char.toNat_inj.1 hnat
    · have hle := le_toNat_of_mem_utf8EncodeChar hc hmem
      rw [hbyte ha] at hle
      omega
  · rintro rfl
    rw [utf8EncodeChar_of_ascii ha]
    exact List.mem_singleton.2 rfl

theorem mem_bytes_ofString_iff {a : Char} (ha : a.toNat < 128) {s : String} :
    a.toUInt8 ∈ (ofString s).bytes ↔ a ∈ s.toList := by
  rw [bytes_ofString, List.mem_flatMap]
  simp only [mem_utf8EncodeChar_iff ha, exists_eq_right']

end RawText

end NormalForms
