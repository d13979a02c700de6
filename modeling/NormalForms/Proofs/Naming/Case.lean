import Mathlib.Data.String.Basic
import NormalForms.Identifier
import NormalForms.Naming

/-!
# Letter case in names

Nothing that is told from a name depends on the case of its ASCII letters. Every
test either looks at characters that have no case (`apply_toLower`), or takes the
name in small letters first, and taking small letters twice is the same as once
(`lower_lower`). What is cut from a name, such as the number at its end or the
quotes around it, is cut at characters without case, so that cutting and taking
small letters may be exchanged.
-/

namespace NormalForms

/-! ## Texts -/

namespace Text

theorem toLower_eq_ofNat {c : Char} (h : 65 ≤ c.toNat ∧ c.toNat ≤ 90) :
    c.toLower = Char.ofNat (c.toNat + 32) := by
  have hval : c.val.toNat = c.toNat := rfl
  have hcapital : c.val ≥ 'A'.val ∧ c.val ≤ 'Z'.val := by
    rw [ge_iff_le, UInt32.le_iff_toNat_le, UInt32.le_iff_toNat_le, hval]
    exact h
  have hsmall : (Char.ofNat (c.toNat + 32)).val.toNat = c.toNat + 32 := by
    rw [Char.ofNat, dif_pos (.inl (by omega))]
    rfl
  have htoLower : c.toLower.val = c.val + ('a'.val - 'A'.val) :=
    congrArg Char.val (dif_pos hcapital)
  refine Char.ext (UInt32.toNat_inj.1 ?_)
  rw [hsmall, htoLower, UInt32.toNat_add, hval]
  show (c.toNat + 32) % 4294967296 = c.toNat + 32
  omega

theorem toLower_eq_self {c : Char} (h : ¬(65 ≤ c.toNat ∧ c.toNat ≤ 90)) : c.toLower = c := by
  refine dif_neg ?_
  rw [ge_iff_le, UInt32.le_iff_toNat_le, UInt32.le_iff_toNat_le]
  exact h

/-- What is the same of each capital and its small letter is the same of each
character and its small letter. -/
theorem apply_toLower {α : Type} {f : Char → α}
    (h : ∀ i : Fin 26, f (Char.ofNat (97 + i)) = f (Char.ofNat (65 + i))) (c : Char) :
    f c.toLower = f c := by
  by_cases hc : 65 ≤ c.toNat ∧ c.toNat ≤ 90
  · have hletter := h ⟨c.toNat - 65, by omega⟩
    have hsmall : 97 + (c.toNat - 65) = c.toNat + 32 := by omega
    have hcapital : 65 + (c.toNat - 65) = c.toNat := by omega
    rw [hsmall, hcapital, Char.ofNat_toNat] at hletter
    rw [toLower_eq_ofNat hc, hletter]
  · rw [toLower_eq_self hc]

theorem toLower_comp_toLower : Char.toLower ∘ Char.toLower = Char.toLower :=
  funext (apply_toLower (by decide))

theorem toUpper_comp_toLower : Char.toUpper ∘ Char.toLower = Char.toUpper :=
  funext (apply_toLower (by decide))

theorem isDigit_comp_toLower : Char.isDigit ∘ Char.toLower = Char.isDigit :=
  funext (apply_toLower (by decide))

theorem isBlank_comp_toLower : isBlank ∘ Char.toLower = isBlank :=
  funext (apply_toLower (by decide))

theorem utf8Size_toLower (c : Char) : c.toLower.utf8Size = c.utf8Size :=
  apply_toLower (by decide) c

@[simp] theorem lower_lower (s : String) : lower (lower s) = lower s := by
  apply String.toList_injective
  rw [toList_lower, toList_lower, List.map_map, toLower_comp_toLower]

@[simp] theorem upper_lower (s : String) : upper (lower s) = upper s := by
  apply String.toList_injective
  rw [toList_upper, toList_lower, List.map_map, toUpper_comp_toLower, toList_upper]

theorem lower_ofList (cs : List Char) :
    lower (String.ofList cs) = String.ofList (cs.map Char.toLower) := by
  apply String.toList_injective
  simp

theorem lower_append (s s' : String) : lower (s ++ s') = lower s ++ lower s' := by
  apply String.toList_injective
  simp

@[simp] theorem length_lower (s : String) : (lower s).length = s.length := by
  rw [← String.length_toList, toList_lower, List.length_map, String.length_toList]

@[simp] theorem byteLength_lower (s : String) : byteLength (lower s) = byteLength s := by
  have hlen : ∀ cs : List Char, String.utf8Len (cs.map Char.toLower) = String.utf8Len cs := by
    intro cs
    induction cs with
    | nil => rfl
    | cons c cs ih =>
      rw [List.map_cons, String.utf8Len_cons, String.utf8Len_cons, ih, utf8Size_toLower]
  rw [byteLength, byteLength, ← String.ofList_toList (s := s), lower_ofList,
    String.utf8ByteSize_ofList, String.utf8ByteSize_ofList, hlen]

theorem trim_map_toLower (cs : List Char) :
    trim (cs.map Char.toLower) = (trim cs).map Char.toLower := by
  simp only [trim, trimEnd, trimStart, List.dropWhile_map, isBlank_comp_toLower, ← List.map_reverse]

theorem trimmed_lower (s : String) : trimmed (lower s) = lower (trimmed s) := by
  rw [trimmed, trimmed, lower_ofList, toList_lower, trim_map_toLower]

/-- Where letter case does not matter to a cut, the pieces are the same. -/
theorem fields_map {cut : Char → Bool} {f : Char → Char} (h : ∀ c, cut (f c) = cut c)
    (cs : List Char) : fields cut (cs.map f) = (fields cut cs).map (List.map f) := by
  induction cs with
  | nil => rfl
  | cons c cs ih =>
    rw [List.map_cons, fields, fields, h, ih]
    split
    · rfl
    · obtain ⟨p, ps, hp⟩ := List.exists_cons_of_ne_nil (fields_ne_nil cut cs)
      rw [hp]
      rfl

theorem lower_intercalate (names : List String) :
    lower (String.intercalate ", " names) = String.intercalate ", " (names.map lower) := by
  induction names with
  | nil => simp [lower]
  | cons name names ih =>
    by_cases hne : names = []
    · rw [hne]
      simp
    · have hne' : names.map lower ≠ [] := mt List.map_eq_nil_iff.1 hne
      have hsep : lower ", " = ", " := by decide +kernel
      rw [List.map_cons, String.intercalate_cons_of_ne_nil hne,
        String.intercalate_cons_of_ne_nil hne', lower_append, lower_append, ih, hsep]

end Text

/-! ## Identifiers -/

namespace Identifier

open Text

/-- The characters that end a quoted name have no case. -/
theorem toLower_eq_closer_iff {c close : Char} (h : closer? c = some close) (d : Char) :
    d.toLower = close ↔ d = close := by
  have hclose : close = '"' ∨ close = '\x60' ∨ close = ']' := by
    unfold closer? at h
    split_ifs at h <;> cases h <;> decide
  have hsame : (d.toLower == close) = (d == close) := by
    rcases hclose with rfl | rfl | rfl <;> exact apply_toLower (f := (· == _)) (by decide) d
  rw [← beq_iff_eq, hsame, beq_iff_eq]

theorem bare_map_toLower (cs : List Char) :
    bare (cs.map Char.toLower) = (bare cs).map Char.toLower := by
  cases cs with
  | nil => rfl
  | cons c cs =>
    have hcloser : closer? c.toLower = closer? c := apply_toLower (by decide) c
    rw [List.map_cons, bare, bare, hcloser]
    cases hc : closer? c with
    | none => rfl
    | some close =>
      have hlast : (cs.map Char.toLower).getLast? = some close ↔ cs.getLast? = some close := by
        rw [List.getLast?_map, Option.map_eq_some_iff]
        simp only [toLower_eq_closer_iff hc, exists_eq_right]
      simp only [hlast]
      split
      · rw [List.map_dropLast]
      · rfl

@[simp] theorem key_lower (s : String) : key (lower s) = key s := by
  rw [key, trimmed_lower, unquote, toList_lower, bare_map_toLower, ← lower_ofList, lower_lower]
  rfl

@[simp] theorem same_lower_left (a b : String) : same (lower a) b = same a b := by
  rw [same, key_lower, same]

@[simp] theorem same_lower_right (a b : String) : same a (lower b) = same a b := by
  rw [same, key_lower, same]

end Identifier

/-! ## What names and types suggest -/

namespace Naming

open Text

@[simp] theorem isMultiValued_lower (dataType : String) :
    isMultiValued (lower dataType) = isMultiValued dataType := by
  rw [isMultiValued, upper_lower, isMultiValued]

/-- The number at the end of a name has no case. -/
theorem withoutNumber_lower (name : String) :
    withoutNumber (lower name) = lower (withoutNumber name) := by
  simp only [withoutNumber, lower_ofList, toList_lower, ← List.map_reverse, List.dropWhile_map,
    isDigit_comp_toLower]

/-- A name without its number is the name itself only if it has none. -/
theorem withoutNumber_lower_eq_iff {name : String} :
    withoutNumber (lower name) = lower name ↔ withoutNumber name = name := by
  constructor
  · intro h
    have hsub : ((withoutNumber name).toList).Sublist name.toList := by
      rw [withoutNumber, String.toList_ofList, ← List.reverse_sublist, List.reverse_reverse]
      exact List.dropWhile_sublist _
    have hlen := congrArg String.length h
    rw [withoutNumber_lower, length_lower, length_lower] at hlen
    exact String.toList_injective (hsub.eq_of_length hlen)
  · intro h
    rw [withoutNumber_lower, h]

@[simp] theorem isNumbered_lower (name base : String) :
    isNumbered (lower name) base = isNumbered name base := by
  rw [isNumbered, lower_lower, isNumbered]

@[simp] theorem identifierEnding?_lower (name : String) :
    identifierEnding? (lower name) = identifierEnding? name := by
  rw [identifierEnding?, lower_lower, identifierEnding?]

@[simp] theorem identifies_lower (name : String) : identifies (lower name) = identifies name := by
  rw [identifies, identifierEnding?_lower, identifies]

@[simp] theorem identified?_lower (name : String) :
    identified? (lower name) = identified? name := by
  rw [identified?, identifierEnding?_lower, lower_lower, identified?]

@[simp] theorem withoutId_lower (name : String) : withoutId (lower name) = withoutId name := by
  rw [withoutId, lower_lower, withoutId]

@[simp] theorem entity?_lower (name : String) : entity? (lower name) = entity? name := by
  rw [entity?, identified?_lower, lower_lower, entity?]

@[simp] theorem isLabel_lower (name : String) : isLabel (lower name) = isLabel name := by
  rw [isLabel, lower_lower, isLabel]

@[simp] theorem isAddress_lower (name : String) : isAddress (lower name) = isAddress name := by
  rw [isAddress, lower_lower, isAddress]

@[simp] theorem isMonetary_lower (name : String) : isMonetary (lower name) = isMonetary name := by
  rw [isMonetary, lower_lower, isMonetary]

@[simp] theorem isDerived_lower (name : String) : isDerived (lower name) = isDerived name := by
  rw [isDerived, lower_lower, isDerived]

end Naming

end NormalForms
