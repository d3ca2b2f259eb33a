import Mathlib.Data.String.Basic
import Mathlib.Tactic.Common

namespace Text

/-!
# The bytewise order of UTF-8 text

A systems language compares strings by their encoded bytes, whereas the order
of the ambient library compares code points.  The two must be identified
before a sorted list of strings can be said to be sorted *bytewise*.

UTF-8 was designed so that the two orders coincide.  The proof follows the
encoding: a larger code point either has a longer encoding, and then already
a larger header byte, or an encoding of the same length whose base-64 digits
are compared from the most significant one.
-/

/-- The UTF-8 encoding of a string, as its list of bytes. -/
def bytes (s : String) : List UInt8 :=
  s.toList.flatMap String.utf8EncodeChar

/-- These are the bytes the string stores, not a second encoding of it. -/
theorem toByteArray_eq_bytes (s : String) : s.toByteArray = (bytes s).toByteArray := by
  rw [← String.utf8Encode_toList]
  rfl

/-- Comparing two numbers through quotient and remainder. -/
private theorem lt_div_or_mod {v w : Nat} (base : Nat) (less : v < w) :
    v / base < w / base ∨ v / base = w / base ∧ v % base < w % base := by
  rcases Nat.lt_or_ge (v / base) (w / base) with smaller | larger
  · exact Or.inl smaller
  · have same : v / base = w / base :=
      Nat.le_antisymm (Nat.div_le_div_right less.le) larger
    have splitV := Nat.div_add_mod v base
    have splitW := Nat.div_add_mod w base
    rw [same] at splitV
    exact Or.inr ⟨same, by omega⟩

private theorem toNat_lt_of_char (c : Char) : c.val.toNat < 0x110000 := by
  have valid : c.val.toNat < 0xd800 ∨ 0xdfff < c.val.toNat ∧ c.val.toNat < 0x110000 := c.valid
  omega

/-- A smaller character has the smaller encoding, whatever follows either.
In particular neither encoding is a prefix of the other. -/
theorem utf8EncodeChar_append_lt {c d : Char} (less : c < d) (rest other : List UInt8) :
    String.utf8EncodeChar c ++ rest < String.utf8EncodeChar d ++ other := by
  have lessNat : c.val.toNat < d.val.toNat := less
  have bound := toNat_lt_of_char d
  have low := lt_div_or_mod 64 lessNat
  have middle := lt_div_or_mod 4096 lessNat
  unfold String.utf8EncodeChar
  generalize c.val.toNat = v at *
  generalize d.val.toNat = w at *
  dsimp only
  split_ifs <;>
    first
    | omega
    | simp only [List.cons_append, List.nil_append, List.cons_lt_cons_iff,
        UInt8.lt_iff_toNat_lt, ← UInt8.toNat_inj, UInt8.toNat_ofNat']
  all_goals
    first
    | exact Or.inl (by omega)
    | skip
  · rcases low with low | ⟨low, last⟩
    · exact Or.inl (by omega)
    · exact Or.inr ⟨by omega, Or.inl (by omega)⟩
  · rcases middle with middle | ⟨middle, -⟩
    · exact Or.inl (by omega)
    · rcases low with low | ⟨low, last⟩
      · exact Or.inr ⟨by omega, Or.inl (by omega)⟩
      · exact Or.inr ⟨by omega, Or.inr ⟨by omega, Or.inl (by omega)⟩⟩
  · rcases Nat.lt_or_ge (v / 262144) (w / 262144) with high | high
    · exact Or.inl (by omega)
    · rcases middle with middle | ⟨middle, -⟩
      · exact Or.inr ⟨by omega, Or.inl (by omega)⟩
      · rcases low with low | ⟨low, last⟩
        · exact Or.inr ⟨by omega, Or.inr ⟨by omega, Or.inl (by omega)⟩⟩
        · exact Or.inr ⟨by omega, Or.inr ⟨by omega, Or.inr ⟨by omega, Or.inl (by omega)⟩⟩⟩

/-- Encoding is strictly monotone.  The induction follows both strings at
once, and stops at the first position where they differ. -/
private theorem flatMap_lt_of_lt : ∀ {left right : List Char}, left < right →
    left.flatMap String.utf8EncodeChar < right.flatMap String.utf8EncodeChar := by
  intro left
  induction left with
  | nil =>
      intro right less
      cases right with
      | nil => exact absurd less (List.lt_irrefl [])
      | cons d ds =>
          cases encoded : String.utf8EncodeChar d with
          | nil => exact absurd encoded String.utf8EncodeChar_ne_nil
          | cons byte tail =>
              rw [List.flatMap_nil, List.flatMap_cons, encoded, List.cons_append]
              exact List.nil_lt_cons _ _
  | cons c cs ih =>
      intro right less
      cases right with
      | nil => exact absurd less (List.not_lt_nil _)
      | cons d ds =>
          rw [List.flatMap_cons, List.flatMap_cons]
          rcases List.cons_lt_cons_iff.mp less with smaller | ⟨same, tails⟩
          · exact utf8EncodeChar_append_lt smaller _ _
          · subst d
            exact List.append_left_lt (ih tails)

/-- Bytewise comparison of UTF-8 text is comparison of code points. -/
theorem bytes_lt_iff (a b : String) : bytes a < bytes b ↔ a < b := by
  constructor
  · intro less
    rcases lt_trichotomy a b with smaller | same | larger
    · exact smaller
    · subst b
      exact absurd less (List.lt_irrefl _)
    · have reversed := flatMap_lt_of_lt (String.lt_iff_toList_lt.mp larger)
      exact absurd reversed (List.lt_asymm less)
  · intro less
    exact flatMap_lt_of_lt (String.lt_iff_toList_lt.mp less)

end Text
