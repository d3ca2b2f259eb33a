import Mathlib
import McpgOperatorApi.Text.Strings

namespace Text

/-!
# ASCII lowercase as a canonical form

Two texts are equal ignoring ASCII case when they agree letter by letter, a
letter being allowed to change between its upper and its lower case spelling.
Characters outside the ASCII letters only match themselves; in particular
nothing is assumed about the text being hexadecimal, or ASCII at all.

Lowercasing picks one representative of each class: two texts are equal
ignoring case exactly when their lowercase forms are equal, and a lowercase
form is its own lowercase form.
-/

/-- Replace every ASCII upper case letter by its lower case letter. -/
def toAsciiLowercase (s : String) : String :=
  String.ofList (s.toList.map Char.toLower)

/-- The same character, or the two spellings of one ASCII letter. -/
def CaseVariant (c d : Char) : Prop :=
  c = d ∨ (c.isUpper = true ∧ d = Char.ofNat (c.toNat + 32)) ∨
    (d.isUpper = true ∧ c = Char.ofNat (d.toNat + 32))

/-- Letter by letter agreement up to ASCII case. -/
def EqIgnoreAsciiCase (a b : String) : Prop :=
  List.Forall₂ CaseVariant a.toList b.toList

/-- Lowercasing identifies exactly the case variants of a character. -/
theorem caseVariant_iff (c d : Char) : CaseVariant c d ↔ c.toLower = d.toLower := by
  by_cases upperC : c.isUpper = true <;> by_cases upperD : d.isUpper = true
  · rw [Char.toLower_eq_of_isUpper upperC, Char.toLower_eq_of_isUpper upperD]
    constructor
    · rintro (equal | ⟨-, equal⟩ | ⟨-, equal⟩)
      · rw [equal]
      · rw [← Char.toLower_eq_of_isUpper upperC] at equal
        rw [equal, Char.isUpper_toLower_eq_false] at upperD
        cases upperD
      · rw [← Char.toLower_eq_of_isUpper upperD] at equal
        rw [equal, Char.isUpper_toLower_eq_false] at upperC
        cases upperC
    · intro equal
      have same := congrArg Char.toUpper equal
      rw [← Char.toLower_eq_of_isUpper upperC, ← Char.toLower_eq_of_isUpper upperD,
        Char.toUpper_toLower_eq_toUpper, Char.toUpper_toLower_eq_toUpper,
        Char.toUpper_eq_of_not_isLower (Char.not_isLower_of_isUpper upperC),
        Char.toUpper_eq_of_not_isLower (Char.not_isLower_of_isUpper upperD)] at same
      exact Or.inl same
  · rw [Char.toLower_eq_of_isUpper upperC, Char.toLower_eq_of_not_isUpper upperD]
    constructor
    · rintro (equal | ⟨-, equal⟩ | ⟨upper, -⟩)
      · exact absurd (equal ▸ upperC) upperD
      · exact equal.symm
      · exact absurd upper upperD
    · intro equal
      exact Or.inr (Or.inl ⟨upperC, equal.symm⟩)
  · rw [Char.toLower_eq_of_not_isUpper upperC, Char.toLower_eq_of_isUpper upperD]
    constructor
    · rintro (equal | ⟨upper, -⟩ | ⟨-, equal⟩)
      · exact absurd (equal ▸ upperD) upperC
      · exact absurd upper upperC
      · exact equal
    · intro equal
      exact Or.inr (Or.inr ⟨upperD, equal⟩)
  · rw [Char.toLower_eq_of_not_isUpper upperC, Char.toLower_eq_of_not_isUpper upperD]
    constructor
    · rintro (equal | ⟨upper, -⟩ | ⟨upper, -⟩)
      · exact equal
      · exact absurd upper upperC
      · exact absurd upper upperD
    · exact Or.inl

/-- Two texts are equal ignoring ASCII case exactly when their lowercase
forms coincide. -/
theorem eqIgnoreAsciiCase_iff (a b : String) :
    EqIgnoreAsciiCase a b ↔ toAsciiLowercase a = toAsciiLowercase b := by
  have variants : CaseVariant = fun c d => c.toLower = d.toLower := by
    funext c d
    exact propext (caseVariant_iff c d)
  rw [EqIgnoreAsciiCase, variants, toAsciiLowercase, toAsciiLowercase]
  constructor
  · intro pointwise
    have mapped : List.Forall₂ (· = ·) (a.toList.map Char.toLower) (b.toList.map Char.toLower) :=
      List.forall₂_map_left_iff.mpr (List.forall₂_map_right_iff.mpr pointwise)
    rw [List.forall₂_eq_eq_eq] at mapped
    rw [mapped]
  · intro equal
    have mapped := String.ofList_injective equal
    rw [← List.forall₂_eq_eq_eq] at mapped
    exact List.forall₂_map_right_iff.mp (List.forall₂_map_left_iff.mp mapped)

/-- A lowercase form is already lowercase. -/
@[simp] theorem toAsciiLowercase_idem (s : String) :
    toAsciiLowercase (toAsciiLowercase s) = toAsciiLowercase s := by
  rw [toAsciiLowercase, toAsciiLowercase, String.toList_ofList, List.map_map]
  congr 1
  exact List.map_congr_left fun c _ => Char.toLower_toLower_eq_toLower c

theorem eqIgnoreAsciiCase_refl (s : String) : EqIgnoreAsciiCase s s :=
  (eqIgnoreAsciiCase_iff s s).mpr rfl

theorem eqIgnoreAsciiCase_equivalence : Equivalence EqIgnoreAsciiCase where
  refl := eqIgnoreAsciiCase_refl
  symm := fun related => (eqIgnoreAsciiCase_iff _ _).mpr ((eqIgnoreAsciiCase_iff _ _).mp related).symm
  trans := fun first second => (eqIgnoreAsciiCase_iff _ _).mpr
    (((eqIgnoreAsciiCase_iff _ _).mp first).trans ((eqIgnoreAsciiCase_iff _ _).mp second))

end Text
