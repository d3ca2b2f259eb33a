import Mathlib.Data.List.DropRight
import Mathlib.Data.List.Infix
import Mathlib.Data.String.Basic
import Mathlib.Tactic.Common

namespace Text

/-!
# String slicing at known characters

The slicing operations below are the ones a program uses to take addresses
and references apart: prefix tests, trimming of a given character, trimming
of white space, and the text before the first or behind the last occurrence
of a separator.  Each is computed on the list of characters, so that it can
be evaluated, and each comes with the equation that describes it on a
concatenation.

Separator arguments are characters.  All uses here are single ASCII
characters, for which a character and a one-character string agree.
-/

/-! ## Prefixes -/

/-- `s` starts with the text `pattern`. -/
def startsWith (s pattern : String) : Bool :=
  pattern.toList.isPrefixOf s.toList

/-- The remainder of `s` behind `pattern`, when `s` starts with it. -/
def stripPrefix (s pattern : String) : Option String :=
  if startsWith s pattern then some (String.ofList (s.toList.drop pattern.toList.length)) else none

theorem startsWith_iff_isPrefix (s pattern : String) :
    startsWith s pattern = true ↔ pattern.toList <+: s.toList :=
  List.isPrefixOf_iff_prefix

theorem startsWith_iff (s pattern : String) :
    startsWith s pattern = true ↔ ∃ rest, s = pattern ++ rest := by
  rw [startsWith_iff_isPrefix]
  constructor
  · rintro ⟨rest, equal⟩
    refine ⟨String.ofList rest, ?_⟩
    apply String.toList_injective
    rw [String.toList_append, String.toList_ofList, equal]
  · rintro ⟨rest, equal⟩
    exact ⟨rest.toList, by rw [equal, String.toList_append]⟩

@[simp] theorem stripPrefix_append (pattern rest : String) :
    stripPrefix (pattern ++ rest) pattern = some rest := by
  have starts : startsWith (pattern ++ rest) pattern = true :=
    (startsWith_iff _ _).mpr ⟨rest, rfl⟩
  rw [stripPrefix, if_pos starts, String.toList_append, List.drop_left, String.ofList_toList]

theorem stripPrefix_eq_some_iff (s pattern rest : String) :
    stripPrefix s pattern = some rest ↔ s = pattern ++ rest := by
  constructor
  · intro stripped
    by_cases starts : startsWith s pattern = true
    · rcases (startsWith_iff _ _).mp starts with ⟨tail, equal⟩
      subst equal
      rw [stripPrefix_append, Option.some.injEq] at stripped
      rw [stripped]
    · rw [stripPrefix, if_neg starts] at stripped
      cases stripped
  · intro equal
    rw [equal, stripPrefix_append]

theorem stripPrefix_eq_none_iff (s pattern : String) :
    stripPrefix s pattern = none ↔ ∀ rest, s ≠ pattern ++ rest := by
  constructor
  · intro absent rest equal
    rw [equal, stripPrefix_append] at absent
    cases absent
  · intro absent
    cases stripped : stripPrefix s pattern with
    | none => rfl
    | some rest => exact absurd ((stripPrefix_eq_some_iff _ _ _).mp stripped) (absent rest)

/-- Exchange one prefix for another. -/
def rebase (s old new : String) : Option String :=
  (stripPrefix s old).map (fun rest => new ++ rest)

theorem rebase_eq_some_iff (s old new t : String) :
    rebase s old new = some t ↔ ∃ rest, s = old ++ rest ∧ t = new ++ rest := by
  rw [rebase, Option.map_eq_some_iff]
  constructor
  · rintro ⟨rest, stripped, equal⟩
    exact ⟨rest, (stripPrefix_eq_some_iff _ _ _).mp stripped, equal.symm⟩
  · rintro ⟨rest, equal, result⟩
    exact ⟨rest, (stripPrefix_eq_some_iff _ _ _).mpr equal, result.symm⟩

/-- The exchange is undone by the opposite exchange. -/
theorem rebase_symm {s old new t : String} (rebased : rebase s old new = some t) :
    rebase t new old = some s := by
  rcases (rebase_eq_some_iff _ _ _ _).mp rebased with ⟨rest, source, target⟩
  exact (rebase_eq_some_iff _ _ _ _).mpr ⟨rest, target, source⟩

/-! ## Trimming one character -/

/-- Remove every leading `c`. -/
def trimStartMatches (s : String) (c : Char) : String :=
  String.ofList (s.toList.dropWhile (· == c))

/-- Remove every trailing `c`. -/
def trimEndMatches (s : String) (c : Char) : String :=
  String.ofList (s.toList.rdropWhile (· == c))

/-- Remove every leading and every trailing `c`. -/
def trimMatches (s : String) (c : Char) : String :=
  trimEndMatches (trimStartMatches s c) c

/-- `count` copies of `c`. -/
def repeated (c : Char) (count : Nat) : String :=
  String.ofList (List.replicate count c)

theorem rdropWhile_append_replicate (c : Char) (count : Nat) (kept : List Char) :
    (kept ++ List.replicate count c).rdropWhile (· == c) = kept.rdropWhile (· == c) := by
  induction count with
  | zero => rw [List.replicate_zero, List.append_nil]
  | succ count ih =>
      rw [List.replicate_succ', ← List.append_assoc, List.rdropWhile_concat_pos _ _ _ (by simp), ih]

theorem dropWhile_replicate_append (c : Char) (count : Nat) (kept : List Char) :
    (List.replicate count c ++ kept).dropWhile (· == c) = kept.dropWhile (· == c) := by
  induction count with
  | zero => rfl
  | succ count ih =>
      rw [List.replicate_succ, List.cons_append, List.dropWhile_cons_of_pos (by simp), ih]

/-- Trailing copies of the trimmed character are invisible to the trim. -/
theorem trimEndMatches_append_repeated (s : String) (c : Char) (count : Nat) :
    trimEndMatches (s ++ repeated c count) c = trimEndMatches s c := by
  unfold trimEndMatches repeated
  rw [String.toList_append, String.toList_ofList, rdropWhile_append_replicate]

/-- Text that does not contain the character is not changed by the trim. -/
theorem trimEndMatches_of_not_mem {s : String} {c : Char} (absent : c ∉ s.toList) :
    trimEndMatches s c = s := by
  have kept : s.toList.rdropWhile (· == c) = s.toList := by
    rw [List.rdropWhile_eq_self_iff]
    intro nonempty last
    exact absent ((beq_iff_eq.mp last) ▸ List.getLast_mem nonempty)
  rw [trimEndMatches, kept, String.ofList_toList]

/-- Surrounding copies of the trimmed character are invisible to the trim. -/
theorem trimMatches_surrounded (s : String) (c : Char) (before after : Nat) :
    trimMatches (repeated c before ++ s ++ repeated c after) c = trimMatches s c := by
  unfold trimMatches trimStartMatches trimEndMatches repeated
  simp only [String.toList_append, String.toList_ofList, List.append_assoc]
  rw [dropWhile_replicate_append, List.dropWhile_append]
  by_cases vanished : (s.toList.dropWhile (· == c)).isEmpty = true
  · rw [if_pos vanished, List.isEmpty_iff.mp vanished, List.dropWhile_replicate]
    simp
  · rw [if_neg vanished, rdropWhile_append_replicate]

/-- Text that neither starts nor ends with the character is not changed. -/
theorem trimMatches_of_ends {s : String} {c : Char} (first : s.toList.head? ≠ some c)
    (last : s.toList.getLast? ≠ some c) : trimMatches s c = s := by
  have front : s.toList.dropWhile (· == c) = s.toList := by
    cases chars : s.toList with
    | nil => rfl
    | cons head tail =>
        rw [chars, List.head?_cons] at first
        exact List.dropWhile_cons_of_neg (by simpa using fun equal => first (congrArg some equal))
  have back : s.toList.rdropWhile (· == c) = s.toList := by
    rw [List.rdropWhile_eq_self_iff]
    intro nonempty equal
    apply last
    rw [List.getLast?_eq_getLast_of_ne_nil nonempty, beq_iff_eq.mp equal]
  unfold trimMatches trimStartMatches trimEndMatches
  rw [front, String.ofList_toList, back, String.ofList_toList]

/-- Trimmed text does not start with the character. -/
theorem head?_trimMatches (s : String) (c : Char) : (trimMatches s c).toList.head? ≠ some c := by
  unfold trimMatches trimStartMatches trimEndMatches
  rw [String.toList_ofList, String.toList_ofList]
  intro first
  rcases List.head?_eq_some_iff.mp first with ⟨tail, kept⟩
  rcases List.rdropWhile_prefix (· == c) (s.toList.dropWhile (· == c)) with ⟨dropped, whole⟩
  rw [kept] at whole
  have stopped := List.head?_dropWhile_not (· == c) s.toList
  rw [← whole, List.cons_append, List.head?_cons] at stopped
  simp at stopped

/-- Trimmed text does not end with the character. -/
theorem getLast?_trimMatches (s : String) (c : Char) :
    (trimMatches s c).toList.getLast? ≠ some c := by
  unfold trimMatches trimEndMatches
  rw [String.toList_ofList]
  intro last
  have nonempty : (trimStartMatches s c).toList.rdropWhile (· == c) ≠ [] := by
    intro vanished
    rw [vanished] at last
    cases last
  have stopped := List.rdropWhile_last_not (· == c) _ nonempty
  rw [List.getLast?_eq_getLast_of_ne_nil nonempty, Option.some.injEq] at last
  exact stopped (beq_iff_eq.mpr last)

/-! ## Trimming white space -/

/-- The characters with the Unicode property `White_Space`. -/
def isWhitespace (c : Char) : Bool :=
  let code := c.toNat
  (9 ≤ code && code ≤ 13) || code == 0x20 || code == 0x85 || code == 0xa0 || code == 0x1680 ||
    (0x2000 ≤ code && code ≤ 0x200a) || code == 0x2028 || code == 0x2029 || code == 0x202f ||
    code == 0x205f || code == 0x3000

/-- Remove leading white space. -/
def trimStart (s : String) : String :=
  String.ofList (s.toList.dropWhile isWhitespace)

/-- Remove leading and trailing white space. -/
def trim (s : String) : String :=
  String.ofList ((trimStart s).toList.rdropWhile isWhitespace)

/-! ## Reading around a separator -/

/-- The text before the first `c`, or all of it. -/
def beforeFirst (s : String) (c : Char) : String :=
  String.ofList (s.toList.takeWhile (· != c))

/-- The text behind the last `c`, or all of it. -/
def afterLast (s : String) (c : Char) : String :=
  String.ofList (s.toList.rtakeWhile (· != c))

theorem takeWhile_ne_append {c : Char} {front : List Char} (absent : c ∉ front)
    (rest : List Char) : (front ++ c :: rest).takeWhile (· != c) = front := by
  rw [List.takeWhile_append_of_pos]
  · simp
  · intro x member
    have different : x ≠ c := fun equal => absent (equal ▸ member)
    simpa using different

theorem rtakeWhile_ne_append (c : Char) (front rest : List Char) :
    (front ++ c :: rest).rtakeWhile (· != c) = rest.rtakeWhile (· != c) := by
  unfold List.rtakeWhile
  rw [List.reverse_append, List.reverse_cons, List.append_assoc, List.singleton_append,
    List.takeWhile_append]
  split
  · rename_i whole
    have inside : rest.reverse.takeWhile (· != c) <+: rest.reverse := List.takeWhile_prefix _
    have all := inside.eq_of_length whole
    rw [List.takeWhile_cons_of_neg (by simp), List.append_nil, all]
  · rfl

/-- The text before the first separator is read off any decomposition at a
separator whose front part has none. -/
theorem beforeFirst_of_toList {s front : String} {c : Char} {rest : List Char}
    (shape : s.toList = front.toList ++ c :: rest) (absent : c ∉ front.toList) :
    beforeFirst s c = front := by
  rw [beforeFirst, shape, takeWhile_ne_append absent, String.ofList_toList]

/-- The text behind the last separator only depends on what follows some
separator. -/
theorem afterLast_of_toList {s rest : String} {c : Char} {front : List Char}
    (shape : s.toList = front ++ c :: rest.toList) : afterLast s c = afterLast rest c := by
  unfold afterLast
  rw [shape, rtakeWhile_ne_append]

/-- What is behind the last separator is a tail of the text. -/
theorem afterLast_suffix (s : String) (c : Char) : ∃ front, s = front ++ afterLast s c := by
  have split := List.rdropWhile_append_rtakeWhile (p := (· != c)) (l := s.toList)
  refine ⟨String.ofList (s.toList.rdropWhile (· != c)), ?_⟩
  rw [afterLast, ← String.ofList_append, split, String.ofList_toList]

/-! ## Decimal numbers -/

theorem isDigit_of_mem_repr {n : Nat} {c : Char} (member : c ∈ n.repr.toList) :
    c.isDigit = true := by
  rw [Nat.toList_repr] at member
  exact Nat.isDigit_of_mem_toDigits (by decide) (by decide) member

/-- An integer is written in decimal digits, with a minus sign if need be. -/
theorem isDigit_or_minus_of_mem_repr {i : Int} {c : Char} (member : c ∈ i.repr.toList) :
    c.isDigit = true ∨ c = '-' := by
  cases i with
  | ofNat n => exact Or.inl (isDigit_of_mem_repr member)
  | negSucc n =>
      have split : c ∈ '-' :: n.succ.repr.toList := by
        simpa [Int.repr] using member
      rcases List.mem_cons.mp split with sign | digit
      · exact Or.inr sign
      · exact Or.inl (isDigit_of_mem_repr digit)

end Text
