import McpgOperatorApi.Text.Strings

namespace Text

/-!
# Where a concatenation can be cut

Names and addresses are glued together from parts that a user writes and
parts that are fixed.  Whether the parts can be recovered depends on the
fixed ones.  A separator cuts at its first occurrence when the part before it
does not contain it, and at its last occurrence when the part behind it does
not.  A fixed suffix can be told from other fixed suffixes when none of them
ends in another one; what stands in front may then be any text at all.

The last section asks the converse question for one character: a doubled
occurrence in a concatenation lies in one of the parts or sits astride the
cut between them.
-/

/-! ## Cutting at a separator -/

theorem rtakeWhile_ne_of_not_mem {c : Char} {rest : List Char} (absent : c ∉ rest) :
    rest.rtakeWhile (· != c) = rest := by
  rw [List.rtakeWhile_eq_self_iff]
  intro x member
  have different : x ≠ c := fun equal => absent (equal ▸ member)
  simpa using different

/-- The first separator determines both sides of the cut. -/
theorem cut_first {c : Char} {front front' rest rest' : List Char} (absent : c ∉ front)
    (absent' : c ∉ front') (equal : front ++ c :: rest = front' ++ c :: rest') :
    front = front' ∧ rest = rest' := by
  have fronts := congrArg (List.takeWhile (· != c)) equal
  rw [takeWhile_ne_append absent, takeWhile_ne_append absent'] at fronts
  rw [fronts] at equal
  exact ⟨fronts, (List.cons.inj (List.append_cancel_left equal)).2⟩

/-- The last separator determines both sides of the cut. -/
theorem cut_last {c : Char} {front front' rest rest' : List Char} (absent : c ∉ rest)
    (absent' : c ∉ rest') (equal : front ++ c :: rest = front' ++ c :: rest') :
    front = front' ∧ rest = rest' := by
  have rests := congrArg (List.rtakeWhile (· != c)) equal
  rw [rtakeWhile_ne_append, rtakeWhile_ne_append, rtakeWhile_ne_of_not_mem absent,
    rtakeWhile_ne_of_not_mem absent'] at rests
  rw [rests] at equal
  exact ⟨List.append_cancel_right equal, rests⟩

/-! ## Fixed suffixes -/

/-- No suffix of the family ends in another one. -/
def SuffixFree {ι : Type} (suffix : ι → String) : Prop :=
  ∀ i j, (suffix i).toList <:+ (suffix j).toList → i = j

/-- Behind the suffixes of such a family, both the suffix and the text in
front of it can be read off. -/
theorem append_suffix_eq_iff {ι : Type} {suffix : ι → String} (free : SuffixFree suffix) {i j : ι}
    {s t : String} : s ++ suffix i = t ++ suffix j ↔ i = j ∧ s = t := by
  constructor
  · intro equal
    have chars := congrArg String.toList equal
    rw [String.toList_append, String.toList_append] at chars
    have same : i = j := by
      rcases List.suffix_or_suffix_of_suffix ⟨_, rfl⟩ ⟨_, chars.symm⟩ with shorter | longer
      · exact free i j shorter
      · exact (free j i longer).symm
    rw [same] at equal
    exact ⟨same, (String.append_left_inj _).mp equal⟩
  · rintro ⟨rfl, rfl⟩
    rfl

/-! ## Doubled characters -/

/-- A doubled character in a concatenation lies in the first part, lies in the
second part, or has one half in each. -/
theorem doubled_append {c : Char} {left right front behind : List Char}
    (doubled : left ++ right = front ++ c :: c :: behind) :
    (∃ rest, left = front ++ c :: c :: rest ∧ behind = rest ++ right) ∨
      (∃ more, front = left ++ more ∧ right = more ++ c :: c :: behind) ∨
        (left = front ++ [c] ∧ right = c :: behind) := by
  rcases List.append_eq_append_iff.mp doubled with ⟨more, before, after⟩ | ⟨rest, inside, after⟩
  · exact Or.inr (Or.inl ⟨more, before, after⟩)
  · cases rest with
    | nil =>
        rw [List.append_nil] at inside
        exact Or.inr (Or.inl ⟨[], by rw [inside, List.append_nil], after.symm⟩)
    | cons first rest =>
        rw [List.cons_append, List.cons.injEq] at after
        rcases after with ⟨rfl, after⟩
        cases rest with
        | nil => exact Or.inr (Or.inr ⟨inside, after.symm⟩)
        | cons second rest =>
            rw [List.cons_append, List.cons.injEq] at after
            rcases after with ⟨rfl, after⟩
            exact Or.inl ⟨rest, inside, after⟩

/-- Around a single separator, a doubled one lies in one of the two parts,
provided that neither part adds a separator of its own to it. -/
theorem doubled_around {c : Char} {left right front behind : List Char}
    (last : left.getLast? ≠ some c) (first : right.head? ≠ some c)
    (doubled : left ++ c :: right = front ++ c :: c :: behind) :
    (∃ rest, left = front ++ c :: c :: rest ∧ behind = rest ++ c :: right) ∨
      ∃ more, front = left ++ c :: more ∧ right = more ++ c :: c :: behind := by
  rcases doubled_append doubled with before | ⟨more, shift, after⟩ | ⟨astride, -⟩
  · exact Or.inl before
  · apply Or.inr
    cases more with
    | nil =>
        rw [List.nil_append, List.cons.injEq] at after
        rw [after.2, List.head?_cons] at first
        exact absurd rfl first
    | cons head more =>
        rw [List.cons_append, List.cons.injEq] at after
        rcases after with ⟨rfl, after⟩
        exact ⟨more, shift, after⟩
  · rw [astride, List.getLast?_concat] at last
    exact absurd rfl last

end Text
