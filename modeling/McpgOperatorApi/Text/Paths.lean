import McpgOperatorApi.Text.Concatenation

namespace Text

/-!
# Slash-separated paths

A path is written as its segments with one `/` between neighbours.  Provided
that no segment contains a slash, the segments can be read back, and a path
behind a given leading path is exactly one whose segment list has that list
as a proper prefix.  This is the fact that separates matching by segments
from matching by characters: `a/b` is a character prefix of `a/bc/d`, but
`a/b/` is not.
-/

/-- Write the segments with one slash between neighbours. -/
def joinSlash (segments : List String) : String :=
  "/".intercalate segments

/-- No slash occurs in the text. -/
def SlashFree (s : String) : Prop :=
  '/' ∉ s.toList

instance (s : String) : Decidable (SlashFree s) :=
  inferInstanceAs (Decidable ('/' ∉ s.toList))

/-- A segment that a well-formed path can have: neither empty nor containing
the separator. -/
structure Segment where
  text : String
  nonempty : text ≠ ""
  slashFree : SlashFree text

/-- The text of a list of segments. -/
def Segment.texts (segments : List Segment) : List String :=
  segments.map Segment.text

theorem Segment.texts_append (front rest : List Segment) :
    Segment.texts (front ++ rest) = Segment.texts front ++ Segment.texts rest :=
  List.map_append

theorem Segment.texts_injective : Function.Injective Segment.texts := by
  apply List.map_injective_iff.mpr
  rintro ⟨left, _, _⟩ ⟨right, _, _⟩ equal
  cases equal
  rfl

theorem Segment.slashFree_of_mem_texts {segments : List Segment} {s : String}
    (member : s ∈ Segment.texts segments) : SlashFree s := by
  rcases List.mem_map.mp member with ⟨segment, -, rfl⟩
  exact segment.slashFree

theorem Segment.ne_empty_of_mem_texts {segments : List Segment} {s : String}
    (member : s ∈ Segment.texts segments) : s ≠ "" := by
  rcases List.mem_map.mp member with ⟨segment, -, rfl⟩
  exact segment.nonempty

theorem toList_joinSlash (segments : List String) :
    (joinSlash segments).toList = ['/'].intercalate (segments.map String.toList) := by
  rw [joinSlash, String.toList_intercalate]
  rfl

theorem joinSlash_singleton (segment : String) : joinSlash [segment] = segment := by
  apply String.toList_injective
  rw [toList_joinSlash, List.map_singleton, List.intercalate_singleton]

theorem joinSlash_cons {segments : List String} (segment : String) (nonempty : segments ≠ []) :
    joinSlash (segment :: segments) = segment ++ "/" ++ joinSlash segments := by
  apply String.toList_injective
  rw [toList_joinSlash, List.map_cons, List.intercalate_cons_of_ne_nil (by simpa using nonempty)]
  simp [toList_joinSlash]

theorem joinSlash_append {front rest : List String} (frontNonempty : front ≠ [])
    (restNonempty : rest ≠ []) :
    joinSlash (front ++ rest) = joinSlash front ++ "/" ++ joinSlash rest := by
  induction front with
  | nil => exact absurd rfl frontNonempty
  | cons segment front ih =>
      by_cases last : front = []
      · subst last
        rw [List.singleton_append, joinSlash_cons segment restNonempty, joinSlash_singleton]
      · rw [List.cons_append, joinSlash_cons segment (by simp [last]), ih last,
          joinSlash_cons segment last]
        simp only [String.append_assoc]

/-- The segments of a path can be read back from its text. -/
theorem joinSlash_injOn {left right : List String} (leftNonempty : left ≠ [])
    (rightNonempty : right ≠ []) (leftFree : ∀ s ∈ left, SlashFree s)
    (rightFree : ∀ s ∈ right, SlashFree s) (equal : joinSlash left = joinSlash right) :
    left = right := by
  have chars := congrArg String.toList equal
  rw [toList_joinSlash, toList_joinSlash] at chars
  have split : ∀ segments : List String, segments ≠ [] → (∀ s ∈ segments, SlashFree s) →
      (['/'].intercalate (segments.map String.toList)).splitOn '/' = segments.map String.toList := by
    intro segments nonempty free
    refine List.splitOn_intercalate '/' ?_ (by simpa using nonempty)
    intro segment member
    rcases List.mem_map.mp member with ⟨s, listed, rfl⟩
    exact free s listed
  have read := congrArg (List.splitOn '/') chars
  rw [split left leftNonempty leftFree, split right rightNonempty rightFree] at read
  exact List.map_injective_iff.mpr (fun _ _ => String.toList_injective) read

private theorem exists_intercalate (chars : List Char) :
    ∃ segments : List String, segments ≠ [] ∧ (∀ piece ∈ segments, SlashFree piece) ∧
      chars = ['/'].intercalate (segments.map String.toList) := by
  induction chars with
  | nil => exact ⟨[""], by simp, by simp [SlashFree], by simp⟩
  | cons char chars ih =>
      rcases ih with ⟨segments, nonempty, free, read⟩
      rcases List.exists_cons_of_ne_nil nonempty with ⟨piece, pieces, shape⟩
      by_cases slash : char = '/'
      · refine ⟨"" :: segments, by simp, ?_, ?_⟩
        · intro s member
          rcases List.mem_cons.mp member with first | later
          · rw [first]
            decide
          · exact free s later
        · rw [slash, read, List.map_cons, List.intercalate_cons_of_ne_nil (by simpa using nonempty)]
          simp
      · refine ⟨String.ofList (char :: piece.toList) :: pieces, by simp, ?_, ?_⟩
        · intro s member
          rcases List.mem_cons.mp member with first | later
          · have pieceFree : '/' ∉ piece.toList := free piece (by simp [shape])
            simpa [first, SlashFree, Ne.symm slash] using pieceFree
          · exact free s (by simp [shape, later])
        · rw [read, shape, List.map_cons, List.map_cons, String.toList_ofList,
            List.intercalate_cons_cons_left]

/-- Every text is a path: the one of its slash-free pieces. -/
theorem exists_joinSlash (s : String) :
    ∃ segments : List String, segments ≠ [] ∧ (∀ piece ∈ segments, SlashFree piece) ∧
      s = joinSlash segments := by
  rcases exists_intercalate s.toList with ⟨segments, nonempty, free, read⟩
  exact ⟨segments, nonempty, free, String.toList_injective (by rw [toList_joinSlash, read])⟩

/-- A path lies behind the leading path `front` exactly when its segments
continue those of `front` by at least one more segment. -/
theorem joinSlash_eq_append_iff {front segments : List String} (frontNonempty : front ≠ [])
    (segmentsNonempty : segments ≠ []) (frontFree : ∀ s ∈ front, SlashFree s)
    (segmentsFree : ∀ s ∈ segments, SlashFree s) (tail : String) :
    joinSlash segments = joinSlash front ++ "/" ++ tail ↔
      ∃ rest, rest ≠ [] ∧ segments = front ++ rest ∧ tail = joinSlash rest := by
  constructor
  · intro equal
    rcases exists_joinSlash tail with ⟨rest, restNonempty, restFree, tailEq⟩
    rw [tailEq, ← joinSlash_append frontNonempty restNonempty] at equal
    refine ⟨rest, restNonempty, ?_, tailEq⟩
    refine joinSlash_injOn segmentsNonempty (by simp [frontNonempty]) segmentsFree ?_ equal
    intro s member
    rcases List.mem_append.mp member with before | after
    · exact frontFree s before
    · exact restFree s after
  · rintro ⟨rest, restNonempty, rfl, rfl⟩
    exact joinSlash_append frontNonempty restNonempty

/-- Two leading paths lead to a common text exactly when the segments of one
start with those of the other. -/
theorem exists_behind_both_iff {first second : List String} (firstNonempty : first ≠ [])
    (secondNonempty : second ≠ []) (firstFree : ∀ s ∈ first, SlashFree s)
    (secondFree : ∀ s ∈ second, SlashFree s) :
    (∃ left right, joinSlash first ++ "/" ++ left = joinSlash second ++ "/" ++ right) ↔
      first <+: second ∨ second <+: first := by
  constructor
  · intro ⟨left, right, equal⟩
    rcases exists_joinSlash (joinSlash first ++ "/" ++ left) with ⟨segments, nonempty, free, path⟩
    rcases (joinSlash_eq_append_iff firstNonempty nonempty firstFree free left).mp path.symm with
      ⟨behindFirst, -, splitFirst, -⟩
    rcases (joinSlash_eq_append_iff secondNonempty nonempty secondFree free right).mp
      (path.symm.trans equal) with ⟨behindSecond, -, splitSecond, -⟩
    exact List.prefix_or_prefix_of_prefix ⟨behindFirst, splitFirst.symm⟩
      ⟨behindSecond, splitSecond.symm⟩
  · intro nested
    -- The shorter path leads to the longer one, with an empty segment behind it.
    have leads : ∀ {short long : List String}, short ≠ [] → long ≠ [] → short <+: long →
        ∃ left, joinSlash short ++ "/" ++ left = joinSlash long ++ "/" ++ "" := by
      intro short long shortNonempty longNonempty inside
      rcases inside with ⟨more, rfl⟩
      refine ⟨joinSlash (more ++ [""]), ?_⟩
      rw [← joinSlash_append shortNonempty (by simp), ← List.append_assoc,
        joinSlash_append longNonempty (by simp), joinSlash_singleton]
    rcases nested with inside | inside
    · rcases leads firstNonempty secondNonempty inside with ⟨left, equal⟩
      exact ⟨left, "", equal⟩
    · rcases leads secondNonempty firstNonempty inside with ⟨right, equal⟩
      exact ⟨"", right, equal.symm⟩

/-- Segments are a prefix exactly when their texts are. -/
theorem Segment.texts_prefix_iff (first second : List Segment) :
    Segment.texts first <+: Segment.texts second ↔ first <+: second := by
  constructor
  · intro ⟨behind, split⟩
    rcases List.map_eq_append_iff.mp split.symm with ⟨front, rest, rfl, frontTexts, -⟩
    exact ⟨rest, by rw [Segment.texts_injective frontTexts]⟩
  · intro ⟨rest, split⟩
    exact ⟨Segment.texts rest, by rw [← Segment.texts_append, split]⟩

/-! ## The ends of a path of segments -/

theorem head?_joinSlash_texts (segments : List Segment) :
    (joinSlash (Segment.texts segments)).toList.head? ≠ some '/' := by
  cases segments with
  | nil => decide
  | cons segment segments =>
      have nonempty : segment.text.toList ≠ [] := by simpa using segment.nonempty
      rcases List.exists_cons_of_ne_nil nonempty with ⟨char, chars, text⟩
      have free : '/' ∉ segment.text.toList := segment.slashFree
      rw [toList_joinSlash, Segment.texts, List.map_cons, List.map_cons, text,
        List.intercalate_cons_cons_left, List.head?_cons]
      intro equal
      rw [text, Option.some.inj equal] at free
      exact free List.mem_cons_self

theorem getLast?_joinSlash_texts (segments : List Segment) :
    (joinSlash (Segment.texts segments)).toList.getLast? ≠ some '/' := by
  induction segments using List.reverseRecOn with
  | nil => decide
  | append_singleton segments segment _ =>
      have free : '/' ∉ segment.text.toList := segment.slashFree
      have nonempty : segment.text.toList ≠ [] := by simpa using segment.nonempty
      have ends : (joinSlash (Segment.texts (segments ++ [segment]))).toList.getLast? =
          segment.text.toList.getLast? := by
        by_cases first : segments = []
        · subst first
          rw [List.nil_append, Segment.texts, List.map_singleton, joinSlash_singleton]
        · rw [Segment.texts_append, joinSlash_append (by simpa [Segment.texts] using first)
            (by simp [Segment.texts]), show Segment.texts [segment] = [segment.text] from rfl,
            joinSlash_singleton, String.toList_append, List.getLast?_append_of_ne_nil _ nonempty]
      rw [ends]
      intro equal
      exact free (List.mem_of_getLast? equal)

/-- Stray slashes around a path of segments are removed by trimming, and
nothing else is. -/
theorem trimMatches_joinSlash (segments : List Segment) (before after : Nat) :
    trimMatches (repeated '/' before ++ joinSlash (Segment.texts segments) ++ repeated '/' after)
      '/' = joinSlash (Segment.texts segments) := by
  rw [trimMatches_surrounded]
  exact trimMatches_of_ends (head?_joinSlash_texts segments) (getLast?_joinSlash_texts segments)

/-! ## Empty segments

Two neighbouring slashes are an empty segment.
-/

/-- Around a slash that neither part adds to, an empty segment lies in one of
the two parts. -/
theorem emptySegment_around {left right front behind : String}
    (last : left.toList.getLast? ≠ some '/') (first : right.toList.head? ≠ some '/')
    (doubled : left ++ "/" ++ right = front ++ "//" ++ behind) :
    (∃ rest, left = front ++ "//" ++ rest ∧ behind = rest ++ "/" ++ right) ∨
      ∃ more, front = left ++ "/" ++ more ∧ right = more ++ "//" ++ behind := by
  have chars : left.toList ++ '/' :: right.toList =
      front.toList ++ '/' :: '/' :: behind.toList := by
    simpa using congrArg String.toList doubled
  rcases doubled_around last first chars with ⟨rest, inside, after⟩ | ⟨more, before, inside⟩
  · apply Or.inl
    refine ⟨String.ofList rest, ?_, ?_⟩ <;> apply String.toList_injective
    · simpa using inside
    · simpa using after
  · apply Or.inr
    refine ⟨String.ofList more, ?_, ?_⟩ <;> apply String.toList_injective
    · simpa using before
    · simpa using inside

/-- A text without a slash has no empty segment. -/
theorem SlashFree.ne_emptySegment {s : String} (free : SlashFree s) (front behind : String) :
    s ≠ front ++ "//" ++ behind := by
  intro equal
  apply free
  rw [equal]
  simp

theorem SlashFree.getLast? {s : String} (free : SlashFree s) : s.toList.getLast? ≠ some '/' := by
  intro equal
  exact free (List.mem_of_getLast? equal)

end Text
