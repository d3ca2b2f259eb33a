import McpgOperatorApi.Mirror.Rewrite

namespace McpgOperatorApi

open Text

/-!
# Matching by segments

An upstream means a registry host and a list of namespace segments.  The
rewrite compares characters: it looks for one prefix, glued together from the
trimmed registry and the trimmed namespace.  With at least one namespace
segment the comparison agrees with a comparison of segments.  Without any,
the glued prefix has an empty segment of its own, `registry//`, and no
reference into that registry matches it.
-/

/-- The reference with the given host and path segments. -/
def reference (host : String) (segments : List Segment) : String :=
  joinSlash (host :: Segment.texts segments)

namespace MCPGPluginMirrorSpec

/-- The upstream of the mirror is written for this registry and namespace, up
to stray slashes around either. -/
structure StandsFor (spec : MCPGPluginMirrorSpec) (registry : Segment) (ns : List Segment) : Prop where
  registry : ∃ after, spec.upstream.registry = registry.text ++ repeated '/' after
  ns : ∃ before after, spec.upstream.«namespace» =
    repeated '/' before ++ joinSlash (Segment.texts ns) ++ repeated '/' after

/-- The reference lies under the upstream, with the segments `rest` behind
it. -/
def Under (registry : Segment) (ns : List Segment) (host : String)
    (segments rest : List Segment) : Prop :=
  host = registry.text ∧ segments = ns ++ rest ∧ rest ≠ []

/-- The mirror rewrites the reference exactly when it lies under the upstream,
and keeps the segments behind it in order. -/
structure MatchesSegments (spec : MCPGPluginMirrorSpec) (registry : Segment) (ns : List Segment)
    (host : String) (segments : List Segment) : Prop where
  applies : ∀ rest, Under registry ns host segments rest →
    spec.rewrite (reference host segments) = .rewritten
      (spec.endpoint.service.host ++ spec.mirrorPath ++ "/" ++ joinSlash (Segment.texts rest))
  leaves : (∀ rest, ¬ Under registry ns host segments rest) →
    spec.rewrite (reference host segments) = .notApplicable

variable {spec : MCPGPluginMirrorSpec} {registry : Segment} {ns : List Segment} {host : String}
  {segments : List Segment}

theorem upstreamRegistry_of_standsFor (stands : spec.StandsFor registry ns) :
    spec.upstreamRegistry = registry.text := by
  rcases stands.registry with ⟨after, written⟩
  rw [upstreamRegistry, written, trimEndMatches_append_repeated,
    trimEndMatches_of_not_mem registry.slashFree]

theorem upstreamNamespace_of_standsFor (stands : spec.StandsFor registry ns) :
    spec.upstreamNamespace = joinSlash (Segment.texts ns) := by
  rcases stands.ns with ⟨before, after, written⟩
  rw [upstreamNamespace, written, trimMatches_joinSlash]

/-- The glued prefix is a path; an empty namespace becomes an empty segment. -/
theorem upstreamPrefix_of_standsFor (stands : spec.StandsFor registry ns) :
    spec.upstreamPrefix =
      joinSlash (registry.text :: if ns = [] then [""] else Segment.texts ns) ++ "/" := by
  rw [upstreamPrefix, upstreamRegistry_of_standsFor stands, upstreamNamespace_of_standsFor stands]
  by_cases vacant : ns = []
  · rw [if_pos vacant, vacant, joinSlash_cons _ (by simp), joinSlash_singleton]
    rfl
  · have nonempty : Segment.texts ns ≠ [] := by simpa [Segment.texts] using vacant
    rw [if_neg vacant, joinSlash_cons _ nonempty]

/-- A reference starts with the glued prefix exactly when its segments start
with those of the prefix and go on. -/
theorem reference_eq_append_iff (stands : spec.StandsFor registry ns) (hostFree : SlashFree host)
    (rest : String) :
    reference host segments = spec.upstreamPrefix ++ rest ↔
      ∃ behind, behind ≠ [] ∧
        host :: Segment.texts segments =
          registry.text :: (if ns = [] then [""] else Segment.texts ns) ++ behind ∧
        rest = joinSlash behind := by
  rw [reference, upstreamPrefix_of_standsFor stands]
  refine joinSlash_eq_append_iff (by simp) (by simp) ?_ ?_ rest
  · intro s member
    rcases List.mem_cons.mp member with first | later
    · exact first ▸ registry.slashFree
    · split at later
      · rw [List.mem_singleton.mp later]
        decide
      · exact Segment.slashFree_of_mem_texts later
  · intro s member
    rcases List.mem_cons.mp member with first | later
    · exact first ▸ hostFree
    · exact Segment.slashFree_of_mem_texts later

/-- With a namespace, the glued prefix separates segments from segments. -/
theorem reference_eq_append_iff_under (stands : spec.StandsFor registry ns)
    (hostFree : SlashFree host) (nonempty : ns ≠ []) (rest : String) :
    reference host segments = spec.upstreamPrefix ++ rest ↔
      ∃ behind, Under registry ns host segments behind ∧ rest = joinSlash (Segment.texts behind) := by
  rw [reference_eq_append_iff stands hostFree, if_neg nonempty]
  constructor
  · rintro ⟨behind, more, split, equal⟩
    rw [List.cons_append, List.cons.injEq] at split
    rcases List.map_eq_append_iff.mp split.2 with ⟨front, tail, shape, frontTexts, tailTexts⟩
    have sameFront : front = ns := Segment.texts_injective frontTexts
    refine ⟨tail, ⟨split.1, sameFront ▸ shape, ?_⟩, by rw [equal, ← tailTexts]; rfl⟩
    rintro rfl
    exact more tailTexts.symm
  · rintro ⟨behind, ⟨same, split, more⟩, equal⟩
    refine ⟨Segment.texts behind, by simpa [Segment.texts] using more, ?_, equal⟩
    rw [same, split, Segment.texts_append, List.cons_append]

/-- Without a namespace, no reference with proper segments matches. -/
theorem reference_ne_append (stands : spec.StandsFor registry ns) (hostFree : SlashFree host)
    (vacant : ns = []) (rest : String) :
    reference host segments ≠ spec.upstreamPrefix ++ rest := by
  intro equal
  rcases (reference_eq_append_iff stands hostFree rest).mp equal with ⟨behind, -, split, -⟩
  rw [if_pos vacant, List.cons_append, List.cons.injEq] at split
  have member : "" ∈ Segment.texts segments := split.2 ▸ List.mem_cons_self
  exact Segment.ne_empty_of_mem_texts member rfl

/-- The references that are rewritten lie under a namespace of the upstream. -/
theorem exists_rewritten_reference_iff (stands : spec.StandsFor registry ns)
    (hostFree : SlashFree host) :
    (∃ out, spec.rewrite (reference host segments) = .rewritten out) ↔
      ns ≠ [] ∧ ∃ behind, Under registry ns host segments behind := by
  by_cases vacant : ns = []
  · apply iff_of_false
    · intro ⟨out, rewritten⟩
      rcases rewrite_eq_rewritten_iff_behind.mp rewritten with ⟨rest, equal, -⟩
      exact reference_ne_append stands hostFree vacant rest equal
    · exact fun found => found.1 vacant
  · constructor
    · intro ⟨out, rewritten⟩
      rcases rewrite_eq_rewritten_iff_behind.mp rewritten with ⟨rest, equal, -⟩
      have matched := (reference_eq_append_iff_under stands hostFree vacant rest).mp equal
      rcases matched with ⟨behind, under, -⟩
      exact ⟨vacant, behind, under⟩
    · intro ⟨_, behind, under⟩
      refine ⟨_, rewrite_eq_rewritten_iff_behind.mpr ⟨joinSlash (Segment.texts behind), ?_, rfl⟩⟩
      exact (reference_eq_append_iff_under stands hostFree vacant _).mpr ⟨behind, under, rfl⟩

/-- The rewrite matches by segments exactly when the upstream has a namespace
segment or the reference points to another registry. -/
theorem matchesSegments_iff (stands : spec.StandsFor registry ns) (hostFree : SlashFree host)
    (pathNonempty : segments ≠ []) :
    spec.MatchesSegments registry ns host segments ↔ ns ≠ [] ∨ host ≠ registry.text := by
  by_cases vacant : ns = []
  · have missed : spec.rewrite (reference host segments) = .notApplicable :=
      rewrite_eq_notApplicable_iff.mpr (reference_ne_append stands hostFree vacant)
    constructor
    · intro matched
      apply Or.inr
      intro same
      have applied := matched.applies segments ⟨same, by rw [vacant, List.nil_append], pathNonempty⟩
      rw [missed] at applied
      cases applied
    · intro other
      have different := other.resolve_left (fun nonempty => nonempty vacant)
      exact ⟨fun rest under => absurd under.1 different, fun _ => missed⟩
  · refine iff_of_true ⟨?_, ?_⟩ (Or.inl vacant)
    · intro rest under
      apply rewrite_eq_rewritten_iff.mpr
      apply (rebase_eq_some_iff _ _ _ _).mpr
      exact ⟨_, (reference_eq_append_iff_under stands hostFree vacant _).mpr ⟨rest, under, rfl⟩, rfl⟩
    · intro elsewhere
      apply rewrite_eq_notApplicable_iff.mpr
      intro rest equal
      have matched := (reference_eq_append_iff_under stands hostFree vacant rest).mp equal
      rcases matched with ⟨behind, under, -⟩
      exact elsewhere behind under

/-- The namespace of the documented mirror. -/
def sourceCode : List Segment :=
  [⟨"mcpg-dev", by decide, by decide⟩, ⟨"source-code", by decide, by decide⟩]

def ghcr : Segment := ⟨"ghcr.io", by decide, by decide⟩

def audit : List Segment := [⟨"audit:1.0.0", by decide, by decide⟩]

/-- The documented mirror matches a reference under its upstream. -/
theorem matchesSegments_harbor :
    harbor.MatchesSegments ghcr sourceCode "ghcr.io" (sourceCode ++ audit) :=
  (matchesSegments_iff ⟨⟨0, by decide⟩, ⟨0, 0, by decide⟩⟩ (by decide) (by simp [sourceCode])).mpr
    (Or.inl (by simp [sourceCode]))

/-- A mirror for repositories directly under the registry host. -/
def hostOnly : MCPGPluginMirrorSpec :=
  { harbor with upstream := ⟨"ghcr.io", ""⟩ }

/-- It stands for that registry, and rewrites none of its references. -/
theorem not_matchesSegments_hostOnly :
    hostOnly.StandsFor ghcr [] ∧ ¬ hostOnly.MatchesSegments ghcr [] "ghcr.io" audit := by
  refine ⟨⟨⟨0, by decide⟩, ⟨0, 0, by decide⟩⟩, fun matched => ?_⟩
  have applied := matched.applies audit ⟨rfl, rfl, by simp [audit]⟩
  exact absurd applied (by decide)

end MCPGPluginMirrorSpec

end McpgOperatorApi
