import McpgOperatorApi.Mirror.Segments

namespace McpgOperatorApi

open Text

/-!
# Several mirrors

A mirror may itself be mirrored: its rewritten references are then the upstream
references of a second mirror.  Two mirrors may also serve overlapping
upstreams, so that a reference can be rewritten by either.  Both questions are
about the glued prefixes, and both have exact answers in terms of the segments
that were meant.
-/

namespace MCPGPluginMirrorSpec

variable {spec other : MCPGPluginMirrorSpec}

/-! ## A mirror of a mirror -/

/-- Rewrite a reference through one mirror, and what comes out of it through
another one. -/
def rewriteThrough (spec other : MCPGPluginMirrorSpec) (image : String) : MirrorRewrite :=
  match spec.rewrite image with
  | .rewritten out => other.rewrite out
  | .notApplicable => .notApplicable

/-- The mirror of the first upstream at the second endpoint. -/
def shortcut (spec other : MCPGPluginMirrorSpec) : MCPGPluginMirrorSpec :=
  { spec with endpoint := other.endpoint }

/-- The path prefix of the mirror is written for these segments, up to stray
slashes around them; no prefix stands for no segments. -/
def ServesUnder (spec : MCPGPluginMirrorSpec) (path : List Segment) : Prop :=
  (spec.endpoint.service.pathPrefix = none ∧ path = []) ∨
    ∃ before after, spec.endpoint.service.pathPrefix =
      some (repeated '/' before ++ joinSlash (Segment.texts path) ++ repeated '/' after)

theorem joinSlash_texts_isEmpty (path : List Segment) :
    (joinSlash (Segment.texts path)).isEmpty = decide (path = []) := by
  cases path with
  | nil => rfl
  | cons segment path =>
      rw [decide_eq_false (List.cons_ne_nil _ _), Bool.eq_false_iff]
      intro vacant
      have text := String.isEmpty_iff.mp vacant
      have chars := congrArg String.toList text
      by_cases last : path = []
      · subst last
        rw [Segment.texts, List.map_singleton, joinSlash_singleton] at text
        exact segment.nonempty text
      · rw [Segment.texts, List.map_cons, joinSlash_cons _ (by simpa using last)] at chars
        simp at chars

/-- The mirror prefix is a path, from the host to the last segment of the
path prefix. -/
theorem mirrorPrefix_of_servesUnder {path : List Segment} (serves : spec.ServesUnder path) :
    spec.mirrorPrefix = joinSlash (spec.endpoint.service.host :: Segment.texts path) ++ "/" := by
  have path_eq : spec.mirrorPath = if path = [] then "" else "/" ++ joinSlash (Segment.texts path) := by
    rcases serves with ⟨absent, rfl⟩ | ⟨before, after, given⟩
    · rw [mirrorPath, absent, if_pos rfl]
    · simp only [mirrorPath, given, trimMatches_joinSlash, joinSlash_texts_isEmpty, decide_eq_true_eq]
  rw [mirrorPrefix, path_eq]
  by_cases vacant : path = []
  · rw [if_pos vacant, vacant, Segment.texts, List.map_nil, joinSlash_singleton, String.append_empty]
  · have nonempty : Segment.texts path ≠ [] := by simpa [Segment.texts] using vacant
    rw [if_neg vacant, joinSlash_cons _ nonempty]
    simp only [String.append_assoc]

/-- Two exchanges of prefixes in a row are one exchange. -/
theorem rewriteThrough_of_glued (glued : other.upstreamPrefix = spec.mirrorPrefix) (image : String) :
    rewriteThrough spec other image = (shortcut spec other).rewrite image := by
  have same : (shortcut spec other).upstreamPrefix = spec.upstreamPrefix := rfl
  have target : (shortcut spec other).mirrorPrefix = other.mirrorPrefix := rfl
  cases first : spec.rewrite image with
  | rewritten out =>
      rcases rewrite_eq_rewritten_iff_behind.mp first with ⟨rest, source, middle⟩
      have second : other.rewrite out = .rewritten (other.mirrorPrefix ++ rest) :=
        rewrite_eq_rewritten_iff_behind.mpr ⟨rest, glued ▸ middle, rfl⟩
      have direct : (shortcut spec other).rewrite image = .rewritten (other.mirrorPrefix ++ rest) :=
        rewrite_eq_rewritten_iff_behind.mpr ⟨rest, same ▸ source, by rw [target]⟩
      rw [rewriteThrough, first, direct]
      exact second
  | notApplicable =>
      have direct : (shortcut spec other).rewrite image = .notApplicable := by
        apply rewrite_eq_notApplicable_iff.mpr
        rw [same]
        exact rewrite_eq_notApplicable_iff.mp first
      rw [rewriteThrough, first, direct]

/-- The first exchange is always made on what starts with its prefix. -/
theorem rewriteThrough_upstreamPrefix_append (rest : String) :
    rewriteThrough spec other (spec.upstreamPrefix ++ rest) = other.rewrite (spec.mirrorPrefix ++ rest) := by
  have first : spec.rewrite (spec.upstreamPrefix ++ rest) = .rewritten (spec.mirrorPrefix ++ rest) :=
    rewrite_eq_rewritten_iff_behind.mpr ⟨rest, rfl, rfl⟩
  rw [rewriteThrough, first]

/-- Behind a host without a path, the upstream prefix of the second mirror has
one slash more than the prefix of the first one. -/
theorem upstreamPrefix_of_hostOnly {host : Segment} (serves : spec.ServesUnder [])
    (address : host.text = spec.endpoint.service.host) (stands : other.StandsFor host []) :
    other.upstreamPrefix = spec.mirrorPrefix ++ "/" := by
  rw [mirrorPrefix_of_servesUnder serves, upstreamPrefix_of_standsFor stands, if_pos rfl, address,
    Segment.texts, List.map_nil, joinSlash_singleton, joinSlash_cons _ (List.cons_ne_nil _ _),
    joinSlash_singleton, String.append_empty]

/-- With one slash more, the second mirror finds the remainders with a slash in
front. -/
theorem rewriteThrough_of_slash (longer : other.upstreamPrefix = spec.mirrorPrefix ++ "/")
    (rest : String) :
    (rest.toList.head? ≠ some '/' →
      rewriteThrough spec other (spec.upstreamPrefix ++ rest) = .notApplicable) ∧
    rewriteThrough spec other (spec.upstreamPrefix ++ ("/" ++ rest)) =
      .rewritten (other.mirrorPrefix ++ rest) := by
  constructor
  · intro segment
    rw [rewriteThrough_upstreamPrefix_append, rewrite_eq_notApplicable_iff, longer]
    intro behind equal
    rw [String.append_assoc, String.append_right_inj] at equal
    rw [equal, String.toList_append] at segment
    exact segment rfl
  · rw [rewriteThrough_upstreamPrefix_append, rewrite_eq_rewritten_iff_behind, longer]
    exact ⟨rest, String.append_assoc.symm, rfl⟩

/-- When the upstream of the second mirror is the place where the first one
serves, rewriting through both is rewriting through the shortcut, provided
that the first mirror serves under a path.  Directly under its host it is
not: there, the second mirror finds what the first one has rewritten exactly
when the remainder starts with a slash. -/
theorem rewriteThrough_eq_iff {host : Segment} {path : List Segment} (serves : spec.ServesUnder path)
    (address : host.text = spec.endpoint.service.host) (stands : other.StandsFor host path) :
    ((∀ image, rewriteThrough spec other image = (shortcut spec other).rewrite image) ↔ path ≠ []) ∧
    (path = [] → ∀ rest,
      (rest.toList.head? ≠ some '/' →
        rewriteThrough spec other (spec.upstreamPrefix ++ rest) = .notApplicable) ∧
      rewriteThrough spec other (spec.upstreamPrefix ++ ("/" ++ rest)) =
        .rewritten (other.mirrorPrefix ++ rest)) := by
  have hostOnly : path = [] → other.upstreamPrefix = spec.mirrorPrefix ++ "/" := by
    intro vacant
    subst vacant
    exact upstreamPrefix_of_hostOnly serves address stands
  refine ⟨⟨?_, ?_⟩, ?_⟩
  · intro agrees vacant
    have missed := (rewriteThrough_of_slash (hostOnly vacant) "x").1 (by decide)
    have direct : (shortcut spec other).rewrite (spec.upstreamPrefix ++ "x") =
        .rewritten (other.mirrorPrefix ++ "x") :=
      rewrite_eq_rewritten_iff_behind.mpr ⟨"x", rfl, rfl⟩
    rw [agrees, direct] at missed
    cases missed
  · intro nonempty
    apply rewriteThrough_of_glued
    rw [upstreamPrefix_of_standsFor stands, mirrorPrefix_of_servesUnder serves, if_neg nonempty, address]
  · intro vacant
    exact rewriteThrough_of_slash (hostOnly vacant)

/-- The host of the documented mirror. -/
def harborHost : Segment := ⟨"harbor.oci-mirror.svc.cluster.local:80", by decide, by decide⟩

/-- A mirror of the documented mirror. -/
def edge : MCPGPluginMirrorSpec where
  endpoint := ⟨⟨"edge", "harbor", 80, none⟩, true⟩
  upstream := ⟨"harbor.oci-mirror.svc.cluster.local:80", "v2/mirror"⟩
  auth := none
  resyncInterval := none

/-- The path prefix of the documented mirror. -/
def harborPath : List Segment := [⟨"v2", by decide, by decide⟩, ⟨"mirror", by decide, by decide⟩]

theorem rewriteThrough_harbor_edge :
    (∀ image, rewriteThrough harbor edge image = (shortcut harbor edge).rewrite image) ∧
      rewriteThrough harbor edge "ghcr.io/mcpg-dev/source-code/audit:1" =
        .rewritten "harbor.edge.svc.cluster.local:80/audit:1" := by
  have serves : harbor.ServesUnder harborPath := Or.inr ⟨1, 0, by decide⟩
  have stands : edge.StandsFor harborHost harborPath := ⟨⟨0, by decide⟩, ⟨0, 0, by decide⟩⟩
  refine ⟨(rewriteThrough_eq_iff serves (by decide) stands).1.mpr (by simp [harborPath]), ?_⟩
  decide

/-! ## Overlapping mirrors -/

/-- The segments of the glued prefix behind the registry. -/
def glued (ns : List Segment) : List String :=
  if ns = [] then [""] else Segment.texts ns

/-- The glued prefix of one namespace starts with that of another one exactly
when their segments do, and neither or both are empty. -/
theorem glued_prefix_iff (first second : List Segment) :
    glued first <+: glued second ↔ (first = [] ↔ second = []) ∧ first <+: second := by
  unfold glued
  by_cases firstVacant : first = []
  · by_cases secondVacant : second = []
    · simp [firstVacant, secondVacant]
    · rw [if_pos firstVacant, if_neg secondVacant]
      constructor
      · intro inside
        have member : "" ∈ Segment.texts second := inside.subset List.mem_cons_self
        exact absurd rfl (Segment.ne_empty_of_mem_texts member)
      · intro ⟨both, _⟩
        exact absurd (both.mp firstVacant) secondVacant
  · by_cases secondVacant : second = []
    · rw [if_neg firstVacant, if_pos secondVacant]
      constructor
      · intro inside
        rcases List.exists_cons_of_ne_nil firstVacant with ⟨segment, more, rfl⟩
        have member : segment.text ∈ [""] := inside.subset List.mem_cons_self
        exact absurd (List.mem_singleton.mp member) segment.nonempty
      · intro ⟨both, _⟩
        exact absurd (both.mpr secondVacant) firstVacant
    · rw [if_neg firstVacant, if_neg secondVacant, Segment.texts_prefix_iff]
      simp [firstVacant, secondVacant]

/-- Some image string can be rewritten by two mirrors exactly when they mirror
the same registry and the namespace of one lies in that of the other, both
empty or neither. -/
theorem exists_rewritten_by_both_iff {registry otherRegistry : Segment} {ns otherNs : List Segment}
    (stands : spec.StandsFor registry ns) (otherStands : other.StandsFor otherRegistry otherNs) :
    (∃ image out otherOut, spec.rewrite image = .rewritten out ∧
      other.rewrite image = .rewritten otherOut) ↔
    registry.text = otherRegistry.text ∧ (ns = [] ↔ otherNs = []) ∧ (ns <+: otherNs ∨ otherNs <+: ns) := by
  have prefixes : (∃ image out otherOut, spec.rewrite image = .rewritten out ∧
        other.rewrite image = .rewritten otherOut) ↔
      ∃ left right, spec.upstreamPrefix ++ left = other.upstreamPrefix ++ right := by
    simp only [rewrite_eq_rewritten_iff_behind]
    constructor
    · intro ⟨image, _, _, ⟨left, here, _⟩, ⟨right, there, _⟩⟩
      exact ⟨left, right, here.symm.trans there⟩
    · intro ⟨left, right, equal⟩
      exact ⟨spec.upstreamPrefix ++ left, _, _, ⟨left, rfl, rfl⟩, ⟨right, equal, rfl⟩⟩
  have gluedFree : ∀ (host : Segment) (segments : List Segment), ∀ s ∈ host.text :: glued segments,
      SlashFree s := by
    intro host segments s member
    rcases List.mem_cons.mp member with rfl | later
    · exact host.slashFree
    · unfold glued at later
      split at later
      · rw [List.mem_singleton.mp later]
        decide
      · exact Segment.slashFree_of_mem_texts later
  rw [prefixes, upstreamPrefix_of_standsFor stands, upstreamPrefix_of_standsFor otherStands]
  change (∃ left right, joinSlash (registry.text :: glued ns) ++ "/" ++ left =
    joinSlash (otherRegistry.text :: glued otherNs) ++ "/" ++ right) ↔ _
  rw [exists_behind_both_iff (by simp) (by simp) (gluedFree registry ns)
    (gluedFree otherRegistry otherNs), List.cons_prefix_cons, List.cons_prefix_cons,
    glued_prefix_iff, glued_prefix_iff]
  constructor
  · intro nested
    rcases nested with ⟨same, both, inside⟩ | ⟨same, both, inside⟩
    · exact ⟨same, both, Or.inl inside⟩
    · exact ⟨same.symm, both.symm, Or.inr inside⟩
  · intro ⟨same, both, nested⟩
    exact nested.imp (fun inside => ⟨same, both, inside⟩) (fun inside => ⟨same.symm, both.symm, inside⟩)

/-- Some segments lie under two namespaces exactly when one namespace lies in
the other. -/
theorem exists_under_both_iff {registry otherRegistry : Segment} (ns otherNs : List Segment) :
    (∃ host segments, (∃ behind, Under registry ns host segments behind) ∧
      ∃ otherBehind, Under otherRegistry otherNs host segments otherBehind) ↔
    registry.text = otherRegistry.text ∧ (ns <+: otherNs ∨ otherNs <+: ns) := by
  constructor
  · intro ⟨host, segments, ⟨behind, here, split, _⟩, ⟨otherBehind, there, otherSplit, _⟩⟩
    have inside : ns <+: segments := ⟨behind, split.symm⟩
    have otherInside : otherNs <+: segments := ⟨otherBehind, otherSplit.symm⟩
    exact ⟨here.symm.trans there, List.prefix_or_prefix_of_prefix inside otherInside⟩
  · intro ⟨same, nested⟩
    -- one more segment, the host's say, goes behind the longer namespace
    rcases nested with ⟨more, longer⟩ | ⟨more, longer⟩
    · refine ⟨registry.text, otherNs ++ [registry], ⟨more ++ [registry], rfl, ?_, by simp⟩,
        ⟨[registry], same, rfl, List.cons_ne_nil _ _⟩⟩
      rw [← longer, List.append_assoc]
    · refine ⟨registry.text, ns ++ [registry], ⟨[registry], rfl, rfl, List.cons_ne_nil _ _⟩,
        ⟨more ++ [registry], same, ?_, by simp⟩⟩
      rw [← longer, List.append_assoc]

/-- Some reference can be rewritten by two mirrors exactly when they mirror the
same registry, both have a namespace, and one namespace lies in the other. -/
theorem exists_reference_rewritten_by_both_iff {registry otherRegistry : Segment}
    {ns otherNs : List Segment} (stands : spec.StandsFor registry ns)
    (otherStands : other.StandsFor otherRegistry otherNs) :
    (∃ host segments out otherOut, SlashFree host ∧
      spec.rewrite (reference host segments) = .rewritten out ∧
      other.rewrite (reference host segments) = .rewritten otherOut) ↔
    registry.text = otherRegistry.text ∧ ns ≠ [] ∧ otherNs ≠ [] ∧
      (ns <+: otherNs ∨ otherNs <+: ns) := by
  constructor
  · intro ⟨host, segments, out, otherOut, free, first, second⟩
    rcases (exists_rewritten_reference_iff stands free).mp ⟨out, first⟩ with ⟨nonempty, under⟩
    rcases (exists_rewritten_reference_iff otherStands free).mp ⟨otherOut, second⟩ with
      ⟨otherNonempty, otherUnder⟩
    rcases (exists_under_both_iff ns otherNs).mp ⟨host, segments, under, otherUnder⟩ with ⟨same, nested⟩
    exact ⟨same, nonempty, otherNonempty, nested⟩
  · intro ⟨same, nonempty, otherNonempty, nested⟩
    rcases (exists_under_both_iff ns otherNs).mpr ⟨same, nested⟩ with
      ⟨host, segments, ⟨behind, under⟩, otherUnder⟩
    have free : SlashFree host := under.1 ▸ registry.slashFree
    rcases (exists_rewritten_reference_iff stands free).mpr ⟨nonempty, behind, under⟩ with ⟨out, first⟩
    rcases (exists_rewritten_reference_iff otherStands free).mpr ⟨otherNonempty, otherUnder⟩ with
      ⟨otherOut, second⟩
    exact ⟨host, segments, out, otherOut, free, first, second⟩

/-- When two mirrors overlap.  Two mirrors without a namespace share image
strings with an empty segment, but no reference. -/
theorem rewritten_by_both_iff {registry otherRegistry : Segment} {ns otherNs : List Segment}
    (stands : spec.StandsFor registry ns) (otherStands : other.StandsFor otherRegistry otherNs) :
    ((∃ image out otherOut, spec.rewrite image = .rewritten out ∧
      other.rewrite image = .rewritten otherOut) ↔
    registry.text = otherRegistry.text ∧ (ns = [] ↔ otherNs = []) ∧ (ns <+: otherNs ∨ otherNs <+: ns)) ∧
    ((∃ host segments out otherOut, SlashFree host ∧
      spec.rewrite (reference host segments) = .rewritten out ∧
      other.rewrite (reference host segments) = .rewritten otherOut) ↔
    registry.text = otherRegistry.text ∧ ns ≠ [] ∧ otherNs ≠ [] ∧
      (ns <+: otherNs ∨ otherNs <+: ns)) :=
  ⟨exists_rewritten_by_both_iff stands otherStands,
    exists_reference_rewritten_by_both_iff stands otherStands⟩

/-- The documented mirror, for all of the organisation. -/
def wideHarbor : MCPGPluginMirrorSpec :=
  { harbor with upstream := ⟨"ghcr.io", "mcpg-dev"⟩ }

theorem rewritten_by_both_harbor :
    ∃ host segments out otherOut, SlashFree host ∧
      harbor.rewrite (reference host segments) = .rewritten out ∧
      wideHarbor.rewrite (reference host segments) = .rewritten otherOut := by
  have wide : wideHarbor.StandsFor ghcr [⟨"mcpg-dev", by decide, by decide⟩] :=
    ⟨⟨0, by decide⟩, ⟨0, 0, by decide⟩⟩
  have narrow : harbor.StandsFor ghcr sourceCode := ⟨⟨0, by decide⟩, ⟨0, 0, by decide⟩⟩
  apply (rewritten_by_both_iff narrow wide).2.mpr
  exact ⟨rfl, by simp [sourceCode], by simp, Or.inr ⟨_, rfl⟩⟩

end MCPGPluginMirrorSpec

end McpgOperatorApi
