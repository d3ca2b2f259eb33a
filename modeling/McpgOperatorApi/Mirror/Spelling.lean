import McpgOperatorApi.Mirror.Rewrite

namespace McpgOperatorApi

open Text

/-!
# Slashes in the spelling of a mirror

The registry loses its trailing slashes, the namespace and the path prefix
lose theirs at both ends, and a path prefix without anything else counts as
absent.  Nothing but the trimmed texts enters a rewrite, so the spelling of a
mirror has no influence on it.

The trimmed texts meet at single slashes.  The host has none of its own and
the trimmed path prefix none at its ends, so an empty segment of a rewritten
reference must come from within the path prefix or from within the remainder.
-/

namespace MCPGPluginMirrorSpec

variable (spec : MCPGPluginMirrorSpec)

/-- The path prefix without the slashes around it; an absent one counts as
empty. -/
def trimmedPathPrefix : String :=
  trimMatches (spec.endpoint.service.pathPrefix.getD "") '/'

theorem mirrorPath_eq :
    spec.mirrorPath =
      if spec.trimmedPathPrefix.isEmpty then "" else "/" ++ spec.trimmedPathPrefix := by
  unfold mirrorPath trimmedPathPrefix
  cases spec.endpoint.service.pathPrefix with
  | none => rfl
  | some p => rfl

/-- The mirrors differ in nothing but the slashes around the registry, the
namespace and the path prefix, as far as a rewrite is concerned. -/
structure SameUpToSlashes (other : MCPGPluginMirrorSpec) : Prop where
  name : spec.endpoint.service.name = other.endpoint.service.name
  ns : spec.endpoint.service.«namespace» = other.endpoint.service.«namespace»
  port : spec.endpoint.service.port = other.endpoint.service.port
  upstreamRegistry : trimEndMatches spec.upstream.registry '/' =
    trimEndMatches other.upstream.registry '/'
  upstreamNamespace : trimMatches spec.upstream.«namespace» '/' =
    trimMatches other.upstream.«namespace» '/'
  pathPrefix : spec.trimmedPathPrefix = other.trimmedPathPrefix

/-- The empty segment between `front` and `behind` lies in the remainder. -/
def InRemainder (remainder front behind : String) : Prop :=
  ∃ before, front = spec.mirrorPrefix ++ before ∧ remainder = before ++ "//" ++ behind

/-- The empty segment between `front` and `behind` lies in the trimmed path
prefix. -/
def InPathPrefix (remainder front behind : String) : Prop :=
  ∃ before after, front = spec.endpoint.service.host ++ "/" ++ before ∧
    spec.trimmedPathPrefix = before ++ "//" ++ after ∧ behind = after ++ "/" ++ remainder

variable {spec}

/-- The prefixes are made from the trimmed texts. -/
theorem SameUpToSlashes.prefixes {other : MCPGPluginMirrorSpec} (same : spec.SameUpToSlashes other) :
    spec.upstreamPrefix = other.upstreamPrefix ∧ spec.mirrorPrefix = other.mirrorPrefix := by
  have host : spec.endpoint.service.host = other.endpoint.service.host := by
    unfold MirrorService.host
    rw [same.name, same.ns, same.port]
  constructor
  · unfold upstreamPrefix MCPGPluginMirrorSpec.upstreamRegistry
      MCPGPluginMirrorSpec.upstreamNamespace
    rw [same.upstreamRegistry, same.upstreamNamespace]
  · unfold mirrorPrefix
    rw [host, mirrorPath_eq, mirrorPath_eq, same.pathPrefix]

theorem SameUpToSlashes.rewrite {other : MCPGPluginMirrorSpec} (same : spec.SameUpToSlashes other)
    (image : String) : spec.rewrite image = other.rewrite image := by
  rw [rewrite_eq_rebase, rewrite_eq_rebase, same.prefixes.1, same.prefixes.2]

/-- The path of the mirror does not end with a slash, and adds none to a host
without one. -/
theorem getLast?_host_mirrorPath (host : SlashFree spec.endpoint.service.host) :
    (spec.endpoint.service.host ++ spec.mirrorPath).toList.getLast? ≠ some '/' := by
  rw [mirrorPath_eq]
  by_cases vacant : spec.trimmedPathPrefix.isEmpty = true
  · rw [if_pos vacant, String.append_empty]
    exact host.getLast?
  · rw [if_neg vacant, ← String.append_assoc, String.toList_append,
      List.getLast?_append_of_ne_nil _ (by simpa using vacant)]
    exact getLast?_trimMatches _ _

/-- In front of the remainder, the path prefix is the only place for an empty
segment. -/
theorem emptySegment_host_mirrorPath (host : SlashFree spec.endpoint.service.host)
    {front behind : String}
    (doubled : spec.endpoint.service.host ++ spec.mirrorPath = front ++ "//" ++ behind) :
    ∃ before, front = spec.endpoint.service.host ++ "/" ++ before ∧
      spec.trimmedPathPrefix = before ++ "//" ++ behind := by
  rw [mirrorPath_eq] at doubled
  by_cases vacant : spec.trimmedPathPrefix.isEmpty = true
  · rw [if_pos vacant, String.append_empty] at doubled
    exact absurd doubled (host.ne_emptySegment _ _)
  · rw [if_neg vacant, ← String.append_assoc] at doubled
    have first := head?_trimMatches (spec.endpoint.service.pathPrefix.getD "") '/'
    rcases emptySegment_around host.getLast? first doubled with ⟨rest, inside, -⟩ | within
    · exact absurd inside (host.ne_emptySegment _ _)
    · exact within

/-- The slashes in the spelling of a mirror neither change a rewrite nor add an
empty segment to it. -/
theorem rewrite_ignores_slashes (spec : MCPGPluginMirrorSpec) :
    (∀ other, spec.SameUpToSlashes other → ∀ image, spec.rewrite image = other.rewrite image) ∧
      (SlashFree spec.endpoint.service.name → SlashFree spec.endpoint.service.«namespace» →
        ∀ remainder out, remainder.toList.head? ≠ some '/' →
          spec.rewrite (spec.upstreamPrefix ++ remainder) = .rewritten out →
            ∀ front behind, out = front ++ "//" ++ behind →
              spec.InRemainder remainder front behind ∨
                spec.InPathPrefix remainder front behind) := by
  constructor
  · intro other same image
    exact same.rewrite image
  · intro name ns remainder out first rewritten front behind doubled
    have host : SlashFree spec.endpoint.service.host := slashFree_host name ns
    rcases (rebase_eq_some_iff _ _ _ _).mp (rewrite_eq_rewritten_iff.mp rewritten) with
      ⟨rest, source, target⟩
    have kept : remainder = rest := (String.append_right_inj _).mp source
    rw [target, ← kept, mirrorPrefix] at doubled
    rcases emptySegment_around (getLast?_host_mirrorPath host) first doubled with
      ⟨rest, inside, after⟩ | ⟨more, before, inside⟩
    · rcases emptySegment_host_mirrorPath host inside with ⟨before, leading, within⟩
      exact Or.inr ⟨before, rest, leading, within, after⟩
    · exact Or.inl ⟨more, before, inside⟩

/-- The documented mirror, spelled with stray slashes. -/
def slashedHarbor : MCPGPluginMirrorSpec :=
  { harbor with
    endpoint := ⟨⟨"oci-mirror", "harbor", 80, some "//v2/mirror/"⟩, true⟩
    upstream := ⟨"ghcr.io//", "/mcpg-dev/source-code///"⟩ }

/-- The stray slashes make no difference, and the empty segment of the result is
one of the reference. -/
theorem rewrite_ignores_slashes_harbor :
    slashedHarbor.rewrite "ghcr.io/mcpg-dev/source-code/plugins//audit:1.0.0" =
        harbor.rewrite "ghcr.io/mcpg-dev/source-code/plugins//audit:1.0.0" ∧
      slashedHarbor.rewrite (slashedHarbor.upstreamPrefix ++ "plugins//audit:1.0.0") =
        .rewritten "harbor.oci-mirror.svc.cluster.local:80/v2/mirror/plugins//audit:1.0.0" ∧
      (slashedHarbor.InRemainder "plugins//audit:1.0.0"
          "harbor.oci-mirror.svc.cluster.local:80/v2/mirror/plugins" "audit:1.0.0" ∨
        slashedHarbor.InPathPrefix "plugins//audit:1.0.0"
          "harbor.oci-mirror.svc.cluster.local:80/v2/mirror/plugins" "audit:1.0.0") := by
  have same : slashedHarbor.SameUpToSlashes harbor := by
    constructor <;> decide
  have rewritten : slashedHarbor.rewrite (slashedHarbor.upstreamPrefix ++ "plugins//audit:1.0.0") =
      .rewritten "harbor.oci-mirror.svc.cluster.local:80/v2/mirror/plugins//audit:1.0.0" :=
    rewrite_eq_rewritten_iff_behind.mpr ⟨_, rfl, by decide⟩
  refine ⟨(rewrite_ignores_slashes slashedHarbor).1 harbor same _, rewritten, ?_⟩
  exact (rewrite_ignores_slashes slashedHarbor).2 (by decide) (by decide) _ _ (by decide)
    rewritten _ _ (by decide)

end MCPGPluginMirrorSpec

end McpgOperatorApi
