import McpgOperatorApi.V1alpha1.PluginMirror
import McpgOperatorApi.Text.Paths

namespace McpgOperatorApi

open Text

/-!
# What a rewrite keeps

Rewriting exchanges the upstream prefix of a reference for the prefix of the
mirror.  The remainder is kept character by character, which is why the tag
and the digest survive and why the exchange can be undone.  The host part of
the mirror prefix is set off by the first slash, so a rewritten reference is
not taken for an upstream one again.
-/

/-- The name part of a reference: what is behind its last slash. -/
def lastSegment (image : String) : String :=
  afterLast image '/'

/-- The digest of a reference, behind the first `@` of its last segment. -/
def digest (image : String) : Option String :=
  stripPrefix (lastSegment image) (beforeFirst (lastSegment image) '@' ++ "@")

/-- The tag of a reference, behind the first `:` of its last segment and in
front of the digest. -/
def tag (image : String) : Option String :=
  let named := beforeFirst (lastSegment image) '@'
  stripPrefix named (beforeFirst named ':' ++ ":")

example : tag "localhost:5000/plugins/audit@sha256:abcd" = none := by decide

namespace MCPGPluginMirrorSpec

variable (spec : MCPGPluginMirrorSpec)

/-- The normalised upstream registry. -/
def upstreamRegistry : String :=
  trimEndMatches spec.upstream.registry '/'

/-- The normalised upstream namespace. -/
def upstreamNamespace : String :=
  trimMatches spec.upstream.«namespace» '/'

/-- The normalised path prefix, behind a slash unless it is empty. -/
def mirrorPath : String :=
  match spec.endpoint.service.pathPrefix with
  | some p => if (trimMatches p '/').isEmpty then "" else "/" ++ trimMatches p '/'
  | none => ""

/-- What an upstream reference starts with. -/
def upstreamPrefix : String :=
  spec.upstreamRegistry ++ "/" ++ spec.upstreamNamespace ++ "/"

/-- What a rewritten reference starts with. -/
def mirrorPrefix : String :=
  spec.endpoint.service.host ++ spec.mirrorPath ++ "/"

/-- A rewrite exchanges the upstream prefix for the mirror prefix. -/
theorem rewrite_eq_rebase (image : String) :
    spec.rewrite image =
      match rebase image spec.upstreamPrefix spec.mirrorPrefix with
      | some out => .rewritten out
      | none => .notApplicable := by
  simp only [rewrite, rebase, upstreamPrefix, upstreamRegistry, upstreamNamespace, mirrorPrefix,
    mirrorPath]
  split <;> rename_i stripped
  · rw [stripped]
    rfl
  · rw [stripped]
    cases spec.endpoint.service.pathPrefix <;> rfl

variable {spec}

theorem rewrite_eq_rewritten_iff {image out : String} :
    spec.rewrite image = .rewritten out ↔
      rebase image spec.upstreamPrefix spec.mirrorPrefix = some out := by
  rw [rewrite_eq_rebase]
  cases rebase image spec.upstreamPrefix spec.mirrorPrefix <;> simp

/-- A rewritten reference has the mirror prefix where the image has the
upstream prefix. -/
theorem rewrite_eq_rewritten_iff_behind {image out : String} :
    spec.rewrite image = .rewritten out ↔
      ∃ rest, image = spec.upstreamPrefix ++ rest ∧ out = spec.mirrorPrefix ++ rest := by
  rw [rewrite_eq_rewritten_iff, rebase_eq_some_iff]

theorem rewrite_eq_notApplicable_iff {image : String} :
    spec.rewrite image = .notApplicable ↔ ∀ rest, image ≠ spec.upstreamPrefix ++ rest := by
  rw [rewrite_eq_rebase, ← stripPrefix_eq_none_iff, rebase]
  cases stripPrefix image spec.upstreamPrefix <;> simp

/-- A port is written in decimal digits. -/
theorem slashFree_toString_port (port : UInt16) : SlashFree (toString port) := by
  intro member
  change '/' ∈ (Nat.repr port.toNat).toList at member
  exact absurd (isDigit_of_mem_repr member) (by decide)

/-- The mirror host is one path segment. -/
theorem slashFree_host {service : MirrorService} (name : SlashFree service.name)
    (ns : SlashFree service.«namespace») : SlashFree service.host := by
  have port := slashFree_toString_port service.port
  simp only [SlashFree, MirrorService.host, String.toList_append, List.mem_append, not_or] at *
  exact ⟨⟨⟨⟨name, by decide⟩, ns⟩, by decide⟩, port⟩

/-- The path prefix together with the slash behind it starts with a slash,
whether there is a path prefix or not. -/
theorem exists_mirrorPath : ∃ behind, spec.mirrorPath ++ "/" = "/" ++ behind := by
  unfold mirrorPath
  split
  · split
    · exact ⟨"", rfl⟩
    · exact ⟨_, String.append_assoc⟩
  · exact ⟨"", rfl⟩

variable (spec) in
/-- The upstream reference that a rewritten reference comes from. -/
def restore (out : String) : Option String :=
  rebase out spec.mirrorPrefix spec.upstreamPrefix

/-- How a rewritten reference relates to the original one. -/
structure KeepsIdentity (spec : MCPGPluginMirrorSpec) (image out : String) : Prop where
  /-- The part before the first slash is the mirror host. -/
  host : beforeFirst out '/' = spec.endpoint.service.name ++ "." ++
    spec.endpoint.service.«namespace» ++ ".svc.cluster.local:" ++ toString spec.endpoint.service.port
  /-- The last segment is the old one, and with it the tag and the digest. -/
  lastSegment : lastSegment out = lastSegment image ∧ tag out = tag image ∧ digest out = digest image
  /-- The last segment lies behind the mirror prefix, clear of its port. -/
  behind : ∃ front, out = spec.mirrorPrefix ++ front ++ McpgOperatorApi.lastSegment out
  /-- Exchanging the prefixes back gives the original reference. -/
  restores : spec.restore out = some image
  /-- No other reference is rewritten to the same one. -/
  unique : ∀ other, spec.rewrite other = .rewritten out → other = image
  /-- A second pass leaves the rewritten reference alone. -/
  once : SlashFree spec.upstreamRegistry → spec.upstreamRegistry ≠ spec.endpoint.service.host →
    spec.rewrite out = .notApplicable

/-- A text behind a slash has the last segment of that text. -/
theorem lastSegment_append_slash (front rest : String) :
    lastSegment (front ++ "/" ++ rest) = lastSegment rest := by
  have shape : (front ++ "/" ++ rest).toList = front.toList ++ '/' :: rest.toList := by simp
  exact afterLast_of_toList shape

theorem lastSegment_upstreamPrefix (rest : String) :
    lastSegment (spec.upstreamPrefix ++ rest) = lastSegment rest :=
  lastSegment_append_slash _ rest

theorem lastSegment_mirrorPrefix (rest : String) :
    lastSegment (spec.mirrorPrefix ++ rest) = lastSegment rest :=
  lastSegment_append_slash _ rest

/-- The host of a rewritten reference can be read off. -/
theorem beforeFirst_mirrorPrefix (slashFree : SlashFree spec.endpoint.service.host) (rest : String) :
    beforeFirst (spec.mirrorPrefix ++ rest) '/' = spec.endpoint.service.host := by
  rcases spec.exists_mirrorPath with ⟨behind, shape⟩
  have glued : spec.mirrorPrefix = spec.endpoint.service.host ++ ("/" ++ behind) := by
    rw [mirrorPrefix, String.append_assoc, shape]
  have split : (spec.mirrorPrefix ++ rest).toList =
      spec.endpoint.service.host.toList ++ '/' :: (behind.toList ++ rest.toList) := by
    rw [glued]
    simp
  exact beforeFirst_of_toList split slashFree

/-- The registry of an upstream reference can be read off. -/
theorem beforeFirst_upstreamPrefix (slashFree : SlashFree spec.upstreamRegistry) (rest : String) :
    beforeFirst (spec.upstreamPrefix ++ rest) '/' = spec.upstreamRegistry := by
  have split : (spec.upstreamPrefix ++ rest).toList = spec.upstreamRegistry.toList ++
      '/' :: (spec.upstreamNamespace.toList ++ '/' :: rest.toList) := by
    simp [upstreamPrefix]
  exact beforeFirst_of_toList split slashFree

/-- Mirror rewriting keeps the identity of the artefact and is reversible. -/
theorem keepsIdentity_of_rewritten {image out : String}
    (name : SlashFree spec.endpoint.service.name)
    (ns : SlashFree spec.endpoint.service.«namespace»)
    (rewritten : spec.rewrite image = .rewritten out) : spec.KeepsIdentity image out := by
  have rebased := rewrite_eq_rewritten_iff.mp rewritten
  have host : SlashFree spec.endpoint.service.host := slashFree_host name ns
  rcases (rebase_eq_some_iff _ _ _ _).mp rebased with ⟨rest, source, target⟩
  have segment : McpgOperatorApi.lastSegment out = McpgOperatorApi.lastSegment image := by
    rw [source, target, lastSegment_mirrorPrefix, lastSegment_upstreamPrefix]
  refine
    { host := ?_
      lastSegment := ⟨segment, ?_, ?_⟩
      behind := ?_
      restores := rebase_symm rebased
      unique := ?_
      once := ?_ }
  · rw [target, beforeFirst_mirrorPrefix host]
    rfl
  · unfold tag
    rw [segment]
  · unfold digest
    rw [segment]
  · rcases afterLast_suffix rest '/' with ⟨front, split⟩
    refine ⟨front, ?_⟩
    rw [target, lastSegment_mirrorPrefix, String.append_assoc]
    exact congrArg _ split
  · intro other otherRewritten
    have back := rebase_symm (rewrite_eq_rewritten_iff.mp otherRewritten)
    rw [rebase_symm rebased] at back
    exact (Option.some.inj back).symm
  · intro registry different
    apply rewrite_eq_notApplicable_iff.mpr
    intro again shape
    apply different
    rw [← beforeFirst_upstreamPrefix registry again, ← shape, target, beforeFirst_mirrorPrefix host]

/-- The mirror of the documentation. -/
def harbor : MCPGPluginMirrorSpec where
  endpoint := ⟨⟨"oci-mirror", "harbor", 80, some "/v2/mirror"⟩, true⟩
  upstream := ⟨"ghcr.io", "mcpg-dev/source-code"⟩
  auth := none
  resyncInterval := none

theorem keepsIdentity_harbor :
    harbor.rewrite "ghcr.io/mcpg-dev/source-code/plugins/audit:1.2.3@sha256:abcd" =
        .rewritten "harbor.oci-mirror.svc.cluster.local:80/v2/mirror/plugins/audit:1.2.3@sha256:abcd" ∧
      harbor.KeepsIdentity "ghcr.io/mcpg-dev/source-code/plugins/audit:1.2.3@sha256:abcd"
        "harbor.oci-mirror.svc.cluster.local:80/v2/mirror/plugins/audit:1.2.3@sha256:abcd" :=
  ⟨by decide, keepsIdentity_of_rewritten (by decide) (by decide) (by decide)⟩

end MCPGPluginMirrorSpec

end McpgOperatorApi
