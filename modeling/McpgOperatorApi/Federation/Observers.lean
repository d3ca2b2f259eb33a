import McpgOperatorApi.Federation.Endpoint
import McpgOperatorApi.Serde.Omission

namespace McpgOperatorApi

open Serde Text

/-!
# What the others see of a server

The operator renders a server and federates it through its effective values:
the replica count, the name in the federation and the endpoint.  Two servers
that are seen alike under all object names need not have the same fields, since
a field may be left out, a negative count is no count and a path may lack its
slash.  They are seen alike exactly when they agree once the defaults are
written out.
-/

namespace MCPGServerSpec

variable (s t : MCPGServerSpec)

/-- The servers are seen alike under all names. -/
structure SeenAlike : Prop where
  replicas : s.effectiveReplicas = t.effectiveReplicas
  federationName : ∀ objectName, s.federationName objectName = t.federationName objectName
  endpoint : ∀ serviceName ns, s.endpoint serviceName ns = t.endpoint serviceName ns

/-- The server with the defaults written out that do not depend on its name. -/
def writtenOut : MCPGServerSpec :=
  { s with
    replicas := some s.effectiveReplicas
    port := some s.effectivePort
    path := some s.effectivePath }

variable {s t}

/-- Behind the same names, whatever they contain, an endpoint determines port
and path. -/
theorem endpoint_eq_iff (serviceName ns : String) :
    s.endpoint serviceName ns = t.endpoint serviceName ns ↔
      s.effectivePort = t.effectivePort ∧ s.effectivePath = t.effectivePath := by
  constructor
  · intro same
    rcases s.exists_effectivePath with ⟨tail, path⟩
    rcases t.exists_effectivePath with ⟨tail', path'⟩
    have slashFree : ∀ port : Int32, '/' ∉ (toString port).toList := by
      intro port member
      exact absurd (endsAuthority_eq_false_of_port member) (by decide)
    simp only [endpoint, path, path', String.append_assoc, String.append_right_inj] at same
    have chars := congrArg String.toList same
    simp only [String.toList_append] at chars
    rcases cut_first (slashFree _) (slashFree _) chars with ⟨ports, tails⟩
    refine ⟨toString_port_injective (String.toList_injective ports), ?_⟩
    rw [path, path', String.toList_injective tails]
  · intro parts
    rw [endpoint, endpoint, parts.1, parts.2]

theorem effectiveReplicas_writtenOut : s.writtenOut.effectiveReplicas = s.effectiveReplicas := by
  change max (max (s.replicas.getD 1) 0) 0 = max (s.replicas.getD 1) 0
  change (if max (s.replicas.getD 1) 0 ≤ 0 then 0 else max (s.replicas.getD 1) 0) = _
  by_cases small : s.replicas.getD 1 ≤ 0
  · simp only [max, small, if_true, Int32.le_refl]
  · simp only [max, small, if_false]

theorem effectivePath_writtenOut : s.writtenOut.effectivePath = s.effectivePath := by
  have rooted : startsWith s.effectivePath "/" = true := (startsWith_iff _ _).mpr s.exists_effectivePath
  exact if_pos rooted

theorem seenAlike_writtenOut (s : MCPGServerSpec) : SeenAlike s.writtenOut s where
  replicas := effectiveReplicas_writtenOut
  federationName _ := rfl
  endpoint serviceName ns := (endpoint_eq_iff serviceName ns).mpr ⟨rfl, effectivePath_writtenOut⟩

theorem writtenOut_idem (s : MCPGServerSpec) : s.writtenOut.writtenOut = s.writtenOut := by
  rw [writtenOut, effectiveReplicas_writtenOut, effectivePath_writtenOut]
  rfl

/-- Servers are seen alike exactly when the written-out ones have the same
counts, ports and paths, and the same declared names. -/
theorem seenAlike_iff :
    SeenAlike s t ↔
      s.writtenOut.replicas = t.writtenOut.replicas ∧ s.writtenOut.port = t.writtenOut.port ∧
        s.writtenOut.path = t.writtenOut.path ∧
          (s.federate.bind fun f => f.name) = t.federate.bind fun f => f.name := by
  simp only [writtenOut, Option.some.injEq]
  constructor
  · intro alike
    have parts := (endpoint_eq_iff "" "").mp (alike.endpoint "" "")
    have nontrivial : Nontrivial String := ⟨"", "x", by decide⟩
    exact ⟨alike.replicas, parts.1, parts.2, eq_of_getD alike.federationName⟩
  · intro ⟨counts, ports, paths, names⟩
    refine ⟨counts, ?_, ?_⟩
    · intro objectName
      rw [federationName, federationName, names]
    · intro serviceName ns
      exact (endpoint_eq_iff serviceName ns).mpr ⟨ports, paths⟩

/-- What writing the defaults out has to do with being seen. -/
structure WrittenOutLaws (s : MCPGServerSpec) : Prop where
  /-- Writing the defaults out is not seen. -/
  unseen : SeenAlike s.writtenOut s
  /-- Nothing is left to write out. -/
  idem : s.writtenOut.writtenOut = s.writtenOut
  /-- Only the written-out fields and a declared name are seen. -/
  exact : ∀ t, SeenAlike s t ↔
    s.writtenOut.replicas = t.writtenOut.replicas ∧ s.writtenOut.port = t.writtenOut.port ∧
      s.writtenOut.path = t.writtenOut.path ∧
        (s.federate.bind fun f => f.name) = t.federate.bind fun f => f.name
  /-- Endpoints that agree under one pair of names, which may contain anything,
  agree under every pair. -/
  single : ∀ (t : MCPGServerSpec) serviceName ns, s.endpoint serviceName ns = t.endpoint serviceName ns →
    ∀ otherName otherNs, s.endpoint otherName otherNs = t.endpoint otherName otherNs

theorem writtenOutLaws (s : MCPGServerSpec) : s.WrittenOutLaws where
  unseen := seenAlike_writtenOut s
  idem := writtenOut_idem s
  exact _ := seenAlike_iff
  single t serviceName ns same otherName otherNs := by
    apply (endpoint_eq_iff otherName otherNs).mpr
    exact (endpoint_eq_iff serviceName ns).mp same

end MCPGServerSpec

end McpgOperatorApi
