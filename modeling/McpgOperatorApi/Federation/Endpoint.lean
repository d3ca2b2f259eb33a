import Mathlib
import McpgOperatorApi.V1alpha1.Server
import McpgOperatorApi.Text.Concatenation

namespace McpgOperatorApi

open Text

/-!
# Federation endpoints

The endpoint of a server is glued from two object names, a port and a path.
The path is the only free text among them, and it stands directly behind the
port.  Since it always starts with a slash, it can neither extend the port nor
reach into the host, whatever it contains.
-/

/-- The characters that separate the parts of a URL. -/
def urlDelimiters : List Char := ['.', '/', '?', '#', '@', ':']

/-- A name without delimiters. -/
def PlainLabel (s : String) : Prop :=
  ∀ c ∈ urlDelimiters, c ∉ s.toList

instance (s : String) : Decidable (PlainLabel s) :=
  List.decidableBAll (fun c => c ∉ s.toList) urlDelimiters

/-- A character that ends the authority of a URL. -/
def endsAuthority (c : Char) : Bool :=
  c == '/' || c == '?' || c == '#'

/-- The authority of a URL whose scheme has been removed. -/
def authority (url : String) : String :=
  String.ofList (url.toList.takeWhile (fun c => !endsAuthority c))

example : authority "audit.tools.svc.cluster.local:80/@evil.test" =
    "audit.tools.svc.cluster.local:80" := by decide

theorem endsAuthority_eq_false_of_plain {s : String} (plain : PlainLabel s) {c : Char}
    (member : c ∈ s.toList) : endsAuthority c = false := by
  have other : ∀ delimiter ∈ urlDelimiters, c ≠ delimiter := fun delimiter listed same =>
    plain delimiter listed (same ▸ member)
  simp [endsAuthority, other '/' (by decide), other '?' (by decide), other '#' (by decide)]

/-- A port consists of digits and possibly a sign. -/
theorem endsAuthority_eq_false_of_port {port : Int32} {c : Char}
    (member : c ∈ (toString port).toList) : endsAuthority c = false := by
  rcases isDigit_or_minus_of_mem_repr member with digit | rfl
  · by_contra ends
    rw [Bool.not_eq_false] at ends
    simp only [endsAuthority, Bool.or_eq_true, beq_iff_eq] at ends
    rcases ends with (rfl | rfl) | rfl <;> cases digit
  · rfl

theorem toString_port_injective {p q : Int32} (same : toString p = toString q) : p = q :=
  Int32.toInt_inj.mp (Int.repr_inj.mp same)

namespace MCPGServerSpec

/-- The authority of an endpoint. -/
def endpointAuthority (spec : MCPGServerSpec) (serviceName ns : String) : String :=
  serviceName ++ "." ++ ns ++ ".svc.cluster.local:" ++ toString spec.effectivePort

theorem endpoint_eq (spec : MCPGServerSpec) (serviceName ns : String) :
    spec.endpoint serviceName ns =
      "http://" ++ (spec.endpointAuthority serviceName ns ++ spec.effectivePath) := by
  simp only [endpoint, endpointAuthority, String.append_assoc]

/-- The effective path is rooted. -/
theorem exists_effectivePath (spec : MCPGServerSpec) : ∃ tail, spec.effectivePath = "/" ++ tail := by
  unfold effectivePath
  by_cases rooted : startsWith (spec.path.getD "/mcp") "/" = true
  · rw [if_pos rooted]
    exact (startsWith_iff _ _).mp rooted
  · rw [if_neg rooted]
    exact ⟨_, rfl⟩

/-- The path behind an authority does not change it. -/
theorem authority_endpointAuthority (spec : MCPGServerSpec) {serviceName ns : String}
    (service : PlainLabel serviceName) (namespaced : PlainLabel ns) :
    authority (spec.endpointAuthority serviceName ns ++ spec.effectivePath) =
      spec.endpointAuthority serviceName ns := by
  rcases spec.exists_effectivePath with ⟨tail, path⟩
  have dot : ".".toList.all (fun c => !endsAuthority c) = true := by decide
  have domain : ".svc.cluster.local:".toList.all (fun c => !endsAuthority c) = true := by decide
  have inside : ∀ c ∈ (spec.endpointAuthority serviceName ns).toList,
      (!endsAuthority c) = true := by
    intro c member
    simp only [endpointAuthority, String.toList_append, List.mem_append, or_assoc] at member
    rcases member with inService | inDot | inNamespace | inDomain | inPort
    · rw [endsAuthority_eq_false_of_plain service inService, Bool.not_false]
    · exact List.all_eq_true.mp dot c inDot
    · rw [endsAuthority_eq_false_of_plain namespaced inNamespace, Bool.not_false]
    · exact List.all_eq_true.mp domain c inDomain
    · rw [endsAuthority_eq_false_of_port inPort, Bool.not_false]
  have chars : (spec.endpointAuthority serviceName ns ++ spec.effectivePath).toList =
      (spec.endpointAuthority serviceName ns).toList ++ '/' :: tail.toList := by
    rw [path]
    simp
  rw [authority, chars, List.takeWhile_append_of_pos inside, List.takeWhile_cons_of_neg (by decide),
    List.append_nil, String.ofList_toList]

/-- What the endpoint of a server looks like. -/
structure EndpointShape (spec : MCPGServerSpec) (serviceName ns : String) : Prop where
  /-- Behind the scheme, the authority is the Service and port, and the path
  follows it. -/
  parts : ∃ url, spec.endpoint serviceName ns = "http://" ++ url ∧
    authority url = serviceName ++ "." ++ ns ++ ".svc.cluster.local:" ++ toString spec.effectivePort ∧
      url = authority url ++ spec.effectivePath
  rooted : startsWith spec.effectivePath "/" = true
  /-- A given path is kept, behind a slash if it has none. -/
  given : ∀ p, spec.path = some p →
    spec.effectivePath = if startsWith p "/" then p else "/" ++ p
  unset : spec.path = none → spec.effectivePath = "/mcp"
  portGiven : ∀ p, spec.port = some p → spec.effectivePort = p
  portUnset : spec.port = none → spec.effectivePort = 8080

theorem endpointShape (spec : MCPGServerSpec) {serviceName ns : String}
    (service : PlainLabel serviceName) (namespaced : PlainLabel ns) :
    spec.EndpointShape serviceName ns where
  parts := by
    refine ⟨_, spec.endpoint_eq serviceName ns, ?_, ?_⟩
    · rw [spec.authority_endpointAuthority service namespaced]
      rfl
    · rw [spec.authority_endpointAuthority service namespaced]
  rooted := (startsWith_iff _ _).mpr spec.exists_effectivePath
  given p path := by
    rw [effectivePath, path]
    rfl
  unset path := by
    rw [effectivePath, path]
    rfl
  portGiven p port := by
    rw [effectivePort, port, Option.getD_some]
  portUnset port := by
    rw [effectivePort, port, Option.getD_none]

/-- The authority determines both names and the port. -/
theorem endpointAuthority_injective {s t : MCPGServerSpec} {service service' ns ns' : String}
    (plainService : PlainLabel service) (plainService' : PlainLabel service') (plainNs : PlainLabel ns)
    (plainNs' : PlainLabel ns')
    (same : s.endpointAuthority service ns = t.endpointAuthority service' ns') :
    service = service' ∧ ns = ns' ∧ s.effectivePort = t.effectivePort := by
  have chars : ∀ (spec : MCPGServerSpec) (name space : String),
      (spec.endpointAuthority name space).toList = name.toList ++ '.' :: (space.toList ++ '.' ::
        ("svc.cluster.local:".toList ++ (toString spec.effectivePort).toList)) := by
    intro spec name space
    simp [endpointAuthority]
  have lists := congrArg String.toList same
  rw [chars, chars] at lists
  have serviceFree : '.' ∉ service.toList := plainService '.' (by decide)
  have serviceFree' : '.' ∉ service'.toList := plainService' '.' (by decide)
  have nsFree : '.' ∉ ns.toList := plainNs '.' (by decide)
  have nsFree' : '.' ∉ ns'.toList := plainNs' '.' (by decide)
  rcases cut_first serviceFree serviceFree' lists with ⟨services, behind⟩
  rcases cut_first nsFree nsFree' behind with ⟨spaces, ports⟩
  exact ⟨String.toList_injective services, String.toList_injective spaces,
    toString_port_injective (String.toList_injective (List.append_cancel_left ports))⟩

/-- A path cannot redirect an endpoint, and endpoints are told apart by their
parts. -/
theorem endpoint_laws {service service' ns ns' : String} (plainService : PlainLabel service)
    (plainService' : PlainLabel service') (plainNs : PlainLabel ns) (plainNs' : PlainLabel ns')
    (s t : MCPGServerSpec) :
    s.EndpointShape service ns ∧
      (s.endpoint service ns = t.endpoint service' ns' ↔
        service = service' ∧ ns = ns' ∧ s.effectivePort = t.effectivePort ∧
          s.effectivePath = t.effectivePath) := by
  refine ⟨s.endpointShape plainService plainNs, ?_⟩
  constructor
  · intro same
    rw [endpoint_eq, endpoint_eq, String.append_right_inj] at same
    have authorities := congrArg authority same
    rw [s.authority_endpointAuthority plainService plainNs,
      t.authority_endpointAuthority plainService' plainNs'] at authorities
    rcases endpointAuthority_injective plainService plainService' plainNs plainNs' authorities with
      ⟨services, spaces, ports⟩
    rw [authorities, String.append_right_inj] at same
    exact ⟨services, spaces, ports, same⟩
  · rintro ⟨rfl, rfl, ports, paths⟩
    rw [endpoint, endpoint, ports, paths]

/-- A server with a path that tries to name another host. -/
def redirecting : MCPGServerSpec :=
  { (default : MCPGServerSpec) with port := some 80, path := some "@evil.test/mcp" }

theorem endpoint_laws_redirecting :
    redirecting.EndpointShape "audit" "tools" ∧
      (redirecting.endpoint "audit" "tools" =
          (default : MCPGServerSpec).endpoint "search" "tools" ↔
        "audit" = "search" ∧ "tools" = "tools" ∧
          redirecting.effectivePort = (default : MCPGServerSpec).effectivePort ∧
            redirecting.effectivePath = (default : MCPGServerSpec).effectivePath) :=
  endpoint_laws (by decide) (by decide) (by decide) (by decide) redirecting default

end MCPGServerSpec

end McpgOperatorApi
