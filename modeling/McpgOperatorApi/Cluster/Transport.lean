import McpgOperatorApi.Cluster.Block

namespace McpgOperatorApi

open Collections Serde Text

/-!
# Transport security of the rendered coordinator

Admission judges a spec by `insecureTransportReason`, which reads the raw
backend and configuration.  The gateway acts on the rendered block.  Both
apply one classification, `PlaintextAs`, but to a kind that each of them
takes from its own side.
-/

/-- The entries make a coordinator of the given kind plaintext: a Redis URL
of the unencrypted scheme, or NATS with its TLS requirement switched off. -/
def PlaintextAs (kind : String) (entries : String → Option Value) : Prop :=
  (kind = "redis" ∧ ∃ url, entries "url" = some (.string url) ∧
    startsWith (trimStart url) "redis://" = true) ∨
  (kind = "nats" ∧ ∃ tls, entries "tls" = some tls ∧ tls.get? "require_tls" = some (.bool false))

/-- The entries opt out of transport security. -/
def OptsOut (entries : String → Option Value) : Prop :=
  entries "allow_insecure_transport" = some (.bool true)

/-- The gateway would run the block over a plaintext transport. -/
def Plaintext (block : Value) : Prop :=
  ∃ kind, blockKind block = some kind ∧ PlaintextAs kind block.get?

theorem plaintextAs_congr (kind : String) {first second : String → Option Value}
    (agree : ∀ key, key ≠ "kind" → first key = second key) :
    PlaintextAs kind first ↔ PlaintextAs kind second := by
  rw [PlaintextAs, PlaintextAs, agree "url" (by decide), agree "tls" (by decide)]

theorem not_plaintextAs_single_node (entries : String → Option Value) :
    ¬ PlaintextAs "single_node" entries := by
  rintro (⟨redis, -⟩ | ⟨nats, -⟩)
  · exact absurd redis (by decide)
  · exact absurd nats (by decide)

theorem plaintextAs_redis_iff (entries : String → Option Value) :
    PlaintextAs "redis" entries ↔ ∃ url, entries "url" = some (.string url) ∧
      startsWith (trimStart url) "redis://" = true := by
  simp [PlaintextAs]

theorem plaintextAs_nats_iff (entries : String → Option Value) :
    PlaintextAs "nats" entries ↔
      ∃ tls, entries "tls" = some tls ∧ tls.get? "require_tls" = some (.bool false) := by
  simp [PlaintextAs]

/-- Only two kinds are ever classified as plaintext. -/
theorem kind_of_plaintextAs {kind : String} {entries : String → Option Value}
    (reads : PlaintextAs kind entries) : kind = "redis" ∨ kind = "nats" :=
  reads.imp And.left And.left

/-- Two of these kinds classify entries alike when they are the same or the
entries make no difference between them. -/
theorem plaintextAs_agree_iff {a b : String} (aKnown : a = "redis" ∨ a = "nats")
    (bKnown : b = "redis" ∨ b = "nats") (entries : String → Option Value) :
    (PlaintextAs a entries ↔ PlaintextAs b entries) ↔
      a = b ∨ (PlaintextAs "redis" entries ↔ PlaintextAs "nats" entries) := by
  rcases aKnown with rfl | rfl <;> rcases bKnown with rfl | rfl
  · exact iff_of_true Iff.rfl (Or.inl rfl)
  · exact (or_iff_right (by decide)).symm
  · exact Iff.comm.trans (or_iff_right (by decide)).symm
  · exact iff_of_true Iff.rfl (Or.inl rfl)

namespace MCPGClusterSpec

/-- The shapes that admission lets through: a managed coordinator excludes
the fields that describe an existing one. -/
def Admissible (spec : MCPGClusterSpec) : Prop :=
  spec.managed = none ∨ (spec.managed.isSome = true ∧ spec.backend = default ∧ spec.config = .empty)

/-! ## The admission check -/

private theorem getD_asBool_iff (entry : Option Value) :
    (entry.bind Value.asBool).getD false = true ↔ entry = some (.bool true) := by
  cases entry with
  | none => simp
  | some value => cases value <;> simp [Value.asBool]

/-- The check rejects what is plaintext under the raw backend, unless the raw
configuration opts out. -/
theorem isSome_insecureTransportReason_iff (spec : MCPGClusterSpec) :
    spec.insecureTransportReason.isSome = true ↔
      PlaintextAs spec.backend.configKind spec.config.get? ∧ ¬ OptsOut spec.config.get? := by
  by_cases optsOut : OptsOut spec.config.get?
  · have opted := (getD_asBool_iff _).mpr optsOut
    simp [insecureTransportReason, opted, optsOut]
  · have kept : ((spec.config.get? "allow_insecure_transport").bind Value.asBool).getD false = false :=
      Bool.eq_false_iff.mpr (fun opted => optsOut ((getD_asBool_iff _).mp opted))
    rw [insecureTransportReason, and_iff_left optsOut]
    cases backend : spec.backend with
    | singleNode => simp [ClusterBackend.isSingleNode, ClusterBackend.configKind,
        not_plaintextAs_single_node]
    | redis =>
        simp only [ClusterBackend.isSingleNode, kept, ClusterBackend.configKind, plaintextAs_redis_iff,
          Bool.false_eq_true, if_false, Option.isSome_map, Option.isSome_filter, Option.any_eq_true,
          Option.bind_eq_some_iff, Value.asStr_eq_some_iff]
        constructor
        · rintro ⟨url, ⟨_, given, rfl⟩, scheme⟩
          exact ⟨url, given, scheme⟩
        · rintro ⟨url, given, scheme⟩
          exact ⟨url, ⟨_, given, rfl⟩, scheme⟩
    | nats =>
        simp only [ClusterBackend.isSingleNode, kept, ClusterBackend.configKind, plaintextAs_nats_iff,
          Bool.false_eq_true, if_false, Option.isSome_map, Option.isSome_filter, Option.any_eq_true,
          Option.bind_eq_some_iff, Value.asBool_eq_some_iff]
        constructor
        · rintro ⟨required, ⟨_, ⟨tls, given, found⟩, rfl⟩, off⟩
          cases required with
          | true => exact absurd off (by decide)
          | false => exact ⟨tls, given, found⟩
        · rintro ⟨tls, given, found⟩
          exact ⟨false, ⟨_, ⟨tls, given, found⟩, rfl⟩, rfl⟩

/-! ## The rendered block -/

/-- A managed block over plaintext always carries the opt-out. -/
theorem optsOut_of_plaintext_managed (spec : MCPGClusterSpec) (clusterName ns : String)
    (plaintext : Plaintext (spec.renderManagedClusterBlock clusterName ns)) :
    OptsOut (spec.renderManagedClusterBlock clusterName ns).get? := by
  rcases plaintext with ⟨kind, shown, reads⟩
  rw [blockKind, get?_renderManagedClusterBlock_kind, Option.bind_some, Value.asStr,
    Option.some.injEq] at shown
  rw [← shown, plaintextAs_nats_iff] at reads
  rcases reads with ⟨tls, given, off⟩
  rw [get?_renderManagedClusterBlock_tls, Option.some.injEq] at given
  rw [← given, get?_managedTlsPart_requireTls, Option.some.injEq, Value.bool.injEq] at off
  rw [OptsOut, get?_renderManagedClusterBlock_optOut, off]
  rfl

theorem get?_renderClusterBlock_of_ne {spec : MCPGClusterSpec}
    (external : spec.backend.isSingleNode = false) {key : String} (other : key ≠ "kind") :
    spec.renderClusterBlock.get? key = spec.config.get? key := by
  rw [get?_renderClusterBlock, external, if_neg other, Option.or_none]
  rfl

theorem not_plaintext_single_node {spec : MCPGClusterSpec}
    (inProcess : spec.backend.isSingleNode = true) : ¬ Plaintext spec.renderClusterBlock := by
  rintro ⟨kind, shown, reads⟩
  have backend := (ClusterBackend.isSingleNode_iff _).mp inProcess
  rw [blockKind, get?_renderClusterBlock, if_pos inProcess, if_pos rfl, backend] at shown
  rw [← Option.some.inj shown] at reads
  exact not_plaintextAs_single_node _ reads

/-- Without a `kind` of its own, the configuration is classified under the
kind of the backend. -/
theorem plaintext_of_absent {spec : MCPGClusterSpec} (external : spec.backend.isSingleNode = false)
    (absent : spec.config.get? "kind" = none) :
    Plaintext spec.renderClusterBlock ↔
      PlaintextAs spec.backend.configKind spec.config.get? := by
  have shown : blockKind spec.renderClusterBlock = some spec.backend.configKind := by
    rw [blockKind, get?_renderClusterBlock, external, if_pos rfl, absent]
    rfl
  rw [Plaintext, ← plaintextAs_congr _ (fun key other => get?_renderClusterBlock_of_ne external other)]
  constructor
  · rintro ⟨kind, named, reads⟩
    rw [shown, Option.some.injEq] at named
    exact named ▸ reads
  · exact fun reads => ⟨_, shown, reads⟩

/-- A `kind` in the configuration is the one that counts. -/
theorem plaintext_of_given {spec : MCPGClusterSpec} (external : spec.backend.isSingleNode = false)
    {value : Value} (given : spec.config.get? "kind" = some value) :
    Plaintext spec.renderClusterBlock ↔
      ∃ kind, value = .string kind ∧ PlaintextAs kind spec.config.get? := by
  have shown : blockKind spec.renderClusterBlock = value.asStr := by
    rw [blockKind, get?_renderClusterBlock, external, if_pos rfl, given]
    rfl
  apply exists_congr
  intro kind
  rw [shown, Value.asStr_eq_some_iff,
    plaintextAs_congr _ (fun key other => get?_renderClusterBlock_of_ne external other)]

/-! ## Agreement of check and block -/

/-- A `kind` in the configuration that does not mislead the check. -/
inductive KindHarmless (spec : MCPGClusterSpec) : Value → Prop
  /-- It repeats the kind of the backend. -/
  | own : KindHarmless spec (.string spec.backend.configKind)
  /-- It names a kind that is checked, and the entries are plaintext for both
  of these or for neither. -/
  | checked {kind : String} (known : kind = "redis" ∨ kind = "nats")
      (alike : PlaintextAs "redis" spec.config.get? ↔ PlaintextAs "nats" spec.config.get?) :
      KindHarmless spec (.string kind)
  /-- It is anything else, and the entries are not plaintext for the backend. -/
  | unknown {value : Value} (redis : value ≠ .string "redis") (nats : value ≠ .string "nats")
      (encrypted : ¬ PlaintextAs spec.backend.configKind spec.config.get?) : KindHarmless spec value

/-- A `kind` is harmless when it gives the entries the same classification as
the backend does. -/
theorem kindHarmless_iff {spec : MCPGClusterSpec} (external : spec.backend.isSingleNode = false)
    (value : Value) :
    spec.KindHarmless value ↔
      (PlaintextAs spec.backend.configKind spec.config.get? ↔
        ∃ kind, value = .string kind ∧ PlaintextAs kind spec.config.get?) := by
  have own := ClusterBackend.configKind_of_external external
  have named : ∀ kind, (∃ other, Value.string kind = .string other ∧
      PlaintextAs other spec.config.get?) ↔ PlaintextAs kind spec.config.get? := by
    intro kind
    simp
  constructor
  · intro harmless
    cases harmless with
    | own => exact (named _).symm
    | checked known alike =>
        rw [named]
        exact (plaintextAs_agree_iff own known _).mpr (Or.inr alike)
    | unknown redis nats encrypted =>
        apply iff_of_false encrypted
        intro ⟨kind, same, reads⟩
        rcases kind_of_plaintextAs reads with rfl | rfl
        · exact redis same
        · exact nats same
  · intro agrees
    by_cases known : ∃ kind, value = .string kind ∧ (kind = "redis" ∨ kind = "nats")
    · rcases known with ⟨kind, rfl, checked⟩
      rw [named] at agrees
      rcases (plaintextAs_agree_iff own checked _).mp agrees with same | alike
      · exact same ▸ .own
      · exact .checked checked alike
    · refine .unknown ?_ ?_ ?_
      · intro redis
        exact known ⟨_, redis, Or.inl rfl⟩
      · intro nats
        exact known ⟨_, nats, Or.inr rfl⟩
      · intro reads
        rcases agrees.mp reads with ⟨kind, same, readsKind⟩
        exact known ⟨kind, same, kind_of_plaintextAs readsKind⟩

/-- The check judges the rendered block correctly exactly when the coordinator
is managed or in-process, when the configuration opts out, or when a `kind` in
the configuration is harmless. -/
theorem insecureTransportReason_agrees_iff {spec : MCPGClusterSpec} (admissible : spec.Admissible)
    (clusterName operatorNamespace : String) :
    (spec.insecureTransportReason.isSome = true ↔
        Plaintext (spec.renderClusterBlockWith clusterName operatorNamespace) ∧
          ¬ OptsOut (spec.renderClusterBlockWith clusterName operatorNamespace).get?) ↔
      spec.managed.isSome = true ∨ spec.backend.isSingleNode = true ∨ OptsOut spec.config.get? ∨
        ∀ value, spec.config.get? "kind" = some value → spec.KindHarmless value := by
  rcases admissible with unmanaged | ⟨managed, backend, config⟩
  · rw [renderClusterBlockWith_of_unmanaged unmanaged, isSome_insecureTransportReason_iff, unmanaged]
    by_cases inProcess : spec.backend.isSingleNode = true
    · refine iff_of_true ?_ (Or.inr (Or.inl inProcess))
      have backend := (ClusterBackend.isSingleNode_iff _).mp inProcess
      have quiet : ¬ PlaintextAs spec.backend.configKind spec.config.get? := by
        rw [backend]
        exact not_plaintextAs_single_node _
      exact iff_of_false (fun reads => quiet reads.1)
        (fun reads => not_plaintext_single_node inProcess reads.1)
    · have external : spec.backend.isSingleNode = false := Bool.eq_false_iff.mpr inProcess
      have optsOut : OptsOut spec.renderClusterBlock.get? ↔ OptsOut spec.config.get? := by
        rw [OptsOut, OptsOut, get?_renderClusterBlock_of_ne external (by decide)]
      rw [optsOut]
      by_cases opted : OptsOut spec.config.get?
      · exact iff_of_true (iff_of_false (fun reads => reads.2 opted) (fun reads => reads.2 opted))
          (Or.inr (Or.inr (Or.inl opted)))
      · simp only [opted, not_false_eq_true, and_true, Option.isSome_none, Bool.false_eq_true,
          external, false_or, kindHarmless_iff external]
        cases given : spec.config.get? "kind" with
        | none =>
            rw [plaintext_of_absent external given]
            refine iff_of_true Iff.rfl ?_
            rintro _ ⟨⟩
        | some value =>
            rw [plaintext_of_given external given]
            constructor
            · rintro agrees _ ⟨⟩
              exact agrees
            · exact fun agrees => agrees value rfl
  · refine iff_of_true (iff_of_false ?_ ?_) (Or.inl managed)
    · rw [isSome_insecureTransportReason_iff, backend]
      exact fun reads => not_plaintextAs_single_node _ reads.1
    · rw [renderClusterBlockWith_of_managed managed]
      exact fun reads => reads.2 (optsOut_of_plaintext_managed spec _ _ reads.1)

/-- A Redis binding over TLS. -/
def encryptedRedis : MCPGClusterSpec :=
  { (default : MCPGClusterSpec) with
    backend := .redis
    config := .ofEntries [("url", .string "rediss://cache:6379")] }

/-- The check judges an encrypted binding correctly. -/
theorem insecureTransportReason_agrees_encryptedRedis :
    encryptedRedis.insecureTransportReason.isSome = true ↔
      Plaintext (encryptedRedis.renderClusterBlockWith "shared" "mcpg-system") ∧
        ¬ OptsOut (encryptedRedis.renderClusterBlockWith "shared" "mcpg-system").get? := by
  apply (insecureTransportReason_agrees_iff (Or.inl rfl) "shared" "mcpg-system").mpr
  refine Or.inr (Or.inr (Or.inr (fun value given => ?_)))
  have absent : encryptedRedis.config.get? "kind" = none := rfl
  rw [absent] at given
  cases given

/-- A NATS binding whose configuration shows the gateway a plaintext Redis. -/
def smuggledRedis : MCPGClusterSpec :=
  { (default : MCPGClusterSpec) with
    backend := .nats
    config := .ofEntries [("kind", .string "redis"), ("url", .string "redis://cache:6379")] }

/-- The check passes a binding that the gateway runs over plaintext. -/
theorem insecureTransportReason_misses_smuggledRedis :
    smuggledRedis.Admissible ∧
      ¬ (smuggledRedis.insecureTransportReason.isSome = true ↔
        Plaintext (smuggledRedis.renderClusterBlockWith "shared" "mcpg-system") ∧
          ¬ OptsOut (smuggledRedis.renderClusterBlockWith "shared" "mcpg-system").get?) := by
  refine ⟨Or.inl rfl, fun agrees => ?_⟩
  have plaintext : Plaintext (smuggledRedis.renderClusterBlockWith "shared" "mcpg-system") :=
    ⟨"redis", by decide, Or.inl ⟨rfl, "redis://cache:6379", rfl, by decide⟩⟩
  have optsIn : ¬ OptsOut (smuggledRedis.renderClusterBlockWith "shared" "mcpg-system").get? := by
    intro opted
    have absent : (smuggledRedis.renderClusterBlockWith "shared" "mcpg-system").get?
        "allow_insecure_transport" = none := rfl
    exact absurd (absent.symm.trans opted) (by simp)
  exact absurd (agrees.mpr ⟨plaintext, optsIn⟩) (by decide)

end MCPGClusterSpec

end McpgOperatorApi
