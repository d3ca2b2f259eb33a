import McpgOperatorApi.V1alpha1.Tenant

namespace McpgOperatorApi

open Text

/-!
# The plugin allowlist

A plugin is allowed when some entry grants it.  `Grants` says when an entry
does, without the control flow of the matcher, and the laws of the allowlist
are read off from there: it is a union over its entries, an entry without
content grants nothing, a longer prefix grants less, and knowing the image
can only help.
-/

/-- An entry grants a plugin by name or by the origin of its image. -/
def AllowedPlugin.Grants (allowed : AllowedPlugin) (resourceName pluginId : String)
    (image : Option String) : Prop :=
  (∃ name, allowed.name = some name ∧ (name = "*" ∨ name = resourceName ∨ name = pluginId)) ∨
    ∃ registryPrefix img, allowed.registryPrefix = some registryPrefix ∧ registryPrefix ≠ "" ∧
      image = some img ∧ ∃ rest, img = registryPrefix ++ rest

theorem AllowedPlugin.matches_iff (allowed : AllowedPlugin) (resourceName pluginId : String)
    (image : Option String) :
    allowed.matches resourceName pluginId image = true ↔
      allowed.Grants resourceName pluginId image := by
  unfold AllowedPlugin.matches AllowedPlugin.Grants
  rw [Bool.or_eq_true]
  apply or_congr
  · cases allowed.name with
    | none => simp
    | some name => simp [or_assoc]
  · cases allowed.registryPrefix with
    | none => simp
    | some registryPrefix =>
        cases image with
        | none => simp
        | some img =>
            rw [Bool.and_eq_true, startsWith_iff]
            simp

namespace MCPGTenantSpec

variable (spec : MCPGTenantSpec)

/-- The tenant with another allowlist. -/
def allowing (entries : List AllowedPlugin) : MCPGTenantSpec :=
  { spec with allowedPlugins := entries }

/-- The laws of the allowlist, for every plugin. -/
structure AllowlistLaws (resourceName pluginId : String) : Prop where
  /-- Allowed is what some entry grants. -/
  exact : ∀ image, spec.pluginAllowed resourceName pluginId image = true ↔
    ∃ allowed ∈ spec.allowedPlugins, allowed.Grants resourceName pluginId image
  /-- Appending allowlists is the union of their grants. -/
  append : ∀ first second image,
    (spec.allowing (first ++ second)).pluginAllowed resourceName pluginId image =
      ((spec.allowing first).pluginAllowed resourceName pluginId image ||
        (spec.allowing second).pluginAllowed resourceName pluginId image)
  /-- More entries, in any order and number, never revoke a grant. -/
  mono : ∀ first second image, first ⊆ second →
    (spec.allowing first).pluginAllowed resourceName pluginId image = true →
      (spec.allowing second).pluginAllowed resourceName pluginId image = true
  /-- Entries without a name and with at most an empty prefix grant nothing. -/
  deny : ∀ entries image,
    (∀ allowed ∈ entries, allowed.name = none ∧
      (allowed.registryPrefix = none ∨ allowed.registryPrefix = some "")) →
        (spec.allowing entries).pluginAllowed resourceName pluginId image = false
  /-- A longer prefix in place of a prefix never grants more. -/
  narrow : ∀ before after (allowed : AllowedPlugin) registryPrefix extension image,
    allowed.registryPrefix = some registryPrefix → registryPrefix ≠ "" →
      (spec.allowing (before ++ { allowed with registryPrefix := some (registryPrefix ++ extension) }
        :: after)).pluginAllowed resourceName pluginId image = true →
      (spec.allowing (before ++ allowed :: after)).pluginAllowed resourceName pluginId image = true
  /-- Resolving an image never revokes a grant. -/
  resolve : ∀ image, spec.pluginAllowed resourceName pluginId none = true →
    spec.pluginAllowed resourceName pluginId (some image) = true

theorem pluginAllowed_iff (resourceName pluginId : String) (image : Option String) :
    spec.pluginAllowed resourceName pluginId image = true ↔
      ∃ allowed ∈ spec.allowedPlugins, allowed.Grants resourceName pluginId image := by
  simp only [pluginAllowed, List.any_eq_true, AllowedPlugin.matches_iff]

/-- An entry without content grants nothing. -/
theorem not_grants_of_vacuous {allowed : AllowedPlugin} (nameless : allowed.name = none)
    (unprefixed : allowed.registryPrefix = none ∨ allowed.registryPrefix = some "")
    (resourceName pluginId : String) (image : Option String) :
    ¬ allowed.Grants resourceName pluginId image := by
  rintro (⟨name, named, -⟩ | ⟨registryPrefix, img, given, nonempty, -⟩)
  · rw [nameless] at named
    cases named
  · rcases unprefixed with absent | vacant
    · rw [absent] at given
      cases given
    · rw [vacant, Option.some.injEq] at given
      exact nonempty given.symm

/-- An entry with an extended prefix grants no more than before. -/
theorem grants_of_extended {allowed : AllowedPlugin} {registryPrefix extension : String}
    (given : allowed.registryPrefix = some registryPrefix) (nonempty : registryPrefix ≠ "")
    {resourceName pluginId : String} {image : Option String}
    (grants : { allowed with registryPrefix := some (registryPrefix ++ extension) : AllowedPlugin }.Grants
      resourceName pluginId image) : allowed.Grants resourceName pluginId image := by
  rcases grants with named | ⟨longer, img, extended, -, resolved, rest, split⟩
  · exact Or.inl named
  · refine Or.inr ⟨registryPrefix, img, given, nonempty, resolved, extension ++ rest, ?_⟩
    rw [split, ← Option.some.inj extended, String.append_assoc]

/-- An entry that grants a plugin without an image grants it with any. -/
theorem grants_of_grants_none {allowed : AllowedPlugin} {resourceName pluginId : String}
    (grants : allowed.Grants resourceName pluginId none) (image : String) :
    allowed.Grants resourceName pluginId (some image) := by
  rcases grants with named | ⟨_, _, _, _, unresolved, _⟩
  · exact Or.inl named
  · cases unresolved

/-- The allowlist grants exactly what its entries grant. -/
theorem allowlistLaws (resourceName pluginId : String) :
    spec.AllowlistLaws resourceName pluginId where
  exact := spec.pluginAllowed_iff resourceName pluginId
  append first second image := by
    simp only [pluginAllowed, allowing, List.any_append]
  mono first second image sub allowed := by
    rcases (pluginAllowed_iff _ _ _ _).mp allowed with ⟨entry, listed, grants⟩
    exact (pluginAllowed_iff _ _ _ _).mpr ⟨entry, sub listed, grants⟩
  deny entries image vacuous := by
    rw [Bool.eq_false_iff]
    intro allowed
    rcases (pluginAllowed_iff _ _ _ _).mp allowed with ⟨entry, listed, grants⟩
    rcases vacuous entry listed with ⟨nameless, unprefixed⟩
    exact not_grants_of_vacuous nameless unprefixed _ _ _ grants
  narrow before after allowed registryPrefix extension image given nonempty granted := by
    rcases (pluginAllowed_iff _ _ _ _).mp granted with ⟨entry, listed, grants⟩
    apply (pluginAllowed_iff _ _ _ _).mpr
    rcases List.mem_append.mp listed with early | late
    · exact ⟨entry, List.mem_append_left _ early, grants⟩
    · rcases List.mem_cons.mp late with here | later
      · exact ⟨allowed, List.mem_append_right _ List.mem_cons_self,
          grants_of_extended given nonempty (here ▸ grants)⟩
      · exact ⟨entry, List.mem_append_right _ (List.mem_cons_of_mem _ later), grants⟩
  resolve image allowed := by
    rcases (pluginAllowed_iff _ _ _ _).mp allowed with ⟨entry, listed, grants⟩
    exact (pluginAllowed_iff _ _ _ _).mpr ⟨entry, listed, grants_of_grants_none grants image⟩

end MCPGTenantSpec

end McpgOperatorApi
