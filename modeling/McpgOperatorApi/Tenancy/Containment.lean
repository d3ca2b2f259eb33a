import McpgOperatorApi.Tenancy.Allowlist
import Mathlib.Data.Fintype.EquivFin

namespace McpgOperatorApi

open Text

/-!
# One allowlist inside another

Whether one allowlist permits everything that another one permits is a
question about all resource names, capability ids and images.  It is decided
by looking at the entries: the names of the first must be names of the second,
and each of its registry prefixes must start with one of the second, unless the
second permits everything anyway.

A name that occurs in neither list separates the two kinds of grants: under
fresh names only a registry prefix can permit a plugin, and without an image
only a name can.
-/

/-- The names that a list of matchers admits. -/
def admittedNames (entries : List AllowedPlugin) : List String :=
  entries.filterMap AllowedPlugin.name

/-- The registry prefixes that a list of matchers admits; an empty one admits
nothing. -/
def admittedPrefixes (entries : List AllowedPlugin) : List String :=
  (entries.filterMap AllowedPlugin.registryPrefix).filter (fun registryPrefix => registryPrefix ≠ "")

/-- The second list of matchers admits what the first one does. -/
def subsumes (first second : List AllowedPlugin) : Bool :=
  (admittedNames second).contains "*" ||
    ((admittedNames first).all (fun name => (admittedNames second).contains name) &&
      (admittedPrefixes first).all fun registryPrefix =>
        (admittedPrefixes second).any (fun other => startsWith registryPrefix other))

theorem subsumes_iff_entries (first second : List AllowedPlugin) :
    subsumes first second = true ↔
      "*" ∈ admittedNames second ∨
        admittedNames first ⊆ admittedNames second ∧
          ∀ registryPrefix ∈ admittedPrefixes first, ∃ other ∈ admittedPrefixes second,
            ∃ rest, registryPrefix = other ++ rest := by
  simp only [subsumes, Bool.or_eq_true, Bool.and_eq_true, List.contains_iff_mem, List.all_eq_true,
    List.any_eq_true, startsWith_iff]
  rfl

namespace MCPGTenantSpec

/-- The allowlist permits by name or by origin. -/
theorem pluginAllowed_iff_admitted (spec : MCPGTenantSpec) (resourceName pluginId : String)
    (image : Option String) :
    spec.pluginAllowed resourceName pluginId image = true ↔
      (∃ name ∈ admittedNames spec.allowedPlugins,
        name = "*" ∨ name = resourceName ∨ name = pluginId) ∨
      ∃ registryPrefix ∈ admittedPrefixes spec.allowedPlugins, ∃ img, image = some img ∧
        ∃ rest, img = registryPrefix ++ rest := by
  rw [pluginAllowed_iff]
  constructor
  · intro ⟨allowed, listed, grants⟩
    rcases grants with ⟨name, named, hit⟩ | ⟨registryPrefix, img, given, nonempty, resolved, split⟩
    · exact Or.inl ⟨name, List.mem_filterMap.mpr ⟨allowed, listed, named⟩, hit⟩
    · have admitted : registryPrefix ∈ admittedPrefixes spec.allowedPlugins := by
        apply List.mem_filter.mpr
        exact ⟨List.mem_filterMap.mpr ⟨allowed, listed, given⟩, decide_eq_true nonempty⟩
      exact Or.inr ⟨registryPrefix, admitted, img, resolved, split⟩
  · intro admitted
    rcases admitted with ⟨name, admitted, hit⟩ | ⟨registryPrefix, admitted, img, resolved, split⟩
    · rcases List.mem_filterMap.mp admitted with ⟨allowed, listed, named⟩
      exact ⟨allowed, listed, Or.inl ⟨name, named, hit⟩⟩
    · rcases List.mem_filter.mp admitted with ⟨given, nonempty⟩
      rcases List.mem_filterMap.mp given with ⟨allowed, listed, given⟩
      exact ⟨allowed, listed,
        Or.inr ⟨registryPrefix, img, given, of_decide_eq_true nonempty, resolved, split⟩⟩

/-- Under a fresh name, an allowlist without the wildcard permits only by the
given name, and without an image. -/
theorem mem_admittedNames_of_pluginAllowed {spec : MCPGTenantSpec} {name fresh : String}
    (unused : fresh ∉ admittedNames spec.allowedPlugins)
    (bounded : "*" ∉ admittedNames spec.allowedPlugins)
    (allowed : spec.pluginAllowed name fresh none = true) :
    name ∈ admittedNames spec.allowedPlugins := by
  rcases (pluginAllowed_iff_admitted _ _ _ _).mp allowed with ⟨other, admitted, hit⟩ | ⟨_, _, _, none, _⟩
  · rcases hit with rfl | rfl | rfl
    · exact absurd admitted bounded
    · exact admitted
    · exact absurd admitted unused
  · cases none

/-- Under fresh names, an allowlist without the wildcard permits only by the
origin of the image. -/
theorem exists_admittedPrefix_of_pluginAllowed {spec : MCPGTenantSpec} {fresh img : String}
    (unused : fresh ∉ admittedNames spec.allowedPlugins)
    (bounded : "*" ∉ admittedNames spec.allowedPlugins)
    (allowed : spec.pluginAllowed fresh fresh (some img) = true) :
    ∃ other ∈ admittedPrefixes spec.allowedPlugins, ∃ rest, img = other ++ rest := by
  rcases (pluginAllowed_iff_admitted _ _ _ _).mp allowed with
    ⟨other, admitted, hit⟩ | ⟨other, admitted, _, same, split⟩
  · rcases hit with rfl | rfl | rfl
    · exact absurd admitted bounded
    · exact absurd admitted unused
    · exact absurd admitted unused
  · cases same
    exact ⟨other, admitted, split⟩

/-- A tenant that subsumes another one permits every plugin that the other
one permits. -/
theorem pluginAllowed_of_subsumes (spec other : MCPGTenantSpec)
    (covered : subsumes spec.allowedPlugins other.allowedPlugins = true)
    {resourceName pluginId : String} {image : Option String}
    (allowed : spec.pluginAllowed resourceName pluginId image = true) :
    other.pluginAllowed resourceName pluginId image = true := by
  apply (pluginAllowed_iff_admitted _ _ _ _).mpr
  rcases (subsumes_iff_entries _ _).mp covered with wildcard | ⟨names, prefixes⟩
  · exact Or.inl ⟨"*", wildcard, Or.inl rfl⟩
  · rcases (pluginAllowed_iff_admitted _ _ _ _).mp allowed with
      ⟨name, admitted, hit⟩ | ⟨registryPrefix, admitted, img, resolved, rest, split⟩
    · exact Or.inl ⟨name, names admitted, hit⟩
    · rcases prefixes registryPrefix admitted with ⟨shorter, there, extension, equal⟩
      refine Or.inr ⟨shorter, there, img, resolved, extension ++ rest, ?_⟩
      rw [split, equal, String.append_assoc]

/-- A tenant that permits every plugin of another one subsumes it.  The
plugins to try are a name of the other under a fresh id, and fresh names with
a prefix of the other as the whole image. -/
theorem subsumes_of_pluginAllowed (spec other : MCPGTenantSpec)
    (contained : ∀ resourceName pluginId image,
      spec.pluginAllowed resourceName pluginId image = true →
        other.pluginAllowed resourceName pluginId image = true) :
    subsumes spec.allowedPlugins other.allowedPlugins = true := by
  apply (subsumes_iff_entries _ _).mpr
  by_cases bounded : "*" ∈ admittedNames other.allowedPlugins
  · exact Or.inl bounded
  · rcases Infinite.exists_notMem_finset (admittedNames other.allowedPlugins).toFinset with
      ⟨fresh, unlisted⟩
    have unused : fresh ∉ admittedNames other.allowedPlugins :=
      fun listed => unlisted (List.mem_toFinset.mpr listed)
    refine Or.inr ⟨?_, ?_⟩
    · intro name admitted
      apply mem_admittedNames_of_pluginAllowed unused bounded
      apply contained
      exact (pluginAllowed_iff_admitted _ _ _ _).mpr (Or.inl ⟨name, admitted, Or.inr (Or.inl rfl)⟩)
    · intro registryPrefix admitted
      apply exists_admittedPrefix_of_pluginAllowed unused bounded
      apply contained
      apply (pluginAllowed_iff_admitted _ _ _ _).mpr
      exact Or.inr ⟨registryPrefix, admitted, registryPrefix, rfl, "", String.append_empty.symm⟩

/-- Containment of allowlists is decided by `subsumes`; in particular an entry
can go exactly when the others subsume it. -/
theorem allowlist_containment (spec other : MCPGTenantSpec) :
    (subsumes spec.allowedPlugins other.allowedPlugins = true ↔
      ∀ resourceName pluginId image, spec.pluginAllowed resourceName pluginId image = true →
        other.pluginAllowed resourceName pluginId image = true) ∧
    ∀ before after (entry : AllowedPlugin),
      subsumes [entry] (before ++ after) = true ↔
        ∀ resourceName pluginId image,
          (spec.allowing (before ++ entry :: after)).pluginAllowed resourceName pluginId image =
            (spec.allowing (before ++ after)).pluginAllowed resourceName pluginId image := by
  refine ⟨⟨?_, subsumes_of_pluginAllowed spec other⟩, ?_⟩
  · intro covered resourceName pluginId image
    exact pluginAllowed_of_subsumes spec other covered
  intro before after entry
  have split : ∀ resourceName pluginId image,
      (spec.allowing (before ++ entry :: after)).pluginAllowed resourceName pluginId image =
        ((spec.allowing [entry]).pluginAllowed resourceName pluginId image ||
          (spec.allowing (before ++ after)).pluginAllowed resourceName pluginId image) := by
    intro resourceName pluginId image
    simp only [pluginAllowed, allowing, List.any_append, List.any_cons, List.any_nil, Bool.or_false]
    exact Bool.or_left_comm _ _ _
  constructor
  · intro covered resourceName pluginId image
    rw [split, Bool.or_eq_right_iff_imp]
    exact pluginAllowed_of_subsumes (spec.allowing [entry]) (spec.allowing (before ++ after)) covered
  · intro redundant
    apply subsumes_of_pluginAllowed (spec.allowing [entry]) (spec.allowing (before ++ after))
    intro resourceName pluginId image allowed
    rw [← redundant, split, allowed, Bool.true_or]

end MCPGTenantSpec

end McpgOperatorApi
