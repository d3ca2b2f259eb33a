import McpgOperatorApi.Text.Utf8
import McpgOperatorApi.Text.Strings
import McpgOperatorApi.Text.Paths
import McpgOperatorApi.Text.AsciiCase
import McpgOperatorApi.Text.Concatenation
import McpgOperatorApi.Collections.Ordered
import McpgOperatorApi.Collections.BTreeMap
import McpgOperatorApi.Collections.Upsert
import McpgOperatorApi.Collections.Runs
import McpgOperatorApi.Serde.Value
import McpgOperatorApi.Serde.Wire
import McpgOperatorApi.Serde.Derive
import McpgOperatorApi.Serde.Omission
import McpgOperatorApi.Serde.Canonical
import McpgOperatorApi.Conditions
import McpgOperatorApi.Conditions.History
import McpgOperatorApi.Conditions.Runs
import McpgOperatorApi.Conditions.Readers
import McpgOperatorApi.V1alpha1.Gateway
import McpgOperatorApi.V1alpha1.Plugin
import McpgOperatorApi.V1alpha1.PluginSet
import McpgOperatorApi.V1alpha1.RevocationList
import McpgOperatorApi.V1alpha1.Cluster
import McpgOperatorApi.V1alpha1.Route
import McpgOperatorApi.V1alpha1.PluginMirror
import McpgOperatorApi.V1alpha1.Tenant
import McpgOperatorApi.V1alpha1.Server
import McpgOperatorApi.Cluster.Block
import McpgOperatorApi.Cluster.Transport
import McpgOperatorApi.Cluster.Names
import McpgOperatorApi.Cluster.Managed
import McpgOperatorApi.Cluster.Changes
import McpgOperatorApi.Mirror.Rewrite
import McpgOperatorApi.Mirror.Segments
import McpgOperatorApi.Mirror.Spelling
import McpgOperatorApi.Mirror.Composition
import McpgOperatorApi.Mirror.Allowlist
import McpgOperatorApi.Scaling.Ceiling
import McpgOperatorApi.Scaling.Rescaling
import McpgOperatorApi.Routing.Chains
import McpgOperatorApi.Federation.Endpoint
import McpgOperatorApi.Federation.Observers
import McpgOperatorApi.Tenancy.Namespaces
import McpgOperatorApi.Tenancy.Registry
import McpgOperatorApi.Tenancy.Allowlist
import McpgOperatorApi.Tenancy.Containment
import McpgOperatorApi.Revocation.Hashes
import McpgOperatorApi.Revocation.Merging
import McpgOperatorApi.Wire.Catalogue
import McpgOperatorApi.Wire.Defaults
import McpgOperatorApi.Wire.RoundTrip
import McpgOperatorApi.Wire.Canonical
import McpgOperatorApi.Conditions.Storage
