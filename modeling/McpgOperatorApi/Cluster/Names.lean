import McpgOperatorApi.V1alpha1.Cluster
import McpgOperatorApi.Text.Concatenation

namespace McpgOperatorApi

open Text

/-!
# Names of managed objects

The objects of all managed coordinators live in the operator namespace, named
after their clusters.  Cluster names are unrestricted and may themselves end
in one of the suffixes.  Names do not clash all the same, because no suffix
ends in another one.
-/

/-- The objects of a managed coordinator that have a suffix of their own. -/
inductive ManagedObject where
  | service
  | headlessService
  | config
  | tlsSecret
  | coordinationSecret
deriving DecidableEq

namespace ManagedObject

/-- The naming helper of an object. -/
def nameOf : ManagedObject → String → String
  | service => managedNatsServiceName
  | headlessService => managedNatsHeadlessServiceName
  | config => managedNatsConfigName
  | tlsSecret => managedNatsTlsSecretName
  | coordinationSecret => managedCoordinationSecretName

/-- What an object's name adds to that of the cluster. -/
def suffix : ManagedObject → String
  | service => "-nats"
  | headlessService => "-nats-headless"
  | config => "-nats-config"
  | tlsSecret => "-nats-tls"
  | coordinationSecret => "-coordination"

theorem nameOf_eq (object : ManagedObject) (cluster : String) :
    object.nameOf cluster = cluster ++ object.suffix := by
  cases object <;> rfl

theorem suffixFree_suffix : SuffixFree suffix := by
  intro i j
  cases i <;> cases j <;> decide

end ManagedObject

/-- Two managed objects share a name only when they are the same object of the
same cluster.  The StatefulSet and the client Service of a cluster share
theirs, and with no other cluster. -/
theorem managedNames_injective (f g : ManagedObject) (c d : String) :
    (f.nameOf c = g.nameOf d ↔ f = g ∧ c = d) ∧
      (managedNatsStatefulsetName c = managedNatsServiceName d ↔ c = d) := by
  constructor
  · rw [ManagedObject.nameOf_eq, ManagedObject.nameOf_eq]
    exact append_suffix_eq_iff ManagedObject.suffixFree_suffix
  · exact String.append_left_inj _

end McpgOperatorApi
