import McpgOperatorApi.Conditions

namespace McpgOperatorApi

open Collections Serde

/-!
# Gateways

The gateway resource: its desired state, the shapes nested in it, and its
observed state.  The default of a record is the derived one, which takes the
default of every field; the `replicas` of a gateway default to one on the
wire and to zero in the derived default.
-/

/-- Container image coordinates of the gateway pod. -/
structure GatewayImage where
  repository : Option String
  tag : Option String
  pullPolicy : Option String
deriving Inhabited

instance : Derive GatewayImage where
  Row := _
  fields := .optional "repository" <| .optional "tag" <| .optional "pull_policy" .nil
  toRow x := (x.repository, x.tag, x.pullPolicy, ())
  ofRow := fun (repository, tag, pullPolicy, ()) =>
    { repository, tag, pullPolicy }

instance : DistinctKeys GatewayImage where

instance : RoundTrips GatewayImage := roundTrips_of_lossless _

/-- Compute requests and limits. -/
structure GatewayResourceRequirements where
  requests : BTreeMap String String
  limits : BTreeMap String String
deriving Inhabited

instance : Derive GatewayResourceRequirements where
  Row := _
  fields := .map "requests" <| .map "limits" .nil
  toRow x := (x.requests, x.limits, ())
  ofRow := fun (requests, limits, ()) =>
    { requests, limits }

instance : DistinctKeys GatewayResourceRequirements where

instance : RoundTrips GatewayResourceRequirements := roundTrips_of_lossless _

/-- The Service in front of the gateway. -/
structure GatewayService where
  type : Option String
  port : Option Int32
  annotations : BTreeMap String String
deriving Inhabited

instance : Derive GatewayService where
  Row := _
  fields := .optional "type" <| .optional "port" <| .map "annotations" .nil
  toRow x := (x.type, x.port, x.annotations, ())
  ofRow := fun (type, port, annotations, ()) =>
    { type, port, annotations }

instance : DistinctKeys GatewayService where

instance : RoundTrips GatewayService := roundTrips_of_lossless _

/-- One path of an Ingress host. -/
structure GatewayIngressPath where
  path : String
  pathType : String
deriving Inhabited

instance : Derive GatewayIngressPath where
  Row := _
  fields := .required "path" <| .required "path_type" .nil
  toRow x := (x.path, x.pathType, ())
  ofRow := fun (path, pathType, ()) =>
    { path, pathType }

instance : DistinctKeys GatewayIngressPath where

instance : RoundTrips GatewayIngressPath := roundTrips_of_lossless _

/-- One host of an Ingress. -/
structure GatewayIngressHost where
  host : String
  paths : List GatewayIngressPath
deriving Inhabited

instance : Derive GatewayIngressHost where
  Row := _
  fields := .required "host" <| .required "paths" .nil
  toRow x := (x.host, x.paths, ())
  ofRow := fun (host, paths, ()) =>
    { host, paths }

instance : DistinctKeys GatewayIngressHost where

instance : RoundTrips GatewayIngressHost := roundTrips_of_lossless _

/-- One TLS entry of an Ingress. -/
structure GatewayIngressTls where
  hosts : List String
  secretName : String
deriving Inhabited

instance : Derive GatewayIngressTls where
  Row := _
  fields := .required "hosts" <| .required "secret_name" .nil
  toRow x := (x.hosts, x.secretName, ())
  ofRow := fun (hosts, secretName, ()) =>
    { hosts, secretName }

instance : DistinctKeys GatewayIngressTls where

instance : RoundTrips GatewayIngressTls := roundTrips_of_lossless _

/-- The Ingress in front of the gateway. -/
structure GatewayIngress where
  ingressClassName : String
  hosts : List GatewayIngressHost
  tls : List GatewayIngressTls
  annotations : BTreeMap String String
deriving Inhabited

instance : Derive GatewayIngress where
  Row := _
  fields := .required "ingress_class_name" <| .list "hosts" <| .list "tls" <|
    .map "annotations" .nil
  toRow x := (x.ingressClassName, x.hosts, x.tls, x.annotations, ())
  ofRow := fun (ingressClassName, hosts, tls, annotations, ()) =>
    { ingressClassName, hosts, tls, annotations }

instance : DistinctKeys GatewayIngress where

instance : RoundTrips GatewayIngress := roundTrips_of_lossless _

/-- Reference to an object in the same namespace. -/
structure LocalObjectReference where
  name : String
deriving Inhabited

instance : Derive LocalObjectReference where
  Row := _
  fields := .required "name" .nil
  toRow x := (x.name, ())
  ofRow := fun (name, ()) =>
    { name }

instance : DistinctKeys LocalObjectReference where

instance : RoundTrips LocalObjectReference := roundTrips_of_lossless _

/-- A Secret mounted as files. -/
structure SecretMount where
  name : String
  mountPath : String
deriving Inhabited

instance : Derive SecretMount where
  Row := _
  fields := .required "name" <| .required "mount_path" .nil
  toRow x := (x.name, x.mountPath, ())
  ofRow := fun (name, mountPath, ()) =>
    { name, mountPath }

instance : DistinctKeys SecretMount where

instance : RoundTrips SecretMount := roundTrips_of_lossless _

/-- An IAM role. -/
structure AwsWorkloadIdentity where
  iamRoleArn : String
deriving Inhabited

instance : Derive AwsWorkloadIdentity where
  Row := _
  fields := .required "iam_role_arn" .nil
  toRow x := (x.iamRoleArn, ())
  ofRow := fun (iamRoleArn, ()) =>
    { iamRoleArn }

instance : DistinctKeys AwsWorkloadIdentity where

instance : RoundTrips AwsWorkloadIdentity := roundTrips_of_lossless _

/-- A Google service account. -/
structure GcpWorkloadIdentity where
  googleServiceAccount : String
deriving Inhabited

instance : Derive GcpWorkloadIdentity where
  Row := _
  fields := .required "google_service_account" .nil
  toRow x := (x.googleServiceAccount, ())
  ofRow := fun (googleServiceAccount, ()) =>
    { googleServiceAccount }

instance : DistinctKeys GcpWorkloadIdentity where

instance : RoundTrips GcpWorkloadIdentity := roundTrips_of_lossless _

/-- An Azure client. -/
structure AzureWorkloadIdentity where
  clientId : String
deriving Inhabited

instance : Derive AzureWorkloadIdentity where
  Row := _
  fields := .required "client_id" .nil
  toRow x := (x.clientId, ())
  ofRow := fun (clientId, ()) =>
    { clientId }

instance : DistinctKeys AzureWorkloadIdentity where

instance : RoundTrips AzureWorkloadIdentity := roundTrips_of_lossless _

/-- A SPIFFE identity. -/
structure SpiffeWorkloadIdentity where
  trustDomain : String
  svid : String
deriving Inhabited

instance : Derive SpiffeWorkloadIdentity where
  Row := _
  fields := .required "trust_domain" <| .required "svid" .nil
  toRow x := (x.trustDomain, x.svid, ())
  ofRow := fun (trustDomain, svid, ()) =>
    { trustDomain, svid }

instance : DistinctKeys SpiffeWorkloadIdentity where

instance : RoundTrips SpiffeWorkloadIdentity := roundTrips_of_lossless _

/-- The cloud identity of the gateway pod. -/
structure GatewayWorkloadIdentity where
  aws : Option AwsWorkloadIdentity
  gcp : Option GcpWorkloadIdentity
  azure : Option AzureWorkloadIdentity
  spiffe : Option SpiffeWorkloadIdentity
deriving Inhabited

instance : Derive GatewayWorkloadIdentity where
  Row := _
  fields := .optional "aws" <| .optional "gcp" <| .optional "azure" <| .optional "spiffe" .nil
  toRow x := (x.aws, x.gcp, x.azure, x.spiffe, ())
  ofRow := fun (aws, gcp, azure, spiffe, ()) =>
    { aws, gcp, azure, spiffe }

instance : DistinctKeys GatewayWorkloadIdentity where

instance : RoundTrips GatewayWorkloadIdentity := roundTrips_of_lossless _

/-- One topology spread constraint. -/
structure TopologySpread where
  maxSkew : Int32
  topologyKey : String
  whenUnsatisfiable : String
  labelSelectorMatchLabels : BTreeMap String String
deriving Inhabited

instance : Derive TopologySpread where
  Row := _
  fields := .required "max_skew" <| .required "topology_key" <| .required "when_unsatisfiable" <|
    .map "label_selector_match_labels" .nil
  toRow x := (x.maxSkew, x.topologyKey, x.whenUnsatisfiable, x.labelSelectorMatchLabels, ())
  ofRow := fun (maxSkew, topologyKey, whenUnsatisfiable, labelSelectorMatchLabels, ()) =>
    { maxSkew, topologyKey, whenUnsatisfiable, labelSelectorMatchLabels }

instance : DistinctKeys TopologySpread where

instance : RoundTrips TopologySpread := roundTrips_of_lossless _

/-- Pod-scheduling fields that are passed through. -/
structure GatewayScheduling where
  nodeSelector : BTreeMap String String
  tolerations : List Value
  affinity : Option Value
  topologySpreadConstraints : List TopologySpread
  priorityClassName : Option String
  terminationGracePeriodSeconds : Option Int64
deriving Inhabited

instance : Derive GatewayScheduling where
  Row := _
  fields := .map "node_selector" <| .list "tolerations" <| .optional "affinity" <|
    .list "topology_spread_constraints" <| .optional "priority_class_name" <|
    .optional "termination_grace_period_seconds" .nil
  toRow x := (x.nodeSelector, x.tolerations, x.affinity, x.topologySpreadConstraints,
    x.priorityClassName, x.terminationGracePeriodSeconds, ())
  ofRow := fun (nodeSelector, tolerations, affinity, topologySpreadConstraints, priorityClassName,
    terminationGracePeriodSeconds, ()) =>
    { nodeSelector, tolerations, affinity, topologySpreadConstraints, priorityClassName,
      terminationGracePeriodSeconds }

instance : DistinctKeys GatewayScheduling where

/-- The knobs of one probe. -/
structure GatewayProbe where
  path : Option String
  initialDelaySeconds : Option Int32
  periodSeconds : Option Int32
  timeoutSeconds : Option Int32
  failureThreshold : Option Int32
  successThreshold : Option Int32
deriving Inhabited

instance : Derive GatewayProbe where
  Row := _
  fields := .optional "path" <| .optional "initial_delay_seconds" <|
    .optional "period_seconds" <| .optional "timeout_seconds" <| .optional "failure_threshold" <|
    .optional "success_threshold" .nil
  toRow x := (x.path, x.initialDelaySeconds, x.periodSeconds, x.timeoutSeconds,
    x.failureThreshold, x.successThreshold, ())
  ofRow := fun (path, initialDelaySeconds, periodSeconds, timeoutSeconds, failureThreshold,
    successThreshold, ()) =>
    { path, initialDelaySeconds, periodSeconds, timeoutSeconds, failureThreshold,
      successThreshold }

instance : DistinctKeys GatewayProbe where

instance : RoundTrips GatewayProbe := roundTrips_of_lossless _

/-- Overrides of the three probes. -/
structure GatewayProbes where
  liveness : Option GatewayProbe
  readiness : Option GatewayProbe
  startup : Option GatewayProbe
deriving Inhabited

instance : Derive GatewayProbes where
  Row := _
  fields := .optional "liveness" <| .optional "readiness" <| .optional "startup" .nil
  toRow x := (x.liveness, x.readiness, x.startup, ())
  ofRow := fun (liveness, readiness, startup, ()) =>
    { liveness, readiness, startup }

instance : DistinctKeys GatewayProbes where

instance : RoundTrips GatewayProbes := roundTrips_of_lossless _

/-- The NetworkPolicy rendered next to the gateway. -/
structure GatewayNetworkPolicy where
  enabled : Bool
  extraIngressFrom : List Value
  extraEgressTo : List Value
deriving Inhabited

instance : Derive GatewayNetworkPolicy where
  Row := _
  fields := .defaulted "enabled" <| .list "extra_ingress_from" <| .list "extra_egress_to" .nil
  toRow x := (x.enabled, x.extraIngressFrom, x.extraEgressTo, ())
  ofRow := fun (enabled, extraIngressFrom, extraEgressTo, ()) =>
    { enabled, extraIngressFrom, extraEgressTo }

instance : DistinctKeys GatewayNetworkPolicy where

instance : RoundTrips GatewayNetworkPolicy := roundTrips_of_lossless _

/-- A disruption budget; its thresholds are integers or texts. -/
structure PodDisruptionBudgetSpec where
  enabled : Bool
  minAvailable : Option Value
  maxUnavailable : Option Value
deriving Inhabited

instance : Derive PodDisruptionBudgetSpec where
  Row := _
  fields := .defaulted "enabled" <| .optional "min_available" <| .optional "max_unavailable" .nil
  toRow x := (x.enabled, x.minAvailable, x.maxUnavailable, ())
  ofRow := fun (enabled, minAvailable, maxUnavailable, ()) =>
    { enabled, minAvailable, maxUnavailable }

instance : DistinctKeys PodDisruptionBudgetSpec where

/-- One metric of the autoscaler. -/
structure HorizontalAutoscalerMetric where
  type : String
  resource : Option Value
  pods : Option Value
  object : Option Value
  external : Option Value
deriving Inhabited

instance : Derive HorizontalAutoscalerMetric where
  Row := _
  fields := .required "type" <| .optional "resource" <| .optional "pods" <| .optional "object" <|
    .optional "external" .nil
  toRow x := (x.type, x.resource, x.pods, x.object, x.external, ())
  ofRow := fun (type, resource, pods, object, external, ()) =>
    { type, resource, pods, object, external }

instance : DistinctKeys HorizontalAutoscalerMetric where

/-- The autoscaler of the gateway. -/
structure HorizontalAutoscaler where
  enabled : Bool
  minReplicas : Option Int32
  maxReplicas : Option Int32
  metrics : List HorizontalAutoscalerMetric
deriving Inhabited

instance : Derive HorizontalAutoscaler where
  Row := _
  fields := .defaulted "enabled" <| .optional "min_replicas" <| .optional "max_replicas" <|
    .list "metrics" .nil
  toRow x := (x.enabled, x.minReplicas, x.maxReplicas, x.metrics, ())
  ofRow := fun (enabled, minReplicas, maxReplicas, metrics, ()) =>
    { enabled, minReplicas, maxReplicas, metrics }

instance : DistinctKeys HorizontalAutoscaler where

/-- Knobs of the rendered ServiceMonitor. -/
structure ServiceMonitorSpec where
  enabled : Bool
  interval : Option String
  scrapeTimeout : Option String
  labels : BTreeMap String String
deriving Inhabited

instance : Derive ServiceMonitorSpec where
  Row := _
  fields := .defaulted "enabled" <| .optional "interval" <| .optional "scrape_timeout" <|
    .map "labels" .nil
  toRow x := (x.enabled, x.interval, x.scrapeTimeout, x.labels, ())
  ofRow := fun (enabled, interval, scrapeTimeout, labels, ()) =>
    { enabled, interval, scrapeTimeout, labels }

instance : DistinctKeys ServiceMonitorSpec where

instance : RoundTrips ServiceMonitorSpec := roundTrips_of_lossless _

/-- Knobs of the rendered PrometheusRule. -/
structure PrometheusRuleSpec where
  enabled : Bool
  severity : Option String
deriving Inhabited

instance : Derive PrometheusRuleSpec where
  Row := _
  fields := .defaulted "enabled" <| .optional "severity" .nil
  toRow x := (x.enabled, x.severity, ())
  ofRow := fun (enabled, severity, ()) =>
    { enabled, severity }

instance : DistinctKeys PrometheusRuleSpec where

instance : RoundTrips PrometheusRuleSpec := roundTrips_of_lossless _

/-- ServiceMonitor and PrometheusRule rendering. -/
structure GatewayMonitoring where
  serviceMonitor : Option ServiceMonitorSpec
  prometheusRule : Option PrometheusRuleSpec
deriving Inhabited

instance : Derive GatewayMonitoring where
  Row := _
  fields := .optional "service_monitor" <| .optional "prometheus_rule" .nil
  toRow x := (x.serviceMonitor, x.prometheusRule, ())
  ofRow := fun (serviceMonitor, prometheusRule, ()) =>
    { serviceMonitor, prometheusRule }

instance : DistinctKeys GatewayMonitoring where

instance : RoundTrips GatewayMonitoring := roundTrips_of_lossless _

/-- Same-namespace reference to a plugin set. -/
structure PluginSetRef where
  name : String
deriving Inhabited

instance : Derive PluginSetRef where
  Row := _
  fields := .required "name" .nil
  toRow x := (x.name, ())
  ofRow := fun (name, ()) =>
    { name }

instance : DistinctKeys PluginSetRef where

instance : RoundTrips PluginSetRef := roundTrips_of_lossless _

/-- Reference to a cluster-scoped revocation list. -/
structure RevocationListRef where
  name : String
deriving Inhabited

instance : Derive RevocationListRef where
  Row := _
  fields := .required "name" .nil
  toRow x := (x.name, ())
  ofRow := fun (name, ()) =>
    { name }

instance : DistinctKeys RevocationListRef where

instance : RoundTrips RevocationListRef := roundTrips_of_lossless _

/-- Reference to a cluster-scoped coordinator binding. -/
structure ClusterRef where
  name : String
deriving Inhabited

instance : Derive ClusterRef where
  Row := _
  fields := .required "name" .nil
  toRow x := (x.name, ())
  ofRow := fun (name, ()) =>
    { name }

instance : DistinctKeys ClusterRef where

instance : RoundTrips ClusterRef := roundTrips_of_lossless _

/-- Managed-fleet routing and identity of a gateway. -/
structure GatewayCloud where
  orgSlug : String
  instanceSlug : String
  externalUrl : String
  customDomains : List String
  canonicalUrl : Option String
deriving Inhabited

instance : Derive GatewayCloud where
  Row := _
  fields := .required "org_slug" <| .required "instance_slug" <| .required "external_url" <|
    .list "custom_domains" <| .optional "canonical_url" .nil
  toRow x := (x.orgSlug, x.instanceSlug, x.externalUrl, x.customDomains, x.canonicalUrl, ())
  ofRow := fun (orgSlug, instanceSlug, externalUrl, customDomains, canonicalUrl, ()) =>
    { orgSlug, instanceSlug, externalUrl, customDomains, canonicalUrl }

instance : DistinctKeys GatewayCloud where

instance : RoundTrips GatewayCloud := roundTrips_of_lossless _

def defaultReplicas : Int32 := 1

/-- Desired state of a tenant's gateway. -/
structure MCPGGatewaySpec where
  image : GatewayImage
  replicas : Int32
  config : Value
  resources : Option GatewayResourceRequirements
  service : Option GatewayService
  ingress : Option GatewayIngress
  imagePullSecrets : List LocalObjectReference
  envFromSecrets : List LocalObjectReference
  secretMounts : List SecretMount
  workloadIdentity : Option GatewayWorkloadIdentity
  scheduling : Option GatewayScheduling
  probes : Option GatewayProbes
  networkPolicy : Option GatewayNetworkPolicy
  podDisruptionBudget : Option PodDisruptionBudgetSpec
  autoscaling : Option HorizontalAutoscaler
  monitoring : Option GatewayMonitoring
  podAnnotations : BTreeMap String String
  podLabels : BTreeMap String String
  pluginSetRef : Option PluginSetRef
  revocationListRef : Option RevocationListRef
  clusterRef : Option ClusterRef
  acceptedRouteNamespaces : List String
  cloud : Option GatewayCloud
deriving Inhabited

instance : Derive MCPGGatewaySpec where
  Row := _
  fields := .required "image" <| .defaultedTo defaultReplicas "replicas" <| .required "config" <|
    .optional "resources" <| .optional "service" <| .optional "ingress" <|
    .list "image_pull_secrets" <| .list "env_from_secrets" <| .list "secret_mounts" <|
    .optional "workload_identity" <| .optional "scheduling" <| .optional "probes" <|
    .optional "network_policy" <| .optional "pod_disruption_budget" <| .optional "autoscaling" <|
    .optional "monitoring" <| .map "pod_annotations" <| .map "pod_labels" <|
    .optional "plugin_set_ref" <| .optional "revocation_list_ref" <| .optional "cluster_ref" <|
    .list "accepted_route_namespaces" <| .optional "cloud" .nil
  toRow x := (x.image, x.replicas, x.config, x.resources, x.service, x.ingress,
    x.imagePullSecrets, x.envFromSecrets, x.secretMounts, x.workloadIdentity, x.scheduling,
    x.probes, x.networkPolicy, x.podDisruptionBudget, x.autoscaling, x.monitoring,
    x.podAnnotations, x.podLabels, x.pluginSetRef, x.revocationListRef, x.clusterRef,
    x.acceptedRouteNamespaces, x.cloud, ())
  ofRow := fun (image, replicas, config, resources, service, ingress, imagePullSecrets,
    envFromSecrets, secretMounts, workloadIdentity, scheduling, probes, networkPolicy,
    podDisruptionBudget, autoscaling, monitoring, podAnnotations, podLabels, pluginSetRef,
    revocationListRef, clusterRef, acceptedRouteNamespaces, cloud, ()) =>
    { image, replicas, config, resources, service, ingress, imagePullSecrets, envFromSecrets,
      secretMounts, workloadIdentity, scheduling, probes, networkPolicy, podDisruptionBudget,
      autoscaling, monitoring, podAnnotations, podLabels, pluginSetRef, revocationListRef,
      clusterRef, acceptedRouteNamespaces, cloud }

instance : DistinctKeys MCPGGatewaySpec where

/-- A name with an optional namespace. -/
structure NamespacedReference where
  name : String
  «namespace» : Option String
deriving Inhabited

instance : Derive NamespacedReference where
  Row := _
  fields := .required "name" <| .optional "namespace" .nil
  toRow x := (x.name, x.«namespace», ())
  ofRow := fun (name, «namespace», ()) =>
    { name, «namespace» }

instance : DistinctKeys NamespacedReference where

instance : RoundTrips NamespacedReference := roundTrips_of_lossless _

/-- Observed state of a gateway. -/
structure MCPGGatewayStatus (τ : Type) where
  conditions : List (Condition τ)
  observedGeneration : Option Int64
  replicas : Option Int32
  readyReplicas : Option Int32
  updatedReplicas : Option Int32
  availableReplicas : Option Int32
  configHash : Option String
  pluginSetHash : Option String
  revocationListHash : Option String
  lastReconcileTime : Option τ
deriving Inhabited

instance {τ : Type} [Rfc3339 τ] : Derive (MCPGGatewayStatus τ) where
  Row := _
  fields := .list "conditions" <| .optional "observed_generation" <| .optional "replicas" <|
    .optional "ready_replicas" <| .optional "updated_replicas" <|
    .optional "available_replicas" <| .optional "config_hash" <| .optional "plugin_set_hash" <|
    .optional "revocation_list_hash" <| .optional "last_reconcile_time" .nil
  toRow x := (x.conditions, x.observedGeneration, x.replicas, x.readyReplicas, x.updatedReplicas,
    x.availableReplicas, x.configHash, x.pluginSetHash, x.revocationListHash,
    x.lastReconcileTime, ())
  ofRow := fun (conditions, observedGeneration, replicas, readyReplicas, updatedReplicas,
    availableReplicas, configHash, pluginSetHash, revocationListHash, lastReconcileTime, ()) =>
    { conditions, observedGeneration, replicas, readyReplicas, updatedReplicas,
      availableReplicas, configHash, pluginSetHash, revocationListHash, lastReconcileTime }

instance {τ : Type} [Rfc3339 τ] : DistinctKeys (MCPGGatewayStatus τ) where

instance {τ : Type} [Rfc3339 τ] [LawfulRfc3339 τ] : RoundTrips (MCPGGatewayStatus τ) :=
  roundTrips_of_lossless _

/-- The number of replicas a gateway can actually reach, with the path of the
field responsible for it. -/
def MCPGGatewaySpec.effectiveReplicaCeiling (spec : MCPGGatewaySpec) : Int32 × String :=
  match spec.autoscaling.filter (fun a => a.enabled) with
  | some a =>
      let minReplicas := max (a.minReplicas.getD 1) 1
      let maxReplicas := max (a.maxReplicas.getD (max spec.replicas minReplicas)) minReplicas
      (maxReplicas, "spec.autoscaling.maxReplicas")
  | none => (spec.replicas, "spec.replicas")

end McpgOperatorApi
