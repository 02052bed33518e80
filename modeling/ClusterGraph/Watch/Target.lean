import ClusterGraph.Settings

namespace ClusterGraph

/-! The kinds of objects that can be watched, each with the interface that lists it. -/

structure WatchTarget where
  kind : String
  apiVersion : String
  apiClass : String
  listMethod : String
deriving DecidableEq, Repr

namespace WatchTarget

def core (kind listMethod : String) : WatchTarget :=
  ⟨kind, "v1", "CoreV1Api", listMethod⟩

def apps (kind listMethod : String) : WatchTarget :=
  ⟨kind, "apps/v1", "AppsV1Api", listMethod⟩

def rbac (kind listMethod : String) : WatchTarget :=
  ⟨kind, "rbac.authorization.k8s.io/v1", "RbacAuthorizationV1Api", listMethod⟩

/-- All kinds that are watched unless some are chosen. -/
def builtin : List WatchTarget :=
  [core "Namespace" "list_namespace",
   core "Node" "list_node",
   core "PersistentVolume" "list_persistent_volume",
   core "ConfigMap" "list_config_map_for_all_namespaces",
   core "Secret" "list_secret_for_all_namespaces",
   core "ServiceAccount" "list_service_account_for_all_namespaces",
   core "PersistentVolumeClaim" "list_persistent_volume_claim_for_all_namespaces",
   core "Service" "list_service_for_all_namespaces",
   apps "Deployment" "list_deployment_for_all_namespaces",
   apps "ReplicaSet" "list_replica_set_for_all_namespaces",
   apps "StatefulSet" "list_stateful_set_for_all_namespaces",
   apps "DaemonSet" "list_daemon_set_for_all_namespaces",
   ⟨"Job", "batch/v1", "BatchV1Api", "list_job_for_all_namespaces"⟩,
   core "Pod" "list_pod_for_all_namespaces",
   ⟨"Ingress", "networking.k8s.io/v1", "NetworkingV1Api", "list_ingress_for_all_namespaces"⟩,
   rbac "Role" "list_role_for_all_namespaces",
   rbac "RoleBinding" "list_role_binding_for_all_namespaces",
   rbac "ClusterRole" "list_cluster_role",
   rbac "ClusterRoleBinding" "list_cluster_role_binding"]

/-- The target of a kind. Of several the last counts. -/
def find? (targets : List WatchTarget) (kind : String) : Option WatchTarget :=
  targets.reverse.find? (·.kind == kind)

/-- The targets of the kinds asked for, in their order; all targets if no kind is asked for. -/
def select (kinds : List String) (targets : List WatchTarget) :
    Except SettingsError (List WatchTarget) :=
  if kinds.isEmpty then .ok targets
  else
    match kinds.filter fun kind => (find? targets kind).isNone with
    | [] => .ok (kinds.filterMap (find? targets))
    | unknown => .error (.unsupportedKinds unknown)

end WatchTarget

end ClusterGraph
