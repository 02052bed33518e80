import ClusterGraph.Rules.Basic

namespace ClusterGraph.RuleTable

/-! The built-in rules. The order of rules shows in the order of relationships. -/

def namespaceType : String := "v1/Namespace"

def rbacVersion : String := "rbac.authorization.k8s.io/v1"

/-- Every object is owned by its owners and belongs to its namespace. -/
def builtinDefaults : List Rule :=
  [⟨".metadata.ownerReferences[*].uid", "", "owned-by", false⟩,
   ⟨".metadata.namespace", namespaceType, "belongs-to", false⟩]

/-- What a pod specification at a path refers to. -/
def podRules (spec : String) : List Rule :=
  [⟨spec ++ ".volumes[*].configMap.name", "v1/ConfigMap", "mount-volume", false⟩,
   ⟨spec ++ ".volumes[*].secret.secretName", "v1/Secret", "mount-volume", false⟩,
   ⟨spec ++ ".volumes[*].persistentVolumeClaim.claimName", "v1/PersistentVolumeClaim",
    "mount-volume", false⟩,
   ⟨spec ++ ".containers[*].envFrom[*].configMapRef.name", "v1/ConfigMap", "env-config", false⟩,
   ⟨spec ++ ".containers[*].envFrom[*].secretRef.name", "v1/Secret", "env-config", false⟩,
   ⟨spec ++ ".serviceAccountName", "v1/ServiceAccount", "use-account", false⟩,
   ⟨spec ++ ".imagePullSecrets[*].name", "v1/Secret", "pull-secret", false⟩]

/-- What a pod template refers to. -/
def templateRules : List Rule :=
  podRules ".spec.template.spec"

/-- A binding names one role and any number of subjects. -/
def bindingRules (roleKind : String) : List Rule :=
  [⟨".roleRef.name", rbacVersion ++ "/" ++ roleKind, "bind-role", false⟩,
   ⟨".subjects[*]", "", "assign-to", true⟩]

def builtinByKind : List (GroupVersionKind × List Rule) :=
  [(⟨"", "v1", "Pod"⟩, podRules ".spec" ++ [⟨".spec.nodeName", "v1/Node", "scheduled-on", false⟩]),
   (⟨"", "v1", "PersistentVolumeClaim"⟩,
    [⟨".spec.volumeName", "v1/PersistentVolume", "bind-volume", false⟩]),
   (⟨"", "v1", "ServiceAccount"⟩, [⟨".imagePullSecrets[*].name", "v1/Secret", "pull-secret", false⟩]),
   (⟨"apps", "v1", "Deployment"⟩, templateRules),
   (⟨"apps", "v1", "StatefulSet"⟩, templateRules),
   (⟨"apps", "v1", "DaemonSet"⟩, templateRules),
   (⟨"apps", "v1", "ReplicaSet"⟩, templateRules),
   (⟨"batch", "v1", "Job"⟩, templateRules),
   (⟨"networking.k8s.io", "v1", "Ingress"⟩,
    [⟨".spec.rules[*].http.paths[*].backend.service.name", "v1/Service", "route-traffic", false⟩,
     ⟨".spec.defaultBackend.service.name", "v1/Service", "route-traffic", false⟩,
     ⟨".spec.tls[*].secretName", "v1/Secret", "tls-secret", false⟩]),
   -- A resource name tells no kind, so that what it refers to is never found.
   (⟨"rbac.authorization.k8s.io", "v1", "Role"⟩,
    [⟨".rules[*].resourceNames[*]", "", "grant-access", false⟩]),
   (⟨"rbac.authorization.k8s.io", "v1", "RoleBinding"⟩, bindingRules "Role"),
   (⟨"rbac.authorization.k8s.io", "v1", "ClusterRoleBinding"⟩, bindingRules "ClusterRole")]

def builtinClusterScoped : List String :=
  [namespaceType, "v1/Node", "v1/PersistentVolume", rbacVersion ++ "/ClusterRole"]

def builtin : RuleTable :=
  ⟨builtinDefaults, builtinByKind, builtinClusterScoped⟩

end ClusterGraph.RuleTable
