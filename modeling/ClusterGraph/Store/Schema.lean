import ClusterGraph.Store.Transaction

namespace ClusterGraph

/-! The schema of the database: a constraint that keeps uids apart, and the indexes that look-ups
use. Each statement does nothing where its result is there already. -/

namespace Schema

def indexOf (name label : String) (fields : List String) : String :=
  "CREATE INDEX " ++ name ++ " IF NOT EXISTS FOR (" ++ label ++ ") ON (" ++
    ", ".intercalate fields ++ ")"

def node : String := "n:KubernetesResource"

/-- The fields of a node with an index of their own, with the name of the index. -/
def indexedFields : List (String × String) :=
  [("resource_kind", "kind"),
   ("resource_namespace", "namespace"),
   ("resource_name", "name"),
   ("resource_status_phase", "status_phase"),
   ("resource_spec_nodename", "spec_nodeName"),
   ("resource_iscurrent", "isCurrent"),
   ("resource_cluster", "cluster")]

/-- The statements of the schema, in the order in which they are applied. -/
def statements : List String :=
  ["CREATE CONSTRAINT resource_uid_unique IF NOT EXISTS FOR (" ++ node ++
     ") REQUIRE n.uid IS UNIQUE",
   indexOf "resource_name_lookup" node ["n.kind", "n.group", "n.name", "n.namespace"]] ++
  indexedFields.map (fun index => indexOf index.1 node ["n." ++ index.2]) ++
  [indexOf "label_key" "l:Label" ["l.key"],
   indexOf "relationship_type" "r:Relationship" ["r.relationshipType"],
   indexOf "relationship_target_resource" "r:Relationship" ["r.targetResource"],
   indexOf "relationship_target_uid" "r:Relationship" ["r.targetUID"]]

def component : String := "graph.schema"

/-- Applies one statement. What the database refuses is a failure of the schema. -/
def applyOne (text : String) : Action Unit := fun system =>
  match Action.execute ⟨.ofText text, []⟩ system with
  | .ok _ system =>
      Action.log .debug component "schema_statement_applied" [("query", .str text)] system
  | .error (.graph failure) system =>
      .error (.graph (.schema failure.message))
        (system.log ⟨.error, component, "schema_statement_failed",
          [("query", .str text), ("error", .str failure.message)]⟩)
  | .error failure system => .error failure system

/-- Applies statements in order up to the first that fails, and tells their number. -/
def apply (statements : List String) : Action Nat := do
  statements.forM applyOne
  Action.log .info component "schema_applied" [("statements", .int statements.length)]
  pure statements.length

end Schema

end ClusterGraph
