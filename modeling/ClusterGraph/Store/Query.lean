namespace ClusterGraph

/-! The queries that the program puts to the graph database. Each has a name and a text. -/

inductive Query where
  | findByUid
  | findByGraphId
  | findRelationships
  | resolveUid
  | resolveName
  | createNode
  | mergeNode
  | deleteLabel
  | addLabel
  | deleteRelationships
  | createRelationship
  /-- Any other text, such as a statement of the schema. -/
  | other (text : String)
deriving DecidableEq, Repr

namespace Query

def named : List Query :=
  [.findByUid, .findByGraphId, .findRelationships, .resolveUid, .resolveName, .createNode,
   .mergeNode, .deleteLabel, .addLabel, .deleteRelationships, .createRelationship]

/-- The name of a query; one without a name goes by its text. -/
def name : Query → String
  | .findByUid => "FIND_BY_UID"
  | .findByGraphId => "FIND_BY_GRAPH_ID"
  | .findRelationships => "FIND_RELATIONSHIPS"
  | .resolveUid => "RESOLVE_UID"
  | .resolveName => "RESOLVE_NAME"
  | .createNode => "CREATE_NODE"
  | .mergeNode => "MERGE_NODE"
  | .deleteLabel => "DELETE_LABEL"
  | .addLabel => "ADD_LABEL"
  | .deleteRelationships => "DELETE_RELATIONSHIPS"
  | .createRelationship => "CREATE_RELATIONSHIP"
  | .other text => text

def parameterNames : Query → List String
  | .findByUid | .resolveUid => ["uid"]
  | .findByGraphId | .findRelationships | .deleteRelationships => ["graph_id"]
  | .resolveName => ["name", "kind", "group", "namespace"]
  | .createNode => ["props"]
  | .mergeNode => ["graph_id", "props"]
  | .deleteLabel => ["graph_id", "key"]
  | .addLabel => ["graph_id", "key", "value"]
  | .createRelationship => ["source_id", "target_id", "props"]
  | .other _ => []

def clauses : Query → List String
  | .findByUid =>
      ["MATCH (n:KubernetesResource \x7buid: $uid\x7d)",
       "OPTIONAL MATCH (n)-[:HAS_LABEL]->(l:Label)",
       "WITH n, collect(l \x7b.key, .value\x7d) AS labels",
       "RETURN elementId(n) AS graph_id, properties(n) AS props, labels"]
  | .findByGraphId =>
      ["MATCH (n:KubernetesResource)",
       "WHERE elementId(n) = $graph_id",
       "OPTIONAL MATCH (n)-[:HAS_LABEL]->(l:Label)",
       "WITH n, collect(l \x7b.key, .value\x7d) AS labels",
       "RETURN elementId(n) AS graph_id, properties(n) AS props, labels"]
  | .findRelationships =>
      ["MATCH (n:KubernetesResource)-[:HAS_RELATIONSHIP]->(r:Relationship)-[:TARGETS]->" ++
         "(t:KubernetesResource)",
       "WHERE elementId(n) = $graph_id",
       "RETURN elementId(r) AS graph_id,",
       "       r.relationshipType AS relationship_type,",
       "       r.targetResource AS target_resource,",
       "       coalesce(r.targetUID, '') AS target_uid,",
       "       elementId(t) AS target_graph_id,",
       "       coalesce(t.name, '') AS target_name,",
       "       coalesce(t.namespace, '') AS target_namespace",
       "ORDER BY relationship_type, target_graph_id"]
  | .resolveUid =>
      ["MATCH (n:KubernetesResource \x7buid: $uid\x7d)",
       "RETURN elementId(n) AS graph_id"]
  | .resolveName =>
      ["MATCH (n:KubernetesResource \x7bname: $name\x7d)",
       "WHERE n.kind = $kind",
       "  AND ($group IS NULL OR coalesce(n.group, '') = $group)",
       "  AND ($namespace = '' OR n.namespace = $namespace)",
       "RETURN elementId(n) AS graph_id",
       "ORDER BY n.uid",
       "LIMIT 1"]
  | .createNode =>
      ["CREATE (n:KubernetesResource)",
       "SET n = $props",
       "RETURN elementId(n) AS graph_id"]
  | .mergeNode =>
      ["MATCH (n:KubernetesResource)",
       "WHERE elementId(n) = $graph_id",
       "SET n += $props"]
  | .deleteLabel =>
      ["MATCH (n)-[:HAS_LABEL]->(l:Label \x7bkey: $key\x7d)",
       "WHERE elementId(n) = $graph_id",
       "DETACH DELETE l"]
  | .addLabel =>
      ["MATCH (n)",
       "WHERE elementId(n) = $graph_id",
       "CREATE (n)-[:HAS_LABEL]->(:Label \x7bkey: $key, value: $value\x7d)"]
  | .deleteRelationships =>
      ["MATCH (s)-[:HAS_RELATIONSHIP]->(r:Relationship)",
       "WHERE elementId(s) = $graph_id",
       "DETACH DELETE r"]
  | .createRelationship =>
      ["MATCH (s)",
       "WHERE elementId(s) = $source_id",
       "MATCH (t)",
       "WHERE elementId(t) = $target_id",
       "CREATE (s)-[:HAS_RELATIONSHIP]->(r:Relationship $props)-[:TARGETS]->(t)",
       "RETURN elementId(r) AS graph_id"]
  | .other text => [text]

/-- The text of a query. That of a named one stands on lines of its own. -/
def text : Query → String
  | .other text => text
  | query => "\n" ++ "\n".intercalate query.clauses ++ "\n"

def ofText (text : String) : Query :=
  (named.find? (·.text == text)).getD (.other text)

/-- The query with a name; what is no name is a text. -/
def ofName (name : String) : Query :=
  (named.find? (·.name == name)).getD (.ofText name)

end Query

end ClusterGraph
