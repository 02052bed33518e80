import ClusterGraph.Json.Reader
import ClusterGraph.Path.Parser
import ClusterGraph.Settings

namespace ClusterGraph

/-! Causes of failure. Those of the graph are told to the log and end one object; all others end
whatever is under way. -/

/-- The part of a conversation with the database that was refused. -/
inductive Stage where
  | opening
  | statement
  | commit
  | reachability
deriving DecidableEq, Repr

def Stage.complaint : Stage → String
  | .opening => "cannot open transaction: "
  | .statement => "statement failed: "
  | .commit => "commit failed: "
  | .reachability => "graph store unreachable: "

inductive GraphFailure where
  | notFound (identifier detail : String)
  /-- A look-up by uid found several nodes. -/
  | ambiguous (uid : String) (count : Nat)
  | refused (stage : Stage) (reason : String)
  /-- A node was created without an id in answer. -/
  | withoutId (uid : String)
  | aborted (reason : String)
  | schema (reason : String)
  /-- A node has no form in the database. -/
  | unwritable (uid reason : String)
  | badPath (expression : String) (problem : Path.Problem)
deriving DecidableEq, Repr

namespace GraphFailure

/-- The name under which the log files a failure. -/
def name : GraphFailure → String
  | .notFound .. => "ResourceNotFoundError"
  | .ambiguous .. => "IntegrityViolationError"
  | .refused .. | .withoutId .. | .aborted .. => "TransactionError"
  | .schema .. => "SchemaError"
  | .unwritable .. => "MarshalError"
  | .badPath .. => "PathQueryError"

def message : GraphFailure → String
  | .notFound identifier detail =>
      "resource not found: " ++ identifier ++ (if detail.isEmpty then "" else " (" ++ detail ++ ")")
  | .ambiguous uid count =>
      "external uid " ++ Text.quoted uid ++ " matched " ++ toString count ++
        " nodes; expected at most one"
  | .refused stage reason => stage.complaint ++ reason
  | .withoutId uid => "create returned no id for uid " ++ Text.quoted uid
  | .aborted reason => reason
  | .schema reason => "schema provisioning failed: " ++ reason
  | .unwritable uid reason => "cannot serialise resource " ++ Text.quoted uid ++ ": " ++ reason
  | .badPath expression problem =>
      "invalid path expression " ++ Text.quoted expression ++ ": " ++ problem.message

end GraphFailure

/-- Where a failure comes from that the program has no account of. -/
inductive Origin where
  | databaseDriver
  | databaseServer
  | operatingSystem
  | program
  | value
  | deadline
  | clusterConfiguration
deriving DecidableEq, Repr

/-- How a record differs from what it should be. -/
inductive ShapeError where
  | noRecord
  /-- A value is of no use for an operation. -/
  | wrongType
  | missingKey
  /-- An element of a collection of pairs is none. -/
  | noPair (position length : Nat)
  /-- A text holds collections within too many others. -/
  | tooDeep (collection : Json.Collection)
  /-- A tree has no JSON text. -/
  | unwritten (fault : Json.TextFault)
  /-- A tree has no text in messages. -/
  | unshown (fault : Json.TextFault)
  /-- A value of a kind that has no order with numbers stands for a time. -/
  | noDuration (kind : String)
  /-- A time is beyond what the clock counts. -/
  | uncountable
deriving DecidableEq, Repr

def ShapeError.message : ShapeError → String
  | .noPair position length =>
      "dictionary update sequence element #" ++ toString position ++ " has length " ++
        toString length ++ "; 2 is required"
  | .tooDeep collection =>
      "maximum recursion depth exceeded while decoding a JSON " ++ collection.name ++
        " from a unicode string"
  | .unwritten .tooDeep => "maximum recursion depth exceeded while encoding a JSON object"
  | .unshown .tooDeep => "maximum recursion depth exceeded while getting the repr of an object"
  | .unwritten .longInteger | .unshown .longInteger => Text.longIntegerMessage
  | .noDuration kind => "'<=' not supported between instances of '" ++ kind ++ "' and 'int'"
  | .uncountable => "int too large to convert to float"
  | .noRecord | .wrongType | .missingKey => ""

inductive Failure where
  | graph (failure : GraphFailure)
  | settings (error : SettingsError)
  | positionTooLong (digits : Nat)
  | foreign (origin : Origin) (reason : String)
  | shape (error : ShapeError)
  /-- A stamp leaves the years counted. -/
  | dateOutOfRange
  | expired (reason : String)
  /-- A watch stream broke, with a status if it told one. -/
  | stream (reason : String) (status : Json)
  | startup (component : String) (cause : Failure)
deriving Repr

namespace Failure

def message : Failure → String
  | .graph failure => failure.message
  | .settings error => error.message
  | .positionTooLong digits => (Text.IntegerError.tooLong digits).message
  | .foreign _ reason => reason
  | .shape error => error.message
  | .dateOutOfRange => "date value out of range"
  | .expired reason => reason
  | .stream reason _ => reason
  | .startup component cause => component ++ ": " ++ cause.message

def ofPathError : Path.Error → Failure
  | .malformed expression problem => .graph (.badPath expression problem)
  | .positionTooLong digits => .positionTooLong digits

end Failure

end ClusterGraph
