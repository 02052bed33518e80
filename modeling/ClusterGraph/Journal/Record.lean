import ClusterGraph.Json.Basic
import ClusterGraph.Settings

namespace ClusterGraph

/-! Log records: an event of a component with further fields, and the fields that hold for
everything logged while an event of a watch is handled. Another library puts the records into words;
it is taken to accept every record. -/

inductive Severity where
  | debug
  | info
  | warning
  | error
  | critical
deriving DecidableEq, Repr

namespace Severity

def name : Severity → String
  | .debug => "debug"
  | .info => "info"
  | .warning => "warning"
  | .error => "error"
  | .critical => "critical"

def rank : Severity → Nat
  | .debug => 10
  | .info => 20
  | .warning => 30
  | .error => 40
  | .critical => 50

end Severity

def LogLevel.severity : LogLevel → Severity
  | .debug => .debug
  | .info => .info
  | .warning => .warning
  | .error => .error

structure LogRecord where
  severity : Severity
  component : String
  event : String
  fields : Entries Json := []
deriving Repr

namespace LogRecord

/-- All fields of a record. Its own fields come before those of the context, and a field may take
the place of the component. -/
def entries (record : LogRecord) (context : Entries Json) : Entries Json :=
  let own := Entries.insertAll [("component", .str record.component)] record.fields
  let own := own.insert "event" (.str record.event)
  let all := own ++ context.filter fun entry => !own.contains entry.1
  all.insert "level" (.str record.severity.name)

end LogRecord

structure Journal where
  /-- Records of lower rank are dropped. -/
  threshold : Nat
  context : Entries Json := []
  records : List (Entries Json) := []
deriving Repr

namespace Journal

def log (journal : Journal) (record : LogRecord) : Journal :=
  if journal.threshold ≤ record.severity.rank then
    { journal with records := journal.records ++ [record.entries journal.context] }
  else journal

end Journal

end ClusterGraph
