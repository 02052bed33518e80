import ClusterGraph.Json.Reader
import ClusterGraph.Lifecycle.Shutdown
import Std.Time.DateTime.Timestamp

/-! The command line. The program takes its settings from the environment and the events of all
watches from standard input, one a line. It writes its log to standard error, and its exit code
tells whether it could be started. -/

namespace ClusterGraph.Main

/-- The variables of the program that are set. -/
def readEnvironment : IO (Entries String) := do
  let values ← Settings.variableNames.mapM fun name => do
    let value ← IO.getEnv (Settings.variablePrefix ++ name)
    pure (value.map fun value => (name, value))
  pure (values.filterMap id)

def readClock : IO Stamp := do
  let now ← Std.Time.Timestamp.now
  let micros := now.toNanosecondsSinceUnixEpoch.val / 1000
  match Calendar.Timestamp.ofInstant? (Calendar.Timestamp.epoch.instant + micros) with
  | some stamp => pure (.time stamp)
  | none => pure (.time .epoch)

partial def readLines (input : IO.FS.Stream) (lines : List String) : IO (List String) := do
  let line ← input.getLine
  if line.isEmpty then pure lines.reverse else readLines input (line :: lines)

def isFor (target : WatchTarget) (event : Json) : Bool :=
  let object := (event.get? "raw_object").getD .null
  ((object.get? "kind").getD .null).textOr "" == target.kind

def services : IO Services := do
  let environment ← readEnvironment
  let clock ← readClock
  let lines ← readLines (← IO.getStdin) []
  let events := lines.filterMap fun line => (Json.ofText line).toOption
  pure
    { environment := environment.get?
      clock
      stream := fun target => .ofDelivered (events.filter (isFor target)) none }

def writeLog (journal : Journal) : IO Unit := do
  let output ← IO.getStderr
  for record in journal.records do
    output.putStr (Json.text .spaced (.obj record) ++ "\n")

def run : IO UInt32 := do
  match Lifecycle.run (← services) { system := { journal := { threshold := 0 } } } with
  | .ok exit app =>
      writeLog app.system.journal
      pure exit.code.toUInt32
  | .error failure app =>
      writeLog app.system.journal
      (← IO.getStderr).putStr (failure.message ++ "\n")
      pure 1

end ClusterGraph.Main

def main : IO UInt32 :=
  ClusterGraph.Main.run
