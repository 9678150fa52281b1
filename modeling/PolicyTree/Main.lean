import PolicyTree.CommandLine.Run
import Std.Time.DateTime.Timestamp
/-
  The program: it finds out its environment, its file and the time, runs, and prints the
  report. A run is short, and its clock stands still.
-/
namespace PolicyTree.CommandLine

/-- Entries `NAME=value` as they stand in an environment, each ended by a zero. -/
def environmentEntries (text : String) : List (String × String) :=
  (Text.split '\x00' text).filterMap (Text.splitOnce? '=')

/-- The environment of this process; empty where it cannot be found out. -/
def processEnvironment : IO (List (String × String)) := do
  try
    return environmentEntries (← IO.FS.readFile "/proc/self/environ")
  catch _ => return []

/-- What stands under the name of a file. The files of the program are all TOML. -/
def fileContent (name : String) : IO FileContent := do
  let read (name : String) : IO FileContent := return .file ⟨name, ← IO.FS.readFile name⟩
  try read name
  catch
    | .noFileOrDirectory .. => return .absent
    | .inappropriateType .. => try read (name ++ ".toml") catch _ => return .unreadable
    | _ => return .unreadable

/-- What the clock on the wall shows. -/
def wallClock : IO Instant := do
  return ⟨(← Std.Time.Timestamp.now).toNanosecondsSinceUnixEpoch.val⟩

/-- Run the program on arguments. -/
def runProcess (arguments : List String) : IO Report := do
  let environment ← processEnvironment
  match invocation arguments environment with
  | .error interruption => return interruption.report
  | .ok invocation =>
    let file ← fileContent (invocation.configFile.getD Settings.defaultFile)
    let terminal ← (← IO.getStdout).isTty
    let now ← wallClock
    return invocation.report ⟨environment, fun _ => file, fun _ => none, terminal, fun _ => now⟩

end PolicyTree.CommandLine

/-- The program. -/
def main (arguments : List String) : IO UInt32 := do
  let report ← PolicyTree.CommandLine.runProcess arguments
  IO.print report.stdout
  report.complaint.forM IO.eprint
  return report.exit.toUInt32
