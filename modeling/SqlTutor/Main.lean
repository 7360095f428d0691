import SqlTutor.CommandLine.Report
import Std.Time.Date.PlainDate
import Std.Time.DateTime.Timestamp

/-!
The program: reads the dataset file and the standard input, prints the report, and answers lines
one by one as they come in.
-/
namespace SqlTutor.CommandLine

/-- The current date at Greenwich. -/
def currentDate : IO Date := do
  let now ← Std.Time.Timestamp.now
  let date := Std.Time.PlainDate.ofEpochDay now.toDaysSinceUnixEpoch
  return ⟨date.year.toInt, date.month.toNat, date.day.toNat⟩

def readFile (path : String) : IO DatasetFile := do
  let content ←
    try
      some <$> IO.FS.readBinFile path
    catch _ =>
      pure none
  return ⟨path, content⟩

/-- Answers each line before the next one is read. -/
partial def answerLines (sandbox : Query.Sandbox) (input output : IO.FS.Stream) : IO Unit := do
  let line ← input.getLine
  if !line.isEmpty then
    output.putStr (lineText sandbox line.toList)
    output.flush
    answerLines sandbox input output

def runRequest (request : Request) : IO UInt32 := do
  let environment ← IO.getEnv "OXIDE_TUTOR_DATASET"
  let file ← (datasetPath? request environment).mapM readFile
  let today ← currentDate
  match request with
  | .run s .repl =>
    match sandbox s file today with
    | .ok sandbox => answerLines sandbox (← IO.getStdin) (← IO.getStdout)
    | .error _ => pure ()
  | _ => pure ()
  let r := report request file "" today
  IO.print r.output
  IO.eprint r.complaint
  return r.exitCode.toUInt32

end SqlTutor.CommandLine

def main (args : List String) : IO UInt32 :=
  SqlTutor.CommandLine.runRequest (SqlTutor.CommandLine.read {} args)
