import SqlTutor.CommandLine.Arguments
import SqlTutor.Course.Catalog
import SqlTutor.Course.TableDoc

/-!
What each command prints, and the exit code of a run: 0, or 1 for a task that does not exist and
for a dataset that cannot be read, or 2 for arguments out of place.
-/
namespace SqlTutor.CommandLine

open Query Course

/-- What a run prints on standard output and on standard error. -/
structure Report where
  exitCode : Nat
  output : String
  complaint : String

def outcomeText (outcome : Outcome) : String := outcome.toJson.pretty ++ "\n"

def queryText (sandbox : Sandbox) (sql : String) : String := outcomeText (sandbox.execute sql)

def verdictText (task : Task) (passed : Bool) : String :=
  if passed then "\n[X] " ++ task.id ++ " passed\n"
  else "\n[ ] " ++ task.id ++ " not yet. Hint: " ++ task.hint ++ "\n"

def checkText (sandbox : Sandbox) (task : Task) (sql : String) : String :=
  let attempt := task.check sandbox sql
  outcomeText attempt.outcome ++ verdictText task attempt.passed

/-- The answer to one line of input; a blank line has none. -/
def lineText (sandbox : Sandbox) (line : List Char) : String :=
  let sql := Text.trim line
  if sql.isEmpty then "" else queryText sandbox (String.ofList sql)

def replText (sandbox : Sandbox) (input : String) : String :=
  String.join ((input.toList.splitOn '\n').map (lineText sandbox))

/-- A text filled up with spaces on its right. -/
def padRight (width : Nat) (s : String) : String :=
  s ++ String.ofList (List.replicate (width - s.length) ' ')

def padLeft (width : Nat) (s : String) : String :=
  String.ofList (List.replicate (width - s.length) ' ') ++ s

def columnText (c : ColumnDoc) : String :=
  "    " ++ padRight 12 c.name ++ " " ++ padRight 8 c.sqlType ++ " " ++ c.note ++ "\n"

/-- A table with its size, and its columns if they are described. -/
def tableText (name : String) (rows : List Row) : String :=
  let doc := TableDoc.find? name
  padRight 12 name ++ " " ++ padLeft 4 (String.ofList (Nat.toDigits 10 rows.length)) ++ " rows  " ++
    (doc.map TableDoc.description).getD "" ++ "\n" ++
    String.join (((doc.map TableDoc.columns).getD []).map columnText)

def tablesText (dataset : Dataset) : String :=
  String.join (dataset.entries.map fun (name, rows) => tableText name rows)

def exerciseText (e : Exercise) : String :=
  "[" ++ e.id ++ "] (" ++ e.moduleId ++ ") " ++ e.prompt ++ "\n"

def exercisesText (moduleId : Option String) : String :=
  let chosen :=
    match moduleId with
    | none => Exercise.all
    | some m => Exercise.ofModule m
  String.join (chosen.map exerciseText)

def challengeText (c : Challenge) : String :=
  "[" ++ c.id ++ "] (" ++ c.difficulty.name ++ ") " ++ c.prompt ++ "\n"

def challengesText : String := String.join (Challenge.all.map challengeText)

def versionText : String := "oxide-tutor 0.1.0\n"

def helpText : String :=
  "Practice SQL against an in-memory sample database.\n\n" ++
    "Usage: oxide-tutor [OPTIONS] <COMMAND>\n\n" ++
    "Commands: query, tables, exercises, challenges, check, repl, help\n"

def misuseText : String := "error: arguments out of place; try 'oxide-tutor help'\n"

/-- A file and what it holds, if it can be read. -/
structure DatasetFile where
  path : String
  content : Option ByteArray

/-- The dataset file of a request: an option counts before the environment. -/
def datasetPath? (request : Request) (environment : Option String) : Option String :=
  match request with
  | .run s _ => s.dataset.or environment
  | _ => none

def options (s : Settings) (today : Date) : Options where
  countSource := if s.countWorkingSet then .workingSet else .table
  strict := s.strict
  today := today

/-- The sandbox of a run, over the sample tables if no file is named. -/
def sandbox (s : Settings) (file : Option DatasetFile) (today : Date) :
    Except Course.Error Sandbox :=
  let dataset : Except Course.Error Dataset :=
    match file with
    | none => .ok .sample
    | some file => loadDataset file.path file.content
  dataset.map fun d => ⟨d, options s today⟩

def commandText (sandbox : Sandbox) (input : String) : Command → Except Course.Error String
  | .query sql => .ok (queryText sandbox sql)
  | .tables => .ok (tablesText sandbox.dataset)
  | .exercises moduleId => .ok (exercisesText moduleId)
  | .challenges => .ok challengesText
  | .check id sql => (requireTask id).map fun task => checkText sandbox task sql
  | .repl => .ok (replText sandbox input)

/-- The report on a request, given the dataset file it names and the standard input. -/
def report (request : Request) (file : Option DatasetFile) (input : String) (today : Date) :
    Report :=
  match request with
  | .version => ⟨0, versionText, ""⟩
  | .help => ⟨0, helpText, ""⟩
  | .misuse => ⟨2, "", misuseText⟩
  | .run s command =>
    match (sandbox s file today).bind fun sandbox => commandText sandbox input command with
    | .error e => ⟨1, "", "Error: " ++ e.message ++ "\n"⟩
    | .ok text => ⟨0, text, ""⟩

end SqlTutor.CommandLine
