/-!
The arguments of the command line. Options of the whole program stand before the command, those
of a command behind it. Arguments are read from the left, and the first one that asks for the
version or for help, or that is out of place, decides.
-/
namespace SqlTutor.CommandLine

inductive Command where
  | query (sql : String)
  | tables
  | exercises (moduleId : Option String)
  | challenges
  | check (id sql : String)
  | repl
deriving DecidableEq

/-- The options of the whole program. -/
structure Settings where
  dataset : Option String := none
  strict : Bool := false
  countWorkingSet : Bool := false
  verbose : Bool := false
deriving DecidableEq

inductive Request where
  | run (settings : Settings) (command : Command)
  | version
  | help
  | misuse
deriving DecidableEq

namespace Settings

/-- No option may be given twice, and no dataset without a name. -/
def setDataset (s : Settings) (path : List Char) : Except Request Settings :=
  if s.dataset.isSome || path.isEmpty then .error .misuse
  else .ok { s with dataset := some (String.ofList path) }

def setStrict (s : Settings) : Except Request Settings :=
  if s.strict then .error .misuse else .ok { s with strict := true }

def setCountWorkingSet (s : Settings) : Except Request Settings :=
  if s.countWorkingSet then .error .misuse else .ok { s with countWorkingSet := true }

def setVerbose (s : Settings) : Except Request Settings :=
  if s.verbose then .error .misuse else .ok { s with verbose := true }

/-- The settings after an option, and whether its value is still to come. -/
abbrev Step := Except Request (Settings × Bool)

def done (s : Except Request Settings) : Step := s.map (·, false)

/-- An option by its name, without a value at hand. -/
def longOption (s : Settings) (name : String) : Step :=
  if name = "dataset" then .ok (s, true)
  else if name = "strict" then done s.setStrict
  else if name = "count-working-set" then done s.setCountWorkingSet
  else if name = "verbose" then done s.setVerbose
  else if name = "version" then .error .version
  else if name = "help" then .error .help
  else .error .misuse

/-- A name, or a name, an equals sign and a value. -/
def long (s : Settings) (text : List Char) : Step :=
  match text.dropWhile (· != '=') with
  | [] => s.longOption (String.ofList text)
  | _ :: value =>
    if text.takeWhile (· != '=') = "dataset".toList then done (s.setDataset value)
    else .error .misuse

/-- Letters in a row. What follows the letter of an option with a value is the value. -/
def short (s : Settings) : List Char → Step
  | [] => .ok (s, false)
  | c :: rest =>
    if c = 'd' then
      match rest with
      | [] => .ok (s, true)
      | '=' :: value => done (s.setDataset value)
      | value => done (s.setDataset value)
    else if c = 'v' then
      match s.setVerbose with
      | .error r => .error r
      | .ok s => s.short rest
    else if c = 'V' then .error .version
    else if c = 'h' then .error .help
    else .error .misuse

end Settings

/-- What an argument looks like. A hyphen alone is an ordinary word. -/
inductive Shape where
  | word
  | short (letters : List Char)
  | long (text : List Char)

def Shape.of (arg : String) : Shape :=
  match arg.toList with
  | '-' :: '-' :: text => .long text
  | '-' :: c :: letters => .short (c :: letters)
  | _ => .word

/-- The words that a command was given, and its module. -/
structure Operands where
  words : List String := []
  moduleId : Option String := none

namespace Operands

/-- One more word, unless there are enough. -/
def addWord (limit : Nat) (o : Operands) (word : String) : Except Request Operands :=
  if o.words.length < limit then .ok { o with words := o.words ++ [word] } else .error .misuse

def setModule (o : Operands) (moduleId : List Char) : Except Request Operands :=
  if o.moduleId.isSome then .error .misuse
  else .ok { o with moduleId := some (String.ofList moduleId) }

/-- Behind two hyphens everything is a word. -/
def addWords (limit : Nat) (o : Operands) : List String → Except Request Operands
  | [] => .ok o
  | arg :: rest =>
    match o.addWord limit arg with
    | .error r => .error r
    | .ok o => o.addWords limit rest

/-- The operands of a command that takes so many words, and a module or not. -/
def read (limit : Nat) (takesModule : Bool) (o : Operands) :
    List String → Except Request Operands
  | [] => .ok o
  | arg :: rest =>
    match Shape.of arg with
    | .word =>
      match o.addWord limit arg with
      | .error r => .error r
      | .ok o => o.read limit takesModule rest
    | .long [] => o.addWords limit rest
    | .long text =>
      if text = "help".toList then .error .help
      else if !takesModule then .error .misuse
      else if text = "module".toList then
        match rest with
        | value :: rest =>
          match Shape.of value, o.setModule value.toList with
          | .word, .ok o => o.read limit takesModule rest
          | _, _ => .error .misuse
        | [] => .error .misuse
      else if text.takeWhile (· != '=') = "module".toList then
        match o.setModule ((text.dropWhile (· != '=')).drop 1) with
        | .error r => .error r
        | .ok o => o.read limit takesModule rest
      else .error .misuse
    | .short letters =>
      match letters with
      | 'h' :: _ => .error .help
      | 'm' :: value =>
        if !takesModule then .error .misuse
        else
          match value with
          | [] =>
            match rest with
            | value :: rest =>
              match Shape.of value, o.setModule value.toList with
              | .word, .ok o => o.read limit takesModule rest
              | _, _ => .error .misuse
            | [] => .error .misuse
          | c :: more =>
            match o.setModule (if c = '=' then more else c :: more) with
            | .error r => .error r
            | .ok o => o.read limit takesModule rest
      | _ => .error .misuse

end Operands

def Command.names : List String := ["query", "tables", "exercises", "challenges", "check", "repl"]

/-- The command of a name with exactly the words it needs. -/
def Command.ofOperands? (name : String) (o : Operands) : Option Command :=
  match name, o.words with
  | "query", [sql] => some (.query sql)
  | "tables", [] => some .tables
  | "exercises", [] => some (.exercises o.moduleId)
  | "challenges", [] => some .challenges
  | "check", [id, sql] => some (.check id sql)
  | "repl", [] => some .repl
  | _, _ => none

def Command.wordLimit (name : String) : Nat :=
  if name = "query" then 1 else if name = "check" then 2 else 0

/-- A command and what follows it. -/
def readCommand (s : Settings) (name : String) (rest : List String) : Request :=
  if Command.names.contains name then
    match Operands.read (Command.wordLimit name) (name == "exercises") {} rest with
    | .error r => r
    | .ok o =>
      match Command.ofOperands? name o with
      | some command => .run s command
      | none => .misuse
  else if name = "help" then
    match rest with
    | [] => .help
    | [topic] => if topic = "help" || Command.names.contains topic then .help else .misuse
    | _ => .misuse
  else .misuse

/-- Options first, then a command. -/
def read (s : Settings) : List String → Request
  | [] => .misuse
  | arg :: rest =>
    match Shape.of arg with
    | .word => readCommand s arg rest
    | .long [] => .misuse
    | .long text => resume (s.long text) rest
    | .short letters => resume (s.short letters) rest
where
  resume (step : Settings.Step) (rest : List String) : Request :=
    match step with
    | .error r => r
    | .ok (s, false) => read s rest
    | .ok (s, true) =>
      match rest with
      | value :: rest =>
        match Shape.of value, s.setDataset value.toList with
        | .word, .ok s => read s rest
        | _, _ => .misuse
      | [] => .misuse

end SqlTutor.CommandLine
