import SqlTutor.CommandLine.Report
import SqlTutor.Proofs.Query.Outcomes
import SqlTutor.Proofs.Query.WhiteSpace
import SqlTutor.Proofs.Text.Separators
import Mathlib.Data.List.Nodup

/-!
A statement is run from the command line in three ways: as an argument, as a line of the input, and
as an attempt at a task. The lines of the input are answered one after another as if each had been
an argument, blank ones not at all, and an attempt is answered as its statement is, with a verdict
behind. What is printed for a statement is a text of its outcome.
-/
namespace SqlTutor

open Text Query Json

namespace Course

/-- All tasks, exercises before challenges. -/
def tasks : List Task := Exercise.all.map Exercise.toTask ++ Challenge.all.map Challenge.toTask

theorem findTask?_eq_find? (id : String) : findTask? id = tasks.find? (·.id == id) := by
  unfold findTask? Exercise.find? Challenge.find? tasks
  rw [List.find?_append, List.find?_map, List.find?_map]
  simp only [Function.comp_def]
  cases Exercise.all.find? fun e => e.id == id <;> rfl

/-- No two tasks have the same id. -/
theorem findTask?_of_mem {task : Task} (h : task ∈ tasks) : findTask? task.id = some task := by
  have distinct : (tasks.map Task.id).Nodup := by decide
  rw [findTask?_eq_find?]
  cases found : tasks.find? (·.id == task.id) with
  | none =>
    have missed := List.find?_eq_none.mp found task h
    simp at missed
  | some other =>
    have same : other.id = task.id := by simpa using List.find?_some found
    exact congrArg some (List.inj_on_of_nodup_map distinct (List.mem_of_find?_eq_some found) h same)

theorem findTask?_eq_none {id : String} (h : id ∉ tasks.map Task.id) : findTask? id = none := by
  rw [findTask?_eq_find?, List.find?_eq_none]
  intro task htask same
  rw [beq_iff_eq] at same
  exact h (List.mem_map.mpr ⟨task, htask, same⟩)

end Course

namespace CommandLine

open Course

/-- The lines of a text. A line ends in a line feed, or in a carriage return and a line feed, and
behind the last of these there is another line only if there is more text. -/
def lines : List Char → List (List Char)
  | [] => []
  | '\n' :: s => [] :: lines s
  | '\r' :: '\n' :: s => [] :: lines s
  | c :: s => consFirst c (lines s)

theorem foldr_consFirst_cons (front piece : List Char) (pieces : List (List Char)) :
    front.foldr consFirst (piece :: pieces) = (front ++ piece) :: pieces := by
  induction front with
  | nil => rfl
  | cons c front ih => rw [List.foldr_cons, ih, consFirst, List.cons_append]

theorem foldr_consFirst_nil {front : List Char} (h : front ≠ []) :
    front.foldr consFirst [] = [front] := by
  obtain ⟨start, c, rfl⟩ := (List.eq_nil_or_concat' front).resolve_left h
  rw [List.foldr_append]
  exact foldr_consFirst_cons start [c] []

theorem splitOn_lineFeed (s : List Char) : ('\n' :: s).splitOn '\n' = [] :: s.splitOn '\n' :=
  List.splitOnP_cons_eq_if_modifyHead '\n' s

theorem splitOn_cons {c : Char} (h : c ≠ '\n') (s : List Char) :
    (c :: s).splitOn '\n' = consFirst c (s.splitOn '\n') := by
  have cut := List.splitOnP_cons_eq_if_modifyHead (p := (· == '\n')) c s
  rw [if_neg (by simpa using h)] at cut
  obtain ⟨piece, pieces, hs⟩ := List.exists_cons_of_ne_nil (List.splitOnP_ne_nil (· == '\n') s)
  rw [List.splitOn, cut, List.splitOn, hs, List.modifyHead_cons, consFirst]

section Answers

variable {answer : List Char → String}

/-- Cutting a text at its line feeds only is as good as cutting it into lines, if empty pieces have
no answer and a carriage return at the end of a piece makes no difference. -/
theorem join_map_splitOn (empty : answer [] = "")
    (ended : ∀ piece, answer (piece ++ ['\r']) = answer piece) (front s : List Char) :
    String.join ((front.foldr consFirst (s.splitOn '\n')).map answer) =
      String.join ((front.foldr consFirst (lines s)).map answer) := by
  -- The front is what has been read of the first piece.
  induction s using lines.induct generalizing front with
  | case1 =>
    rw [lines, List.splitOn_nil, foldr_consFirst_cons, List.append_nil]
    by_cases h : front = []
    · subst h
      simp [empty]
    · rw [foldr_consFirst_nil h]
  | case2 s ih =>
    rw [splitOn_lineFeed, lines, foldr_consFirst_cons, foldr_consFirst_cons, List.map_cons,
      List.map_cons, String.join_cons, String.join_cons]
    exact congrArg _ (ih [])
  | case3 s ih =>
    rw [splitOn_cons (by decide), splitOn_lineFeed, lines, consFirst, foldr_consFirst_cons,
      foldr_consFirst_cons, List.map_cons, List.map_cons, String.join_cons, String.join_cons,
      ended, List.append_nil]
    exact congrArg _ (ih [])
  | case4 c s notFeed notReturn ih =>
    have here := ih (front ++ [c])
    rw [List.foldr_append, List.foldr_append] at here
    rw [splitOn_cons notFeed, lines]
    · exact here
    · exact notFeed
    · exact notReturn

end Answers

/-- Whether a line asks for an answer. -/
def asks (line : List Char) : Bool := line.any fun c => !isBlank c

theorem queryText_eq_of_words_eq (sandbox : Sandbox) {s t : List Char} (h : words s = words t) :
    queryText sandbox (String.ofList s) = queryText sandbox (String.ofList t) := by
  have same : collapse s = collapse t := by rw [collapse, h, collapse]
  have answers : sandbox.execute? (String.ofList s) = sandbox.execute? (String.ofList t) := by
    rw [← sandbox.execute?_collapse, same, sandbox.execute?_collapse]
  rw [queryText, queryText, Sandbox.execute, Sandbox.execute, answers]

theorem trim_eq_nil_iff (line : List Char) : trim line = [] ↔ asks line = false := by
  rw [asks, List.any_eq_false]
  constructor
  · intro empty c hc solid
    rw [Bool.not_eq_true'] at solid
    apply words_ne_nil_of_mem hc solid
    rw [← words_trim, empty, words_nil]
  · intro blank
    have all : ∀ c ∈ line, isBlank c := by simpa using blank
    rw [trim, trimStart, List.dropWhile_eq_nil_iff.mpr all]
    rfl

/-- A line that asks is answered as it stands, untrimmed. -/
theorem lineText_eq (sandbox : Sandbox) (line : List Char) :
    lineText sandbox line =
      if asks line then queryText sandbox (String.ofList line) else "" := by
  cases h : asks line with
  | false => simp [lineText, (trim_eq_nil_iff line).mpr h]
  | true =>
    have hne : trim line ≠ [] := by simp [trim_eq_nil_iff, h]
    simp [lineText, hne, queryText_eq_of_words_eq sandbox (words_trim line)]

theorem lineText_return (sandbox : Sandbox) (line : List Char) :
    lineText sandbox (line ++ ['\r']) = lineText sandbox line := by
  have blank : isBlank '\r' := rfl
  have same : words (line ++ ['\r']) = words line := by
    rw [words_append_cons line [] blank, words_nil, List.append_nil]
  have both : asks (line ++ ['\r']) = asks line := by simp [asks, blank]
  rw [lineText_eq, lineText_eq, both, queryText_eq_of_words_eq sandbox same]

theorem join_map_lineText (sandbox : Sandbox) (pieces : List (List Char)) :
    String.join (pieces.map (lineText sandbox)) =
      String.join ((pieces.filter asks).map fun line =>
        queryText sandbox (String.ofList line)) := by
  induction pieces with
  | nil => rw [List.filter_nil, List.map_nil, List.map_nil]
  | cons line pieces ih =>
    rw [List.map_cons, String.join_cons, lineText_eq, ih, List.filter_cons]
    split
    · rw [List.map_cons, String.join_cons]
    · rw [String.empty_append]

theorem replText_eq (sandbox : Sandbox) (input : String) :
    replText sandbox input =
      String.join (((lines input.toList).filter asks).map fun line =>
        queryText sandbox (String.ofList line)) := by
  rw [replText, ← join_map_lineText]
  exact join_map_splitOn (by rfl) (lineText_return sandbox) [] input.toList

theorem isText_outcomeText {outcome : Outcome}
    (h : ∀ t ∈ outcome.toJson.tokens, t.Leads t.text []) :
    IsText outcome.toJson (outcomeText outcome).toList := by
  have lineEnd : Padded [] ['\n'] := .space rfl .nil
  have ended := (padded_pretty outcome.toJson).append lineEnd
  rw [List.append_nil] at ended
  rw [outcomeText, String.toList_append]
  exact ended.cut h

/-- What is printed for a statement writes its outcome and no other document. -/
theorem isText_queryText_iff {sandbox : Sandbox} {sql : String}
    (reads : ∀ x ∈ sandbox.dataset.floats, x.isFinite → ReadsBack x)
    (word : ∀ set, sandbox.execute? sql = .ok set → set.rowCount < 2 ^ 64) (j : Json) :
    IsText j (queryText sandbox sql).toList ↔ j = (sandbox.execute sql).toJson :=
  (isText_outcomeText (Sandbox.leads_execute reads word)).iff_eq j

theorem verdictText_eq_iff (task : Task) (passed : Bool) :
    verdictText task passed = "\n[X] " ++ task.id ++ " passed\n" ↔ passed := by
  cases passed with
  | true => simp [verdictText]
  | false =>
    have differ : verdictText task false ≠ "\n[X] " ++ task.id ++ " passed\n" := by
      intro same
      have letters := congrArg String.toList same
      simp [verdictText] at letters
    simp [differ]

section Report

variable {s : Settings} {file : Option DatasetFile} {today : Date} {box : Sandbox}

theorem report_run_ok {input text : String} {command : Command}
    (loaded : sandbox s file today = .ok box)
    (answered : commandText box input command = .ok text) :
    report (.run s command) file input today = ⟨0, text, ""⟩ := by
  simp only [report, loaded, Except.bind, answered]

/-- A session prints what the query command prints for each line that asks, in order. An attempt at
a task prints what the query command prints for its statement and then the verdict, and a task
that does not exist is refused without an answer. -/
theorem runs_agree (loaded : sandbox s file today = .ok box) :
    (∀ input other,
      (report (.run s .repl) file input today).exitCode = 0 ∧
      (report (.run s .repl) file input today).output =
        String.join (((lines input.toList).filter asks).map fun line =>
          (report (.run s (.query (String.ofList line))) file other today).output)) ∧
    (∀ task ∈ tasks, ∀ sql input other, ∃ verdict,
      (report (.run s (.check task.id sql)) file input today).output =
        (report (.run s (.query sql)) file other today).output ++ verdict ∧
      (verdict = "\n[X] " ++ task.id ++ " passed\n" ∨
        verdict = "\n[ ] " ++ task.id ++ " not yet. Hint: " ++ task.hint ++ "\n") ∧
      (verdict = "\n[X] " ++ task.id ++ " passed\n" ↔ (task.check box sql).passed)) ∧
    ∀ id, id ∉ tasks.map Task.id → ∀ sql input,
      (report (.run s (.check id sql)) file input today).output = "" ∧
      (report (.run s (.check id sql)) file input today).exitCode ≠ 0 := by
  have query : ∀ sql other, report (.run s (.query sql)) file other today =
      ⟨0, queryText box sql, ""⟩ := fun sql other => report_run_ok loaded rfl
  refine ⟨?_, ?_, ?_⟩
  · intro input other
    rw [report_run_ok loaded rfl]
    simp only [query, replText_eq, and_self]
  · intro task htask sql input other
    have answered : commandText box input (.check task.id sql) =
        .ok (queryText box sql ++ verdictText task (task.check box sql).passed) := by
      rw [commandText, requireTask, findTask?_of_mem htask]
      rfl
    refine ⟨verdictText task (task.check box sql).passed, ?_, ?_, ?_⟩
    · rw [report_run_ok loaded answered, query]
    · rw [verdictText]
      split
      · exact Or.inl rfl
      · exact Or.inr rfl
    · exact verdictText_eq_iff task _
  · intro id unknown sql input
    have refused : commandText box input (.check id sql) = .error (.unknownTask id) := by
      rw [commandText, requireTask, findTask?_eq_none unknown]
      rfl
    simp [report, loaded, Except.bind, refused]

/-- A session of two statements with a line of white space between them, an attempt that passes,
and one at no task. -/
theorem runs_agree_sample :
    sandbox {} none ⟨2024, 6, 1⟩ = .ok ⟨.sample, { today := ⟨2024, 6, 1⟩ }⟩ ∧
    (report (.run {} .repl) none " DELETE\tFROM users \r\n\u00a0\nEXPLAIN" ⟨2024, 6, 1⟩).output =
      (report (.run {} (.query " DELETE\tFROM users ")) none "" ⟨2024, 6, 1⟩).output ++
        (report (.run {} (.query "EXPLAIN")) none "" ⟨2024, 6, 1⟩).output ∧
    (report (.run {} (.check "ex1" "SELECT * FROM users")) none "" ⟨2024, 6, 1⟩).output =
      (report (.run {} (.query "SELECT * FROM users")) none "" ⟨2024, 6, 1⟩).output ++
        "\n[X] ex1 passed\n" ∧
    (report (.run {} (.check "ex0" "SELECT * FROM users")) none "" ⟨2024, 6, 1⟩).output = "" := by
  have loaded : sandbox {} none ⟨2024, 6, 1⟩ = .ok ⟨.sample, { today := ⟨2024, 6, 1⟩ }⟩ := rfl
  obtain ⟨session, attempt, stray⟩ := runs_agree loaded
  refine ⟨loaded, ?_, ?_, ?_⟩
  · have asked : (lines " DELETE\tFROM users \r\n\u00a0\nEXPLAIN".toList).filter asks =
        [" DELETE\tFROM users ".toList, "EXPLAIN".toList] := by cbv
    have printed := (session " DELETE\tFROM users \r\n\u00a0\nEXPLAIN" "").2
    rw [asked, List.map_cons, List.map_singleton, String.ofList_toList, String.ofList_toList,
      String.join_cons, String.join_cons, String.join_nil, String.append_empty] at printed
    exact printed
  · have listed : Exercise.selectAll.toTask ∈ tasks :=
      List.mem_append_left _ (List.mem_map_of_mem List.mem_cons_self)
    obtain ⟨verdict, printed, -, passes⟩ := attempt _ listed "SELECT * FROM users" "" ""
    have passed : (Exercise.selectAll.toTask.check ⟨.sample, { today := ⟨2024, 6, 1⟩ }⟩
        "SELECT * FROM users").passed := by decide +kernel
    rw [passes.mpr passed] at printed
    exact printed
  · exact (stray "ex0" (by decide) "SELECT * FROM users" "").1

end Report

end CommandLine

end SqlTutor
