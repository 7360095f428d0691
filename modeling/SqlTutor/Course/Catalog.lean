import SqlTutor.Course.Challenge
import SqlTutor.Course.Exercise

/-!
Finding tasks by their id and reading dataset files, with the ways in which these fail.
-/
namespace SqlTutor.Course

inductive Error where
  | unknownTask (id : String)
  | unreadableDataset (path reason : String)
  | badDataset (error : Json.ReadError)
deriving DecidableEq

def Error.message : Error → String
  | .unknownTask id => "No exercise or challenge with id '" ++ id ++ "'"
  | .unreadableDataset path reason => "Failed to read dataset '" ++ path ++ "': " ++ reason
  | .badDataset e => e.message

/-- Exercises come before challenges. -/
def findTask? (id : String) : Option Task :=
  match Exercise.find? id with
  | some e => some e.toTask
  | none => (Challenge.find? id).map Challenge.toTask

def requireTask (id : String) : Except Error Task :=
  match findTask? id with
  | some task => .ok task
  | none => .error (.unknownTask id)

/-- The dataset in a file, given what the file holds, if there is one. -/
def loadDataset (path : String) (content : Option ByteArray) : Except Error Dataset :=
  match content with
  | none => .error (.unreadableDataset path "No such file or directory (os error 2)")
  | some bytes =>
    match String.fromUTF8? bytes with
    | none => .error (.unreadableDataset path "stream did not contain valid UTF-8")
    | some text =>
      match Dataset.ofText text with
      | .ok d => .ok d
      | .error e => .error (.badDataset e)

end SqlTutor.Course
