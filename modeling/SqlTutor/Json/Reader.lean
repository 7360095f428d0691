import SqlTutor.Json.Lexer
import SqlTutor.Text.Quoted

/-!
Readers that take a document of a wanted shape off the front of some tokens. The first problem
from left to right decides: a value of another shape is reported with what was found and what
was wanted, and anything that is no JSON at all as malformed.
-/
namespace SqlTutor.Json

/-- What a value is, as far as its first token tells. -/
inductive Found where
  | null
  | bool (b : Bool)
  | number (n : Number)
  | string (s : String)
  | array
  | object
deriving DecidableEq

/-- What is wanted at a place of a dataset. -/
inductive Shape where
  | dataset
  | table
  | row
  | value
deriving DecidableEq

inductive ReadError where
  | malformed
  | wrongShape (found : Found) (wanted : Shape)
deriving DecidableEq

namespace Found

def ofToken? : Token → Option Found
  | .openObject => some .object
  | .openArray => some .array
  | .null => some .null
  | .bool b => some (.bool b)
  | .number n => some (.number n)
  | .string s => some (.string s)
  | _ => none

def description : Found → List Char
  | .null => "null".toList
  | .bool b => "boolean `".toList ++ Token.text (.bool b) ++ ['\x60']
  | .number (.int n) => "integer `".toList ++ integerText n ++ ['\x60']
  | .number (.float x) => "floating point `".toList ++ numberLayout.text x ++ ['\x60']
  | .string s => "string ".toList ++ Text.quoted s.toList
  | .array => "sequence".toList
  | .object => "map".toList

end Found

def Shape.description : Shape → String
  | .dataset => "a map of table name to an array of rows"
  | .table => "a sequence"
  | .row => "a map of column name to scalar value"
  | .value => "a scalar value"

def ReadError.message : ReadError → String
  | .malformed => "Invalid dataset: not a JSON document"
  | .wrongShape found wanted =>
    "Invalid dataset: invalid type: " ++ String.ofList found.description ++ ", expected " ++
      wanted.description

/-- The problem with a token that cannot begin what is wanted. -/
def ReadError.unexpected (wanted : Shape) (tokens : List Token) : ReadError :=
  match tokens.head?.bind Found.ofToken? with
  | some found => .wrongShape found wanted
  | none => .malformed

/-- What was read off the front of some tokens. -/
structure Read (α : Type) (tokens : List Token) where
  value : α
  rest : List Token
  shorter : rest.length < tokens.length

theorem Read.tail_lt {α : Type} {tokens rest : List Token} {token : Token} (r : Read α tokens)
    (h : r.rest = token :: rest) : rest.length < tokens.length := by
  have := r.shorter
  rw [h, List.length_cons] at this
  omega

theorem length_lt_cons_cons (a b : Token) (rest : List Token) :
    rest.length < (a :: b :: rest).length :=
  Nat.lt_succ_of_lt (Nat.lt_succ_self _)

abbrev Reader (α : Type) := (tokens : List Token) → Except ReadError (Read α tokens)

namespace Reader

variable {α β : Type}

def map (f : α → β) (read : Reader α) : Reader β := fun tokens =>
  (read tokens).map fun r => ⟨f r.value, r.rest, r.shorter⟩

def scalar : Reader Value := fun tokens =>
  match tokens with
  | .null :: rest => .ok ⟨.null, rest, Nat.lt_succ_self _⟩
  | .bool b :: rest => .ok ⟨.bool b, rest, Nat.lt_succ_self _⟩
  | .number (.int n) :: rest =>
    let v := if n ≤ Int64.maxValue.toInt then .int (Int64.ofInt n) else .float (Double.ofInt n)
    .ok ⟨v, rest, Nat.lt_succ_self _⟩
  | .number (.float x) :: rest => .ok ⟨.float x, rest, Nat.lt_succ_self _⟩
  | .string s :: rest => .ok ⟨.text s, rest, Nat.lt_succ_self _⟩
  | _ => .error (.unexpected .value tokens)

/-- Items with commas between them, up to the end of the array. -/
def items (read : Reader α) (tokens : List Token) : Except ReadError (Read (List α) tokens) :=
  match read tokens with
  | .error e => .error e
  | .ok item =>
    match h : item.rest with
    | .closeArray :: rest => .ok ⟨[item.value], rest, item.tail_lt h⟩
    | .comma :: next =>
      match items read next with
      | .error e => .error e
      | .ok more =>
        .ok ⟨item.value :: more.value, more.rest, Nat.lt_trans more.shorter (item.tail_lt h)⟩
    | _ => .error .malformed
termination_by tokens.length
decreasing_by exact item.tail_lt h

def array (wanted : Shape) (read : Reader α) : Reader (List α) := fun tokens =>
  match tokens with
  | .openArray :: .closeArray :: rest => .ok ⟨[], rest, length_lt_cons_cons _ _ _⟩
  | .openArray :: rest =>
    (items read rest).map fun r => ⟨r.value, r.rest, Nat.lt_succ_of_lt r.shorter⟩
  | _ => .error (.unexpected wanted tokens)

/-- Members with commas between them, up to the end of the object. -/
def members (read : Reader α) (tokens : List Token) :
    Except ReadError (Read (List (String × α)) tokens) :=
  match tokens with
  | .string name :: .colon :: after =>
    match read after with
    | .error e => .error e
    | .ok member =>
      match h : member.rest with
      | .closeObject :: rest =>
        .ok ⟨[(name, member.value)], rest,
          Nat.lt_trans (member.tail_lt h) (length_lt_cons_cons _ _ _)⟩
      | .comma :: next =>
        match members read next with
        | .error e => .error e
        | .ok more =>
          .ok ⟨(name, member.value) :: more.value, more.rest,
            Nat.lt_trans (Nat.lt_trans more.shorter (member.tail_lt h))
              (length_lt_cons_cons _ _ _)⟩
      | _ => .error .malformed
  | _ => .error .malformed
termination_by tokens.length
decreasing_by exact Nat.lt_trans (member.tail_lt h) (length_lt_cons_cons _ _ _)

def object (wanted : Shape) (read : Reader α) : Reader (List (String × α)) := fun tokens =>
  match tokens with
  | .openObject :: .closeObject :: rest => .ok ⟨[], rest, length_lt_cons_cons _ _ _⟩
  | .openObject :: rest =>
    (members read rest).map fun r => ⟨r.value, r.rest, Nat.lt_succ_of_lt r.shorter⟩
  | _ => .error (.unexpected wanted tokens)

/-- Reads a whole text: nothing but white space may follow. -/
def run (read : Reader α) (text : String) : Except ReadError α :=
  match read (lex text.toList) with
  | .error e => .error e
  | .ok r => if r.rest.isEmpty then .ok r.value else .error .malformed

end Reader

end SqlTutor.Json
