import SqlTutor.Json.Token

/-!
JSON documents with their members in order, and their two written forms: without any white
space, and indented by two spaces a level.
-/
namespace SqlTutor

inductive Json where
  | null
  | bool (b : Bool)
  | number (n : Json.Number)
  | string (s : String)
  | array (items : List Json)
  | object (members : List (String × Json))

namespace Json

mutual

def tokens : Json → List Token
  | .null => [.null]
  | .bool b => [.bool b]
  | .number n => [.number n]
  | .string s => [.string s]
  | .array items => .openArray :: itemTokens items ++ [.closeArray]
  | .object members => .openObject :: memberTokens members ++ [.closeObject]

def itemTokens : List Json → List Token
  | [] => []
  | [item] => item.tokens
  | item :: rest => item.tokens ++ .comma :: itemTokens rest

def memberTokens : List (String × Json) → List Token
  | [] => []
  | [(name, value)] => .string name :: .colon :: value.tokens
  | (name, value) :: rest => .string name :: .colon :: value.tokens ++ .comma :: memberTokens rest

end

def compact (j : Json) : String := String.ofList (j.tokens.flatMap Token.text)

/-- A line end and the indentation of the next line. -/
def newLine (depth : Nat) : List Char := '\n' :: List.replicate (2 * depth) ' '

mutual

/-- The text of a document at a level of nesting; empty arrays and objects stay on their line. -/
def prettyAt (depth : Nat) : Json → List Char
  | .null => Token.text .null
  | .bool b => Token.text (.bool b)
  | .number n => n.text
  | .string s => stringText s
  | .array [] => ['[', ']']
  | .array (item :: rest) =>
    '[' :: prettyItems (depth + 1) (item :: rest) ++ newLine depth ++ [']']
  | .object [] => ['\x7b', '\x7d']
  | .object (member :: rest) =>
    '\x7b' :: prettyMembers (depth + 1) (member :: rest) ++ newLine depth ++ ['\x7d']

def prettyItems (depth : Nat) : List Json → List Char
  | [] => []
  | [item] => newLine depth ++ prettyAt depth item
  | item :: rest => newLine depth ++ prettyAt depth item ++ ',' :: prettyItems depth rest

def prettyMembers (depth : Nat) : List (String × Json) → List Char
  | [] => []
  | [(name, value)] => newLine depth ++ stringText name ++ ':' :: ' ' :: prettyAt depth value
  | (name, value) :: rest =>
    newLine depth ++ stringText name ++ ':' :: ' ' :: prettyAt depth value ++
      ',' :: prettyMembers depth rest

end

def pretty (j : Json) : String := String.ofList (prettyAt 0 j)

end Json

end SqlTutor
