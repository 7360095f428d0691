import SqlTutor.Dataset.Basic
import SqlTutor.Json.Basic
import SqlTutor.Json.Reader

/-!
Values, rows and datasets as JSON. A row is an object of scalars and a dataset an object of
arrays of rows. Whole numbers within 64 bits are integers and all other numbers floating-point
values; what JSON cannot write, infinities and what is not a number, becomes null.
-/
namespace SqlTutor

def Value.toJson : Value → Json
  | .null => .null
  | .bool b => .bool b
  | .int n => .number (.int n.toInt)
  | .float x => if x.isFinite then .number (.float x) else .null
  | .text s => .string s

namespace Row

def toJson (row : Row) : Json := .object (row.entries.map fun (name, v) => (name, v.toJson))

def reader : Json.Reader Row := (Json.Reader.object .row .scalar).map OrderedMap.ofList

def ofText (text : String) : Except Json.ReadError Row := reader.run text

end Row

namespace Dataset

def toJson (d : Dataset) : Json :=
  .object (d.entries.map fun (name, rows) => (name, .array (rows.map Row.toJson)))

def reader : Json.Reader Dataset :=
  (Json.Reader.object .dataset (.array .table Row.reader)).map OrderedMap.ofList

def ofText (text : String) : Except Json.ReadError Dataset := reader.run text

end Dataset

end SqlTutor
