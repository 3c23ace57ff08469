import Scaffold.Calendar
import Scaffold.Keyed
import Scaffold.Number.Binary64

/-!
The values of documents: what a manifest or a project description is made of before it is checked.
-/

namespace Scaffold

/-- A value of a document. -/
inductive Data where
  | null
  | bool (b : Bool)
  | int (n : Int)
  | float (x : Binary64)
  | text (t : Text)
  | date (d : Date)
  | time (t : TimeOfDay)
  | dateTime (d : DateTime)
  | list (items : List Data)
  | table (entries : List (Text × Data))
  deriving Inhabited

/-- The types that values of documents have. -/
inductive DataKind where
  | null
  | bool
  | int
  | float
  | text
  | date
  | time
  | dateTime
  | list
  | table
  deriving DecidableEq

namespace DataKind

/-- The name of a type in messages. -/
def name : DataKind → String
  | null => "NoneType"
  | bool => "bool"
  | int => "int"
  | float => "float"
  | text => "str"
  | date => "date"
  | time => "time"
  | dateTime => "datetime"
  | list => "list"
  | table => "dict"

end DataKind

namespace Data

/-- The type of a value. -/
def kind : Data → DataKind
  | null => .null
  | bool _ => .bool
  | int _ => .int
  | float _ => .float
  | text _ => .text
  | date _ => .date
  | time _ => .time
  | dateTime _ => .dateTime
  | list _ => .list
  | table _ => .table

end Data

end Scaffold
