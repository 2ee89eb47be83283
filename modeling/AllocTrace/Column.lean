import AllocTrace.Text.Decimal
import AllocTrace.Text.Quoted
import AllocTrace.Text.White

/-! Columns found by name in a header, and the integer cells below them. -/

namespace AllocTrace

/-- Why a row has no integer in a column. -/
inductive CellError where
  | missingColumn (column : String)
  | missingField (column : String)
  | invalidInteger (column value : String)
deriving DecidableEq

def CellError.message : CellError → String
  | .missingColumn column => "header has no " ++ column ++ " column"
  | .missingField column => "row has no value for " ++ column
  | .invalidInteger column value => column ++ ": not an integer: " ++ Text.quoted value

/-- The integer of a cell: decimal between optional white space, in range. -/
def readInteger (column cell : String) : Except CellError Amount :=
  let text := Text.trim cell
  if text = "" then .error (.missingField column)
  else
    match Amount.ofText? text with
    | some a => .ok a
    | none => .error (.invalidInteger column text)

/-- The required columns and where each stands in the header, if it is there. -/
structure ColumnIndex where
  positions : List (String × Option Nat)
deriving DecidableEq

namespace ColumnIndex

/-- A column stands where its name, less surrounding white space, first occurs. -/
def ofHeader (header required : List String) : ColumnIndex :=
  let names := header.map Text.trim
  { positions := required.map fun column => (column, names.idxOf? column) }

/-- Every required column is in the header. -/
def isComplete (index : ColumnIndex) : Bool :=
  index.positions.all fun entry => entry.2.isSome

def position? (index : ColumnIndex) (column : String) : Option Nat :=
  (index.positions.lookup column).bind id

/-- The integer of the row in the column. -/
def integer (index : ColumnIndex) (row : List String) (column : String)
    : Except CellError Amount :=
  match index.position? column with
  | none => .error (.missingColumn column)
  | some position =>
    match row[position]? with
    | none => .error (.missingField column)
    | some cell => readInteger column cell

end ColumnIndex

end AllocTrace
