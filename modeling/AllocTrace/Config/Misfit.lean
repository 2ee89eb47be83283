import AllocTrace.Text.Decimal
import AllocTrace.Text.Quoted
import AllocTrace.Yaml.Node
import AllocTrace.Yaml.Plain

/-! How a YAML value can fail to fit a field, and how a message says so. -/

namespace AllocTrace

/-- What stands where something else was expected. -/
inductive Found where
  | unit
  | boolean (value : Bool)
  | integer (value : Int)
  /-- An integer past 64 bits, with its type. -/
  | wide (value : Int) (type : String)
  /-- A floating-point number as it is written. -/
  | float (text : String)
  | string (value : String)
  | sequence
  | mapping
deriving DecidableEq

namespace Found

def text : Found → String
  | unit => "unit value"
  | boolean value => "boolean `" ++ (if value then "true" else "false") ++ "`"
  | integer value => "integer `" ++ String.ofList (Text.decimal value) ++ "`"
  | wide value type => "integer `" ++ String.ofList (Text.decimal value) ++ "` as " ++ type
  | float text => "floating point `" ++ text ++ "`"
  | string value => "string " ++ Text.quoted value
  | sequence => "sequence"
  | mapping => "map"

/-- The integer that a text denotes, in the narrowest type of 64 or 128 bits. -/
def integer? (s : String) : Option Found :=
  (Yaml.Plain.signed? s).bind fun (negative, n) =>
    if negative then
      if n ≤ Nat.pow 2 63 then some (.integer (-n))
      else if n ≤ Nat.pow 2 127 then some (.wide (-n) "i128")
      else none
    else if n < Nat.pow 2 64 then some (.integer n)
    else if n < Nat.pow 2 128 then some (.wide n "u128")
    else none

/-- What a plain scalar without a tag denotes. -/
def ofPlain (s : String) : Found :=
  if s = "" ∨ Yaml.Plain.isNull s then .unit
  else
    match Yaml.Plain.boolean? s with
    | some value => .boolean value
    | none =>
      match integer? s with
      | some found => found
      | none =>
        if Yaml.Plain.isSpareDigits s then .string s
        else
          match Yaml.Plain.floatText? s with
          | some text => .float text
          | none => .string s

end Found

/-- Why a value does not fit. -/
inductive MisfitReason where
  | invalidType (found : Found) (expected : String)
  | invalidValue (found : Found) (expected : String)
  | unknownVariant (name : String)
  | duplicateField (name : String)
deriving DecidableEq

def MisfitReason.text : MisfitReason → String
  | invalidType found expected => "invalid type: " ++ found.text ++ ", expected " ++ expected
  | invalidValue found expected => "invalid value: " ++ found.text ++ ", expected " ++ expected
  | unknownVariant name =>
    "unknown variant `" ++ name ++ "`, expected one of `auto`, `stride`, `proxy`"
  | duplicateField name => "duplicate field `" ++ name ++ "`"

/-- A value that does not fit: its field, which is empty for the whole document, and where it
starts.
-/
structure Misfit where
  path : String
  reason : MisfitReason
  mark : Yaml.Mark
deriving DecidableEq

/-- The field, the reason and the position, which is left out at the very start of the text. -/
def Misfit.message (misfit : Misfit) : String :=
  let path := if misfit.path = "" then "" else misfit.path ++ ": "
  let place :=
    if misfit.mark.line = 0 ∧ misfit.mark.column = 0 then ""
    else
      " at line " ++ Nat.repr (misfit.mark.line + 1) ++ " column "
        ++ Nat.repr (misfit.mark.column + 1)
  path ++ misfit.reason.text ++ place

end AllocTrace
