import TokenBridge.Json.Printer
import TokenBridge.Text.Quoted

set_option autoImplicit false

/-! # Values that do not fit

What is said of a value whose form is not the one that is wanted.
-/

namespace TokenBridge.Json

inductive Mismatch
  | wrongType (found : Json) (expected : String)
  | wrongValue (found : Json) (expected : String)
  | wrongLength (length : Nat) (expected : String)
  | missingField (name : String)
  | repeatedField (name : String)
  /-- A name that is none of the known ones. -/
  | unknownName (name : String) (known : List String)
  /-- There is neither a name of a known case nor an object that holds one. -/
  | noCase
  /-- No case of an undivided form fits; `form` names it. -/
  | noCaseOf (form : String)
  /-- The value is of the right kind, but stands for nothing, for the reason given. -/
  | unfit (reason : String)
  deriving Repr

/-- How a number is shown that was not expected. -/
def Number.describe (n : Number) : String :=
  let kind := match n.settle with
    | .integer _ _ => "integer"
    | .double _ => "floating point"
  s!"{kind} `{String.ofList n.settle.print}`"

/-- How a value is shown that was not expected. -/
def describe : Json → String
  | .null => "null"
  | .bool b => s!"boolean `{b}`"
  | .number n => n.describe
  | .string s => s!"string {Quoted.text s}"
  | .array _ => "sequence"
  | .object _ => "map"

def Mismatch.message : Mismatch → String
  | wrongType found expected => s!"invalid type: {found.describe}, expected {expected}"
  | wrongValue found expected => s!"invalid value: {found.describe}, expected {expected}"
  | wrongLength n expected => s!"invalid length {n}, expected {expected}"
  | missingField name => s!"missing field `{name}`"
  | repeatedField name => s!"duplicate field `{name}`"
  | unknownName name known =>
      let names := ", ".intercalate (known.map fun k => s!"`{k}`")
      s!"unknown variant `{name}`, expected one of {names}"
  | noCase => "expected a variant"
  | noCaseOf form => s!"data did not match any variant of untagged enum {form}"
  | unfit reason => reason

end TokenBridge.Json
