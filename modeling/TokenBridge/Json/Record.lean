import TokenBridge.Json.Mismatch

set_option autoImplicit false

/-! # Values of a given form

Reading a number of a given width, a string or a record out of a data value. A record is an object
with named fields, of which unknown ones are passed over and repeated ones refused, or a list of the
fields in their order.
-/

namespace TokenBridge.Json

/-! ## Single values -/

/-- A whole number below `2 ^ width`. -/
def asUnsigned (width : Nat) (j : Json) : Except Mismatch Nat :=
  match j with
  | .number (.integer false n) =>
      if n < Nat.pow 2 width then .ok n
      else if n < Nat.pow 2 64 then .error (.wrongValue j s!"u{width}")
      else .error (.wrongType j s!"u{width}")
  | .number (.integer true n) =>
      if 0 < n ∧ n ≤ Nat.pow 2 63 then .error (.wrongValue j s!"u{width}")
      else .error (.wrongType j s!"u{width}")
  | other => .error (.wrongType other s!"u{width}")

def asString : Json → Except Mismatch String
  | .string s => .ok s
  | other => .error (.wrongType other "a string")

/-- A value that may be absent. -/
def asOptional {α : Type} (read : Json → Except Mismatch α) : Json → Except Mismatch (Option α)
  | .null => .ok none
  | other => (read other).map some

/-- Reads every item of a list. -/
def asList {α : Type} (read : Json → Except Mismatch α) : Json → Except Mismatch (List α)
  | .array items => items.mapM read
  | other => .error (.wrongType other "a sequence")

/-! ## Records -/

/-- What stands for a field that is not there. -/
inductive Absence
  /-- The field must be there. -/
  | refused
  /-- The field may be left out of an object, but not out of a list. -/
  | optional
  /-- The field may be left out. -/
  | defaulted
  deriving DecidableEq, Repr

/-- A field of a record: its name, what its value must satisfy, and whether it may be absent. -/
structure Field where
  name : String
  check : Json → Except Mismatch Unit
  absence : Absence

def field {α : Type} (name : String) (read : Json → Except Mismatch α) (absence : Absence) :
    Field :=
  ⟨name, fun j => (read j).map fun _ => (), absence⟩

/-- The known fields of an object in the order in which they stand, each checked. -/
def knownFields (fields : List Field) (seen : List (String × Json)) :
    List (String × Json) → Except Mismatch (List (String × Json))
  | [] => .ok seen
  | (name, value) :: rest =>
      match fields.find? fun f => f.name == name with
      | none => knownFields fields seen rest
      | some f =>
          if (seen.lookup name).isSome then .error (.repeatedField name)
          else do
            f.check value
            knownFields fields (seen ++ [(name, value)]) rest

/-- The first field that is missing although it must be there. -/
def missing? (fields : List Field) (found : List (String × Json)) : Option String :=
  (fields.find? fun f => f.absence = .refused && (found.lookup f.name).isNone).map Field.name

/-- Gives each item of a list to the field in its place. -/
def placedFields (expected : String) (count index : Nat) :
    List Field → List Json → Except Mismatch (List (String × Json))
  | [], [] => .ok []
  | [], rest => .error (.wrongLength (index + rest.length) "fewer elements in array")
  | f :: fields, [] =>
      if f.absence = .defaulted then placedFields expected count index fields []
      else
        let elements := if count = 1 then "element" else "elements"
        .error (.wrongLength index s!"{expected} with {count} {elements}")
  | f :: fields, value :: rest => do
      f.check value
      let found ← placedFields expected count (index + 1) fields rest
      return (f.name, value) :: found

/-- The fields of a record by name. -/
def asRecord (expected : String) (fields : List Field) (j : Json) :
    Except Mismatch (List (String × Json)) :=
  match j with
  | .object entries => do
      let found ← knownFields fields [] entries
      match missing? fields found with
      | some name => throw (.missingField name)
      | none => return found
  | .array items => placedFields expected fields.length 0 fields items
  | other => .error (.wrongType other expected)

/-- The value of a field of a record, read; an absent one is read as `null`. -/
def readField {α : Type} (found : List (String × Json)) (name : String)
    (read : Json → Except Mismatch α) : Except Mismatch α :=
  read ((found.lookup name).getD .null)

/-- The value of a field that may be left out. -/
def readFieldD {α : Type} (found : List (String × Json)) (name : String)
    (read : Json → Except Mismatch α) (default : α) : Except Mismatch α :=
  match found.lookup name with
  | some value => read value
  | none => .ok default

/-- The one variant that an object names, with its content; a bare string names a variant without
content. -/
def asVariant : Json → Except Mismatch (String × Option Json)
  | .string name => .ok (name, none)
  | .object [(name, content)] => .ok (name, some content)
  | _ => .error .noCase

end TokenBridge.Json
