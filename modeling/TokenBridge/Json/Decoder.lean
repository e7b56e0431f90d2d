import TokenBridge.Json.Parser
import TokenBridge.Json.Record

set_option autoImplicit false

/-! # Decoders

Reading a value of a known type straight from a text. What does not fit is refused where that shows:
a value without parts behind it, a field behind its name, and a whole object behind its end.
-/

namespace TokenBridge.Json

/-- Takes a value off the front of a text. -/
abbrev Decoder (α : Type) := StateT (List Char) (Except Stop) α

namespace Decoder

variable {α σ : Type}

/-! ## Refusals -/

/-- Refuses what has been read so far. -/
def refuse (m : Mismatch) : Decoder α := fun s => stopAfter (.mismatch m) s

def ofExcept : Except Mismatch α → Decoder α
  | .ok a => pure a
  | .error m => refuse m

/-- Refuses a list of which a part has been read; its end belongs to it if nothing else comes
first. -/
def refuseList (m : Mismatch) : Decoder α := fun s =>
  match skipBlanks s with
  | ']' :: rest => refuse m rest
  | ',' :: rest => refuse m (skipBlanks rest)
  | rest => refuse m rest

/-- Refuses an object of which a part has been read; its end belongs to it if nothing else comes
first. -/
def refuseObject (m : Mismatch) : Decoder α := fun s =>
  match skipBlanks s with
  | '\x7d' :: rest => refuse m rest
  | rest => refuse m rest

/-! ## Single values -/

/-- A value without parts, of several possible kinds. Lists and objects are refused behind their
first bracket. -/
def anyOf (expected : String) (read : Json → Except Mismatch α) : Decoder α := do
  match ← readHead with
  | .scalar v => ofExcept (read v)
  | .list => refuseList (.wrongType (.array []) expected)
  | .object => refuseObject (.wrongType (.object []) expected)

/-- A value without parts, of one kind. Lists and objects are refused before they start. -/
def single (expected : String) (read : Json → Except Mismatch α) : Decoder α := fun s => do
  match ← readHead s with
  | (.scalar v, rest) => ofExcept (read v) rest
  | (.list, _) => refuse (.wrongType (.array []) expected) (skipBlanks s)
  | (.object, _) => refuse (.wrongType (.object []) expected) (skipBlanks s)

/-- A value that may be absent. -/
def optional (d : Decoder α) : Decoder (Option α) := fun s =>
  match skipBlanks s with
  | 'n' :: rest => do return (none, ← afterWord "ull".toList rest)
  | s => d.map some s

/-- The text of a value, of which only the form is checked. -/
def verbatim : Decoder String := fun s => do
  let start := skipBlanks s
  let rest ← skip start
  return (String.ofList (start.take (start.length - rest.length)), rest)

/-- Passes over a value. -/
def pass : Decoder Unit := fun s => do return ((), ← skip s)

/-! ## Lists -/

/-- The items up to the end of a list. Every item takes at least one step, so `fuel` never runs out
when it is longer than the text. -/
def itemsFrom (item : Decoder α) (first : Bool) : Nat → Decoder (List α)
  | 0 => fun s => stopAfter .endOfList s
  | fuel + 1 => fun s => do
      match ← nextItem first s with
      | .none rest => return ([], rest)
      | .item start =>
          let (a, rest) ← item start
          let (as, rest) ← itemsFrom item false fuel rest
          return (a :: as, rest)

/-- The items of a list whose bracket has been read. -/
def items (item : Decoder α) : Decoder (List α) := fun s => itemsFrom item true (s.length + 1) s

/-- A list. -/
def list (item : Decoder α) : Decoder (List α) := fun s => do
  match ← readHead s with
  | (.list, rest) => items item rest
  | (.scalar v, rest) => refuse (.wrongType v "a sequence") rest
  | (.object, _) => refuse (.wrongType (.object []) "a sequence") (skipBlanks s)

/-- The end of a list. -/
def endList : Decoder Unit := fun s =>
  match skipBlanks s with
  | [] => stopAt .endOfList []
  | ']' :: rest => .ok ((), rest)
  | ',' :: rest =>
      match skipBlanks rest with
      | ']' :: more => stopAt .trailingComma (']' :: more)
      | more => stopAt .trailingCharacters more
  | rest => stopAt .trailingCharacters rest

/-! ## Objects -/

/-- Takes the fields up to the end of an object, one after the other; `take` starts behind the
name. -/
def fieldsFrom (take : σ → String → Decoder σ) (first : Bool) : Nat → σ → Decoder σ
  | 0, _ => fun s => stopAfter .endOfObject s
  | fuel + 1, state => fun s => do
      match ← nextField first s with
      | .none rest => return (state, rest)
      | .field name rest =>
          let (state, rest) ← take state name rest
          fieldsFrom take false fuel state rest

/-- Takes the fields of an object whose bracket has been read. -/
def fields (take : σ → String → Decoder σ) (start : σ) : Decoder σ := fun s =>
  fieldsFrom take true (s.length + 1) start s

/-- The value of a field behind its name. -/
def value (d : Decoder α) : Decoder α := fun s => do d (← afterColon s)

/-- The value of a field that has no value yet. -/
def once (name : String) (known : Option α) (d : Decoder α) : Decoder (Option α) :=
  if known.isSome then refuseObject (.repeatedField name) else do return some (← d.value)

/-- An object, of which `inside` reads what follows its bracket. -/
def object (expected : String) (inside : Decoder α) : Decoder α := fun s => do
  match ← readHead s with
  | (.object, rest) => inside rest
  | (.scalar v, rest) => refuse (.wrongType v expected) rest
  | (.list, _) => refuse (.wrongType (.array []) expected) (skipBlanks s)

/-- The value of a field that must be there. -/
def required (name : String) : Option α → Decoder α
  | some a => pure a
  | none => refuse (.missingField name)

/-! ## Whole texts -/

/-- Reads a whole text, or tells what is wrong with it. -/
def parse (d : Decoder α) (text : String) : Except String α :=
  let read : Except Stop α := do
    let (a, rest) ← d text.toList
    atEnd rest
    return a
  read.mapError (·.message text)

end Decoder
end TokenBridge.Json
