import TokenBridge.Json.Parser
import TokenBridge.Json.Record

set_option autoImplicit false

/-! # Forms

How the values of a type stand in data texts: what is written for them, and what is read back.
-/

namespace TokenBridge.Json

structure Form (α : Type) where
  /-- The parts that are looked at. -/
  shape : Shape
  read : Json → Except Mismatch α
  write : α → Json

namespace Form

/-- The value that a text spells, if it spells one. -/
def parse {α : Type} (f : Form α) (s : String) : Option α := do
  let j ← parseShape f.shape s
  (f.read j).toOption

/-- The compact text of a value. -/
def print {α : Type} (f : Form α) (a : α) : String := (f.write a).print

/-! ## Single values -/

def string : Form String := ⟨.all, asString, .string⟩

/-- Whole numbers below `2 ^ width`. -/
def unsigned (width : Nat) : Form Nat := ⟨.all, asUnsigned width, ofNat⟩

def optional {α : Type} (f : Form α) : Form (Option α) :=
  ⟨f.shape, asOptional f.read, fun a => (a.map f.write).getD .null⟩

def list {α : Type} (f : Form α) : Form (List α) :=
  ⟨.items f.shape, asList f.read, fun as => .array (as.map f.write)⟩

/-- The form of `β` read and written through `α`. -/
def via {α β : Type} (f : Form α) (read : α → Option β) (write : β → α) : Form β where
  shape := f.shape
  read := fun j => do
    match read (← f.read j) with
    | some b => return b
    | none => throw (.unfit "the value stands for nothing")
  write := fun b => f.write (write b)

end Form
end TokenBridge.Json
