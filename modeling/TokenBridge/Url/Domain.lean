import TokenBridge.Text.Percent
import TokenBridge.Url.Domain.Composition
import TokenBridge.Url.Domain.Direction
import TokenBridge.Url.Domain.Joining
import TokenBridge.Url.Domain.Mapping
import TokenBridge.Url.Domain.Punycode

set_option autoImplicit false

/-! # Domains

A domain may be given in any characters. They are brought into their usual forms, each label is
checked, and what cannot be written in ASCII is written in letters, digits and hyphens behind a
mark. A label that is given in that form must spell what would be written so.
-/

namespace TokenBridge.Url.Domain

/-! ## Characters -/

/-- Characters that no domain may hold. -/
def isForbidden (c : Char) : Bool :=
  c.toNat ≤ 0x20 || c.toNat = 0x7F || "#%/:<>?@[\\]^|".toList.contains c

/-- The usual form of a text, if all of it can stand in a domain. -/
def usual? (cs : List Char) : Option (List Char) := do
  let cs := compose (← cs.mapM fate).flatten
  guard (!cs.any isForbidden)
  return cs

/-! ## Labels -/

def isPlain (label : List Char) : Bool := label.all (·.toNat < 128)

/-- What follows the mark of a label that is written in another form. -/
def marked? : List Char → Option (List Char)
  | 'x' :: 'n' :: '-' :: '-' :: rest => some rest
  | _ => none

/-- The label that a written form spells: one that is not plain, in its usual form. -/
def unmark? (cs : List Char) : Option (List Char) := do
  guard (cs ≠ [] ∧ cs.getLast? ≠ some '-')
  let label ← Punycode.decode cs
  guard (label.all fun c => fate c == some [c])
  guard (usual? label = some label)
  return label

/-- A character without a form of its own may stand behind a mark that binds letters; the one that
keeps letters apart may also stand between letters that would join. `before` is in reverse. -/
def allowsJoiners (before : List Char) : List Char → Bool
  | [] => true
  | c :: after =>
      let isBound := (before.head?.map markClass) == some 9
      let isBetween := (before.find? fun d => !isTransparent d).any joinsNext &&
        (after.find? fun d => !isTransparent d).any joinsPrevious
      let isAllowed :=
        if c.toNat = 0x200C then isBound || isBetween
        else if c.toNat = 0x200D then isBound
        else true
      isAllowed && allowsJoiners (c :: before) after

/-- A label must not start with a mark. -/
def isLabel (label : List Char) : Bool :=
  !label.head?.any isMark && allowsJoiners [] label

/-- A label, as it is read and as it is written. -/
structure Label where
  read : List Char
  written : List Char

/-- The label that characters in their usual form give. -/
def Label.of? (cs : List Char) : Option Label := do
  match marked? cs with
  | some rest =>
      let label ← unmark? rest
      guard (isLabel label)
      return ⟨label, cs⟩
  | none =>
      guard (isLabel cs)
      return ⟨cs, if isPlain cs then cs else "xn--".toList ++ Punycode.encode cs⟩

/-! ## Domains -/

/-- Whether the labels keep their looks beside each other. -/
def allowsDirections (labels : List (List Char)) : Bool :=
  let rows := labels.map fun label => label.map direction
  !(rows.any fun ds => ds.any Direction.isRightward) || rows.all Direction.allows

/-- The domain as it is written. -/
def write? (cs : List Char) : Option (List Char) := do
  let labels ← (Pieces.cut (· = '.') (← usual? cs)).mapM Label.of?
  guard (allowsDirections (labels.map Label.read))
  return ['.'].intercalate (labels.map Label.written)

end TokenBridge.Url.Domain
