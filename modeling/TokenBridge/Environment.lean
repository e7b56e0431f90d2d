import TokenBridge.Text.Alphanumeric
import TokenBridge.Text.Blank

set_option autoImplicit false

/-! # Settings from files

Settings are names with values. A file gives them in lines of the form `NAME=value`. A value goes up
to the next blank; in quotes it may hold blanks and line ends. Outside single quotes a backslash
takes the meaning off the next character, and a dollar sign puts in the value of another name. What
follows a blank and a hash sign is a comment.
-/

namespace TokenBridge

abbrev Environment := List (String × String)

namespace Environment

def get? (e : Environment) (name : String) : Option String := e.lookup name

/-- Gives a name a value, unless it has one. -/
def setNew (e : Environment) (name value : String) : Environment :=
  match e.get? name with
  | some _ => e
  | none => e ++ [(name, value)]

/-- A line that cannot be read, and the place in it. -/
structure BadLine where
  line : String
  index : Nat
  deriving DecidableEq, Repr

def BadLine.message (b : BadLine) : String :=
  s!"Error parsing line: '{b.line}', error at line index: {b.index}"

/-! ## Lines -/

/-- What the characters read so far mean for the next one. -/
inductive Mode
  | plain
  /-- After a blank, where a comment may start. -/
  | blank
  | escape
  | double
  | doubleEscape
  | single
  | singleEscape
  deriving DecidableEq, Repr

/-- The mode after a character outside quotes. -/
def Mode.ofPlain (c : Char) : Mode :=
  if c = '\\' then escape else if c = '"' then double else if c = '\'' then single else plain

/-- The mode after a character, or none where a comment starts. -/
def Mode.next (m : Mode) (c : Char) : Option Mode :=
  match m with
  | blank => if c = '#' then none else some (ofPlain c)
  | escape => some plain
  | plain =>
      if Blank.isBlank c && c ≠ '\n' && c ≠ '\r' then some blank else some (ofPlain c)
  | double => some (if c = '\\' then doubleEscape else if c = '"' then plain else double)
  | doubleEscape => some double
  | single => some (if c = '\\' then singleEscape else if c = '\'' then plain else single)
  | singleEscape => some single

/-- The characters before a comment, and the mode at their end, which is none after a comment. -/
def scan (m : Mode) : List Char → List Char × Option Mode
  | [] => ([], some m)
  | c :: rest =>
      match m.next c with
      | none => ([], none)
      | some m =>
          let (taken, last) := scan m rest
          (c :: taken, last)

/-- The lines of a text, each with the line end after it. -/
def rawLines (line : List Char) : List Char → List (List Char)
  | [] => if line.isEmpty then [] else [line]
  | c :: rest => if c = '\n' then (line ++ [c]) :: rawLines [] rest else rawLines (line ++ [c]) rest

/-- A line without the line end after it. -/
def dropEnd (line : List Char) : List Char :=
  match line.reverse with
  | '\n' :: '\r' :: rest | '\n' :: rest => rest.reverse
  | _ => line

def isComment (line : List Char) : Bool := (line.dropWhile Blank.isBlank).head? = some '#'

/-- Puts the lines together that a quotation joins; `line` is what has been read of one. -/
def joinLines (line : List Char) (m : Mode) : List (List Char) → List (Except BadLine (List Char))
  | [] =>
      if m = .plain then []
      else [.error ⟨String.ofList line, (String.ofList line).utf8ByteSize⟩]
  | raw :: rest =>
      if isComment (line ++ raw) then .ok [] :: joinLines [] .plain rest
      else
        match scan m raw with
        | (taken, none) => .ok (line ++ taken) :: joinLines [] .plain rest
        | (_, some .plain) => .ok (dropEnd (line ++ raw)) :: joinLines [] .plain rest
        | (_, some m) => joinLines (line ++ raw) m rest

/-! ## Values -/

/-- What the characters of a value read so far mean for the next one. -/
inductive ValueMode
  | plain
  | double
  | single
  /-- After a backslash, in double quotes or not. -/
  | escape (quoted : Bool)
  /-- After a dollar sign. -/
  | name (quoted : Bool) (read : List Char)
  /-- Between a dollar sign with a brace and the brace that closes it. -/
  | braced (quoted : Bool) (read : List Char)
  /-- After the value, where only a comment may follow. -/
  | ended
  deriving DecidableEq, Repr

def ValueMode.outside (quoted : Bool) : ValueMode := if quoted then double else plain

/-- Reads a value from its character at `index` on. The failure is the place of a character that may
not stand where it does, or nothing if the value has no end. -/
def readValue (value : String → String) :
    ValueMode → Nat → List Char → Except (Option Nat) (List Char)
  | .plain, _, [] | .ended, _, [] | .escape false, _, [] => .ok []
  | .name false n, _, [] => .ok (value (String.ofList n)).toList
  | _, _, [] => .error none
  | m, index, c :: rest =>
      let go (m : ValueMode) (put : List Char) : Except (Option Nat) (List Char) :=
        (readValue value m (index + 1) rest).map (put ++ ·)
      match m with
      | .ended =>
          if c = ' ' || c = '\t' then go .ended []
          else if c = '#' then .ok []
          else .error (some index)
      | .escape quoted =>
          if "\\'\"$ ".toList.contains c then go (.outside quoted) [c]
          else if c = 'n' then go (.outside quoted) ['\n']
          else .error (some index)
      | .single => if c = '\'' then go .plain [] else go .single [c]
      | .name quoted n =>
          if Alphanumeric.isAlphanumeric c then go (.name quoted (n ++ [c])) []
          else if c = '\x7b' && n.isEmpty then go (.braced quoted []) []
          else
            let put := (value (String.ofList n)).toList
            if c = '$' then go (.name quoted []) put else go (.outside quoted) (put ++ [c])
      | .braced quoted n =>
          if c = '\x7d' then go (.outside quoted) (value (String.ofList n)).toList
          else go (.braced quoted (n ++ [c])) []
      | .double =>
          if c = '$' then go (.name true []) []
          else if c = '"' then go .plain []
          else if c = '\\' then go (.escape true) []
          else go .double [c]
      | .plain =>
          if c = '$' then go (.name false []) []
          else if c = '\'' then go .single []
          else if c = '"' then go .double []
          else if c = '\\' then go (.escape false) []
          else if c = ' ' || c = '\t' then go .ended []
          else go .plain [c]

/-! ## Assignments -/

/-- The rest of a line, and how many bytes of the line stand before it. -/
structure Rest where
  chars : List Char
  position : Nat

namespace Rest

def bytes (cs : List Char) : Nat := (String.ofList cs).utf8ByteSize

def skipBlanks (r : Rest) : Rest :=
  ⟨r.chars.dropWhile Blank.isBlank, r.position + bytes (r.chars.takeWhile Blank.isBlank)⟩

/-- A name starts with a letter or an underscore. The failure is the place. -/
def name (r : Rest) : Except Nat (String × Rest) :=
  let isNameChar (c : Char) : Bool := c.isAlphanum || c = '_' || c = '.'
  match r.chars with
  | c :: _ =>
      if c.isAlpha || c = '_' then
        let n := r.chars.takeWhile isNameChar
        .ok (String.ofList n, ⟨r.chars.dropWhile isNameChar, r.position + bytes n⟩)
      else .error r.position
  | [] => .error r.position

def equals (r : Rest) : Except Nat Rest :=
  match r.chars with
  | '=' :: rest => .ok ⟨rest, r.position + 1⟩
  | _ => .error r.position

/-- The name that is assigned to, and what follows the equals sign. The word `export` may stand
before the name, unless it is the name itself. -/
def assigned (r : Rest) : Except Nat (String × Rest) := do
  let (n, r) ← r.name
  let r := r.skipBlanks
  match r.equals with
  | .ok r => return (n, r)
  | .error place =>
      if n = "export" then
        let (n, r) ← r.name
        return (n, ← r.skipBlanks.equals)
      else throw place

end Rest

/-- The name and the value that a line assigns, if it is not empty. -/
def readLine (value : String → String) (line : List Char) :
    Except BadLine (Option (String × String)) :=
  let start : Rest := ⟨(line.reverse.dropWhile Blank.isBlank).reverse, 0⟩
  let start := start.skipBlanks
  if start.chars.isEmpty || start.chars.head? = some '#' then .ok none
  else
    match start.assigned with
    | .error place => .error ⟨String.ofList line, place⟩
    | .ok (name, rest) =>
        let text := rest.skipBlanks.chars
        if text.head? = some '#' then .ok (some (name, ""))
        else
          match readValue value .plain 0 text with
          | .ok v => .ok (some (name, String.ofList v))
          | .error place => .error ⟨String.ofList text, place.getD (Rest.bytes text - 1)⟩

/-! ## Files -/

/-- Takes over the assignments of the lines. Names that have a value keep it; in values a name
stands for the value it has, or else for the last one that was assigned to it. -/
def loadLines (e : Environment) (assigned : List (String × String)) :
    List (Except BadLine (List Char)) → Except BadLine Environment
  | [] => .ok e
  | .error b :: _ => .error b
  | .ok line :: rest =>
      let value (name : String) : String := ((e.get? name).or (assigned.lookup name)).getD ""
      match readLine value line with
      | .error b => .error b
      | .ok none => loadLines e assigned rest
      | .ok (some (name, v)) => loadLines (e.setNew name v) ((name, v) :: assigned) rest

/-- The environment with the settings of a file that it does not have. -/
def load (e : Environment) (file : String) : Except BadLine Environment :=
  let cs := match file.toList with
    | '\uFEFF' :: rest => rest
    | cs => cs
  loadLines e [] (joinLines [] .plain (rawLines [] cs))

end Environment
end TokenBridge
