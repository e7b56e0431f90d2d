import TokenBridge.Text.Percent
import TokenBridge.Text.Pieces

set_option autoImplicit false

/-! # Paths

A path leads from segment to segment. A point stands for the place that has been reached, two points
for the one before it; the regular form of a path holds neither. The name of a drive cannot be left.
-/

namespace TokenBridge.Url

/-! ## Characters that are encoded -/

def fragmentSet : List Char := " \"<>`".toList

def pathSet : List Char := fragmentSet ++ "#?\x7b\x7d".toList

def encodeText (reserved cs : List Char) : String := String.ofList (Percent.encode reserved cs)

namespace Path

/-! ## Segments -/

/-- Ways to write a point. -/
def points : List String := [".", "%2e", "%2E"]

def isPoint (segment : String) : Bool := points.contains segment

def isTwoPoints (segment : String) : Bool :=
  points.any fun p => points.any fun q => p ++ q == segment

/-- The mark behind the letter of a drive. -/
def isDriveMark (c : Char) : Bool := c = ':' || c = '|'

/-- The name of a drive; something may follow it behind a backslash. -/
def isDrive (segment : String) : Bool :=
  match segment.toList with
  | [letter, mark] | letter :: mark :: '\\' :: _ => letter.isAlpha && isDriveMark mark
  | _ => false

/-- The regular form of the name of a drive. -/
def regularDrive (segment : String) : String := String.ofList (segment.toList.take 1 ++ [':'])

/-- Goes back by one segment. `done` holds the segments so far, the last one first. -/
def back (done : List String) : List String :=
  match done with
  | s :: rest => if isDrive s then done else rest
  | [] => []

/-- Adds a segment. In a file the first one may name a drive. -/
def enter (isFile : Bool) (done : List String) (segment : String) : List String :=
  if isFile && done.isEmpty && isDrive segment then [regularDrive segment] else segment :: done

/-- Takes out points; `done` holds the segments so far, the last one first. -/
def walk (isFile : Bool) (done : List String) : List String → List String
  | [] => done.reverse
  | [last] =>
      if isTwoPoints last then ("" :: back done).reverse
      else if isPoint last then ("" :: done).reverse
      else (enter isFile done last).reverse
  | s :: rest =>
      if isTwoPoints s then walk isFile (back done) rest
      else if isPoint s then walk isFile done rest
      else walk isFile (enter isFile done s) rest

/-! ## Paths -/

/-- The segments of the regular form; a slash at the start may be missing. -/
def segments (isFile : Bool) (isSlash : Char → Bool) (cs : List Char) : List String :=
  let cs := match cs with
    | c :: rest => if isSlash c then rest else cs
    | [] => []
  walk isFile [] ((Pieces.cut isSlash cs).map (encodeText pathSet))

/-- The path with these segments. -/
def ofSegments (segments : List String) : String := "/" ++ "/".intercalate segments

end Path
end TokenBridge.Url
