import TokenBridge.Url.Host
import TokenBridge.Url.Path

set_option autoImplicit false

/-! # URLs

The parts of a URL, read and written back in their regular form: scheme and host in lower case, the
usual port left out, single and double points taken out of the path, and everything else
percent-encoded where it has to be. How a URL is read depends on its scheme: some schemes name a
host, files may have one, and in any other scheme there is one only behind two slashes.
-/

namespace TokenBridge

/-- A name and a password, as they are written. -/
structure Url.Credentials where
  name : String
  password : Option String
  deriving DecidableEq, Repr

structure Url where
  scheme : String
  credentials : Url.Credentials
  /-- What stands behind two slashes, if they are there. -/
  host : Option String
  port : Option Nat
  path : String
  query : Option String
  fragment : Option String
  deriving DecidableEq, Repr

namespace Url

/-! ## Schemes -/

/-- The schemes that name a host, with their usual ports. -/
def usualPorts : List (String × Nat) :=
  [("http", 80), ("https", 443), ("ws", 80), ("wss", 443), ("ftp", 21)]

def isSchemeChar (c : Char) : Bool := c.isAlphanum || c = '+' || c = '-' || c = '.'

/-- The scheme before the first colon, in lower case, and what follows it. -/
def splitScheme (cs : List Char) : Option (String × List Char) :=
  match cs.dropWhile isSchemeChar, cs.head?.map Char.isAlpha with
  | ':' :: rest, some true =>
      some (String.ofList ((cs.takeWhile isSchemeChar).map Char.toLower), rest)
  | _, _ => none

/-! ## Credentials -/

def credentialsSet : List Char := pathSet ++ "/:;=@[\\]^|".toList

namespace Credentials

def none : Credentials := ⟨"", Option.none⟩

/-- Reads a name, and a password behind a colon; an empty password leaves no trace. -/
def ofChars (cs : List Char) : Credentials :=
  let password := (cs.dropWhile (· ≠ ':')).drop 1
  ⟨encodeText credentialsSet (cs.takeWhile (· ≠ ':')),
    if password.isEmpty then Option.none else some (encodeText credentialsSet password)⟩

/-- The credentials, with the signs that end their parts. -/
def print (c : Credentials) : String :=
  if c = none then ""
  else c.name ++ (match c.password with | some p => ":" ++ p | Option.none => "") ++ "@"

/-- What an encoded text spells, if it is a text. -/
def spelled? (s : String) : Option String :=
  (Utf8.decode (Percent.decode (Utf8.encode s))).toOption

/-- Whether there is a name or a password that can be told to a server. -/
def canBeTold (c : Credentials) : Bool :=
  match spelled? c.name with
  | some name => name ≠ "" || (c.password.bind spelled?).isSome
  | Option.none => false

end Credentials

/-! ## Before the path -/

/-- The signs at which the host and all before it end; `special` is set for known schemes. -/
def endsAuthority (special : Bool) (c : Char) : Bool :=
  c = '/' || c = '?' || c = '#' || (special && c = '\\')

/-- The part before the last `@`, and the part after it. -/
def splitLastAt (cs : List Char) : Option (List Char × List Char) :=
  if cs.contains '@' then
    let after := (cs.reverse.takeWhile (· ≠ '@')).reverse
    some (cs.take (cs.length - after.length - 1), after)
  else none

/-- Takes characters up to a colon that does not stand in brackets. -/
def splitHost (inBrackets : Bool) : List Char → List Char × List Char
  | [] => ([], [])
  | c :: rest =>
      if c = ':' ∧ !inBrackets then ([], c :: rest)
      else
        let inBrackets := if c = '[' then true else if c = ']' then false else inBrackets
        let (host, after) := splitHost inBrackets rest
        (c :: host, after)

/-- Reads a port below `2 ^ 16`, which may be missing. -/
def readPort (cs : List Char) : Except Fault (Option Nat) :=
  if cs.isEmpty then .ok none
  else
    match Host.number? 10 cs with
    | some n => if n < Nat.pow 2 16 then .ok (some n) else .error .badPort
    | none => .error .badPort

/-! ## After the path -/

def querySet : List Char := " \"#<>".toList

/-- The set for the schemes that are known. -/
def specialQuerySet : List Char := '\'' :: querySet

/-- What stands before and after the first such sign. -/
def splitFirst (mark : Char) (cs : List Char) : List Char × Option (List Char) :=
  match cs.dropWhile (· ≠ mark) with
  | _ :: after => (cs.takeWhile (· ≠ mark), some after)
  | [] => (cs, none)

/-- The path, the query and the fragment. -/
def splitPath (special : Bool) (cs : List Char) : List Char × Option String × Option String :=
  let (front, fragment) := splitFirst '#' cs
  let (path, query) := splitFirst '?' front
  (path, query.map (encodeText (if special then specialQuerySet else querySet)),
    fragment.map (encodeText fragmentSet))

/-! ## Whole URLs -/

def isSlash (c : Char) : Bool := c = '/' || c = '\\'

/-- A URL of a scheme that names a host, after the scheme. Any number of slashes may stand before
the host. -/
def parseHosted (scheme : String) (usualPort : Nat) (cs : List Char) : Except Fault Url := do
  let cs := cs.dropWhile isSlash
  let authority := cs.takeWhile fun c => !endsAuthority true c
  let (before, authority) := (splitLastAt authority).getD ([], authority)
  let (host, after) := splitHost false authority
  let host ← if host.isEmpty then throw .emptyHost else Host.parse host
  let port ← readPort (after.drop 1)
  let (path, query, fragment) := splitPath true (cs.dropWhile fun c => !endsAuthority true c)
  return ⟨scheme, .ofChars before, some host, if port = some usualPort then none else port,
    Path.ofSegments (Path.segments false isSlash path), query, fragment⟩

/-- The host of a file, which may be missing, and what follows it. A drive is no host, and the own
computer needs no name. -/
def splitFileHost (cs : List Char) : Except Fault (String × List Char) :=
  match cs with
  | a :: b :: rest =>
      if isSlash a && isSlash b then
        let host := rest.takeWhile fun c => !endsAuthority true c
        if Path.isDrive (String.ofList host) then .ok ("", rest)
        else if host.isEmpty then .ok ("", rest)
        else do
          let name ← Host.parse host
          return (if name = "localhost" then "" else name, rest.drop host.length)
      else .ok ("", cs)
  | _ => .ok ("", cs)

/-- A URL of a file, after the scheme. On a drive there is no host. -/
def parseFile (cs : List Char) : Except Fault Url := do
  let (host, rest) ← splitFileHost cs
  let (path, query, fragment) := splitPath true rest
  let segments := Path.segments true isSlash path
  let host := if segments.head?.any Path.isDrive then "" else host
  return ⟨"file", .none, some host, none,
    Path.ofSegments (segments.dropWhile (· = "")), query, fragment⟩

/-- A path of a URL of another scheme; it may be empty behind a host. -/
def otherPath (cs : List Char) : String :=
  if cs.isEmpty then "" else Path.ofSegments (Path.segments false (· = '/') cs)

/-- A URL of another scheme with a host, after the two slashes. -/
def parseOtherHosted (scheme : String) (cs : List Char) : Except Fault Url := do
  let authority := cs.takeWhile fun c => !endsAuthority false c
  let rest := cs.dropWhile fun c => !endsAuthority false c
  let (before, authority) ← match splitLastAt authority with
    | some ([], []) => if rest.isEmpty then pure ([], []) else throw .emptyHost
    | some parts => pure parts
    | none => pure ([], authority)
  let credentials := Credentials.ofChars before
  let (host, after) := splitHost false authority
  let host ← Host.parseOpaque host
  if host = "" ∧ !after.isEmpty then throw .emptyHost
  let port ← readPort ((after.drop 1).takeWhile (· ≠ '\\'))
  if host = "" ∧ credentials ≠ .none then throw .emptyHost
  let (path, query, fragment) := splitPath false (after.dropWhile (· ≠ '\\') ++ rest)
  return ⟨scheme, credentials, some host, port, otherPath path, query, fragment⟩

/-- A URL of another scheme, after the scheme. Without a slash at its start, what follows the scheme
is no path but stands for itself. -/
def parseOther (scheme : String) (cs : List Char) : Except Fault Url :=
  match cs with
  | '/' :: '/' :: rest => parseOtherHosted scheme rest
  | _ =>
      let (path, query, fragment) := splitPath false cs
      let path := if cs.head? = some '/' then otherPath path else encodeText [] path
      .ok ⟨scheme, .none, none, none, path, query, fragment⟩

/-- Reads a URL. Control characters and spaces around it do not count, nor do tabs and line ends
within it. -/
def parse (s : String) : Except Fault Url :=
  let isEdge (c : Char) : Bool := c.toNat ≤ 0x20
  let cs := ((s.toList.dropWhile isEdge).reverse.dropWhile isEdge).reverse
  let cs := cs.filter fun c => !(c = '\t' || c = '\n' || c = '\r')
  match splitScheme cs with
  | none => .error .relative
  | some (scheme, rest) =>
      match usualPorts.lookup scheme with
      | some port => parseHosted scheme port rest
      | none => if scheme = "file" then parseFile rest else parseOther scheme rest

/-! ## Writing -/

/-- What is asked of the host. -/
def target (u : Url) : String :=
  u.path ++ (match u.query with | some q => "?" ++ q | none => "")

/-- What stands between the scheme and the path. A path that starts with two slashes is kept apart
from the scheme by a point, so that it is not taken for a host. -/
def authority (u : Url) : String :=
  match u.host with
  | some host =>
      "//" ++ u.credentials.print ++ host ++ (match u.port with | some p => s!":{p}" | none => "")
  | none => if "//".isPrefixOf u.path then "/." else ""

/-- The URL in its regular form. -/
def print (u : Url) : String :=
  u.scheme ++ ":" ++ u.authority ++ u.target ++
    (match u.fragment with | some f => "#" ++ f | none => "")

end Url
end TokenBridge
