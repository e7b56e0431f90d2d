import TokenBridge.Json.Decoder

set_option autoImplicit false

/-! # Replies of a node

A node replies to a call with the text of a result, or says why it refuses. The reply is an object
with the number of the call, and either of the two; what else it holds does not count.
-/

namespace TokenBridge.Rpc

open Json

/-! ## Refusals -/

/-- Why a node refuses. -/
structure Refusal where
  code : Int
  message : String
  /-- The text of what is added. -/
  data : Option String
  deriving DecidableEq, Repr

def Refusal.text (r : Refusal) : String :=
  s!"error code {r.code}: {r.message}" ++
    (match r.data with | some d => s!", data: {d}" | none => "")

/-- A whole number of 64 bits with a sign. -/
def asCode (j : Json) : Except Mismatch Int :=
  match j with
  | .number n =>
      match n.settle with
      | .integer false m =>
          if m < Nat.pow 2 63 then .ok (Int.ofNat m) else .error (.wrongValue j "i64")
      | .integer true m => .ok (-Int.ofNat m)
      | .double _ => .error (.wrongType j "i64")
  | other => .error (.wrongType other "i64")

namespace Refusal

/-- What is known of a refusal while its fields are read. -/
structure Draft where
  code : Option Int := none
  message : Option String := none
  data : Option String := none

def takeField (d : Draft) (name : String) : Decoder Draft := do
  match name with
  | "code" => return { d with code := ← Decoder.once name d.code (.single "i64" asCode) }
  | "message" =>
      return { d with message := ← Decoder.once name d.message (.single "a string" asString) }
  | "data" => return { d with data := ← Decoder.once name d.data .verbatim }
  | _ =>
      Decoder.pass.value
      return d

/-- A refusal. -/
def decoder : Decoder Refusal := do
  let expected := "a JSON-RPC 2.0 error object"
  match ← readHead with
  | .scalar v => Decoder.refuse (.wrongType v expected)
  | .list => Decoder.refuseList (.wrongType (.array []) expected)
  | .object =>
      let d ← Decoder.fields takeField {}
      return ⟨← Decoder.required "code" d.code, d.message.getD "", d.data⟩

end Refusal

/-! ## Replies -/

/-- The text of a result, or a refusal. -/
abbrev Reply := Except Refusal String

namespace Reply

/-- The number of a call may be a text. -/
def asCallId (j : Json) : Except Mismatch Unit :=
  let expected := "a string, a number, or null"
  match j with
  | .null | .string _ => .ok ()
  | .number n =>
      match n.settle with
      | .integer false _ => .ok ()
      | _ => .error (.wrongType j expected)
  | _ => .error (.wrongType j expected)

/-- What is known of a reply while its fields are read. -/
structure Draft where
  callId : Option Unit := none
  result : Option String := none
  refusal : Option Refusal := none

def takeField (d : Draft) (name : String) : Decoder Draft := do
  match name with
  | "id" =>
      let read := Decoder.anyOf "a string, a number, or null" asCallId
      return { d with callId := ← Decoder.once name d.callId read }
  | "result" => return { d with result := ← Decoder.once name d.result .verbatim }
  | "error" => return { d with refusal := ← Decoder.once name d.refusal Refusal.decoder }
  | _ =>
      Decoder.pass.value
      return d

/-- A reply whose bracket has been read. -/
def fields : Decoder Reply := do
  let d ← Decoder.fields takeField {}
  match d.result, d.refusal with
  | some result, none => return .ok result
  | none, some refusal => return .error refusal
  | none, none => Decoder.refuse (.missingField "result or error")
  | some _, some _ => Decoder.refuse (.unfit "result and error are mutually exclusive")

/-- One of several replies. -/
def decoder : Decoder Reply :=
  .object "a JSON-RPC response object, consisting of either a result or an error" fields

/-- The reply to a single call. Several replies, even well-formed ones, do not answer it. -/
def alone : Decoder Reply := do
  let expected := "a single response or a batch of responses"
  match ← readHead with
  | .scalar v => Decoder.refuse (.wrongType v expected)
  | .object => fields
  | .list =>
      let _ ← Decoder.items decoder
      Decoder.refuse (.wrongType (.array []) expected)

end Reply
end TokenBridge.Rpc
