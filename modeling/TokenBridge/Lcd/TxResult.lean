import TokenBridge.Json.Record
import TokenBridge.Lcd
import TokenBridge.Number.Numeral
import TokenBridge.Writer

set_option autoImplicit false

/-! # What became of a transaction

A server tells of a transaction when it has been handed in, and again when it is asked for later. A
code other than zero tells that it failed, with a log that tells why.
-/

namespace TokenBridge.Lcd

structure TxResult where
  hash : TxHash
  code : UInt32
  height : String
  log : String
  deriving DecidableEq, Repr

namespace TxResult

open Json

/-- Everything may be left out. -/
def read (j : Json) : Except Mismatch TxResult := do
  let fields ← asRecord "struct TxResponse" [
    field "txhash" asString .defaulted,
    field "code" (asUnsigned 32) .defaulted,
    field "height" asString .defaulted,
    field "raw_log" asString .defaulted] j
  return {
    hash := ← readFieldD fields "txhash" asString ""
    code := UInt32.ofNat (← readFieldD fields "code" (asUnsigned 32) 0)
    height := ← readFieldD fields "height" asString ""
    log := ← readFieldD fields "raw_log" asString "" }

/-- What an answer tells of a transaction, if it tells anything that can be read. -/
def ofAnswer? (answer : Json) : Option TxResult :=
  (answer.field? "tx_response").bind fun j => (read j).toOption

/-- The height at which the transaction was carried out, if it is a number. -/
def height? (t : TxResult) : Option UInt64 := (Numeral.readUInt64 t.height).toOption

/-- What an answer to the question for a transaction decides, if it decides anything. A transaction
that is not found may still come. -/
def decide (hash : TxHash) (url : Url) (o : Http.Outcome) : Option (Except Report Receipt) :=
  match o.response url with
  | .error f => some (.error (.under "Failed to query transaction status" f.report))
  | .ok r =>
      if r.isSuccess then
        match r.json with
        | .error unreadable => some (.error unreadable)
        | .ok answer => (ofAnswer? answer).map fun t =>
            if t.code ≠ 0 then
              .error (.of s!"Transaction {hash} failed (code {t.code.toNat}): {t.log}")
            else .ok ⟨hash, t.height?⟩
      else if r.status = 404 then none
      else some (.error (.of s!"Transaction query failed: {Http.showStatus r.status}"))

end TxResult
end TokenBridge.Lcd
