import TokenBridge.Proofs.Contract.Bridge
import TokenBridge.Proofs.Instruction.RoundTrip
import TokenBridge.Proofs.Lcd.Asking
import TokenBridge.Proofs.Text.Hex

set_option autoImplicit false

/-! # What a Cosmos chain gets to read

A request is handed in as a message in a data text. The text is read back as the message that was
written, with the channel and the configured timeouts; its salt and its instruction are digits of
the bytes that were requested (`delivers_submit`). The digits are those of the instruction itself if
the request is that of a transfer, and so the instruction is read back from them, as deep as reading
goes.
-/

namespace TokenBridge

open Dialogue Json
open Contract (SendMessage)

/-! ## Digits behind a mark -/

theorem Hex.decodeText_stripMark_encodeMarked (bs : Bytes) :
    decodeText (stripMark (encodeMarked bs)) = .ok bs := by
  rw [stripMark_encodeMarked, decodeText_encode]

namespace Instruction

/-- What is read from digits is what is read from their bytes. -/
theorem decodeHex_encodeMarked (bs : Bytes) : decodeHex (Hex.encodeMarked bs) = decode bs := by
  rw [decodeHex, Hex.decodeText_stripMark_encodeMarked]
  rfl

theorem decodeHex_encodeHex {i : Instruction} (hdepth : i.depth ≤ maxDepth)
    (hlength : i.encode.length < 2 ^ 60) : decodeHex i.encodeHex = .ok i := by
  rw [encodeHex, decodeHex_encodeMarked]
  exact decode_encode_of_depth_le hdepth (Nat.lt_trans hlength (by decide))

end Instruction

namespace Lcd

/-! ## Transactions -/

namespace Signer

variable {s : Signer}

/-- Every transaction is one of the signer, and brings the contract that message and these funds. -/
def handsIn (s : Signer) (contract message : String) (funds : List Funds) : Law Request.Answer :=
  fun _ x => ∀ url t, x.1 = .broadcast url t →
    contractAddress contract = .ok t.contract ∧ t.sender = s.address ∧ t.message = message ∧
      t.funds = funds

theorem keeps_broadcast {t : Transaction} {law : Law Request.Answer}
    (hlaw : ∀ h url o, law h ⟨.broadcast url t, o⟩) : Keeps law (s.broadcast t).run := by
  rw [broadcast]
  exact ((keeps_put hlaw).adapt _).bind_run fun _ => keeps_ofExcept law _

theorem keeps_execute (contract message : String) (funds : List Funds) :
    Keeps (s.handsIn contract message funds) (s.execute contract message funds).run := by
  rw [execute]
  refine (keeps_accountInfo ?_).bind_run ?_
  · -- A question about the account hands nothing in.
    rintro _ _ _ _ _ ⟨⟩
  · intro account
    refine keeps_ofExcept_bind fun t ht => keeps_broadcast fun _ _ _ => ?_
    rintro _ _ ⟨⟩
    have hcarries := transaction_eq_ok_iff.1 ht
    exact ⟨hcarries.contract, congrArg Transaction.sender hcarries.fields,
      congrArg Transaction.message hcarries.fields, congrArg Transaction.funds hcarries.fields⟩

/-! ## Requests -/

/-- The request is handed in as a text that spells the message, from which all that was requested
can be read. -/
structure Delivers (s : Signer) (request : SendRequest) (text : String) (m : SendMessage) :
    Prop where
  submit : s.submit request = s.execute request.endpoint.contract text request.funds
  handedIn : (s.submit request).run.Keeps
    (s.handsIn request.endpoint.contract text request.funds)
  spelled : SendMessage.form.parse text = some m
  channel : m.channel = request.endpoint.channel
  timeoutHeight : m.timeoutHeight = s.timeoutHeight
  timeoutTimestamp : m.timeoutTimestamp = s.timeoutTimestamp
  salt : Hex.decodeText (Hex.stripMark m.salt) = .ok (wordBytes request.salt)
  instruction : Hex.decodeText (Hex.stripMark m.instruction) = .ok request.instruction

theorem delivers_message (s : Signer) (request : SendRequest) :
    Delivers s request (SendMessage.form.print (s.message request)) (s.message request) where
  submit := rfl
  handedIn := keeps_execute _ _ _
  spelled := SendMessage.faithful_form.lossless (by decide) (s.message request)
  channel := rfl
  timeoutHeight := rfl
  timeoutTimestamp := rfl
  salt := Hex.decodeText_stripMark_encodeMarked _
  instruction := Hex.decodeText_stripMark_encodeMarked _

/-- Every request is handed in so that it can be read. The digits of the instruction in the request
of a transfer are those that the instruction has by itself, and it is read back from them if at most
eight batches stand inside each other. -/
theorem delivers_submit (s : Signer) (request : SendRequest) :
    Delivers s request (SendMessage.form.print (s.message request)) (s.message request) ∧
      ∀ t salt, request = Transfer.request t salt →
        (s.message request).instruction = t.instruction.encodeHex ∧
          (t.instruction.depth ≤ Instruction.maxDepth → t.instruction.encode.length < 2 ^ 60 →
            Instruction.decodeHex (s.message request).instruction = .ok t.instruction) := by
  refine ⟨delivers_message s request, ?_⟩
  rintro t salt rfl
  exact ⟨rfl, Instruction.decodeHex_encodeHex⟩

/-! ## A sample

A tree of instructions, sent to a contract together with some funds.
-/

def sampleSigner : Signer where
  server := "http://localhost:1317"
  address := "union1qypqxpq9qcrsszg2pvxq6rs0zqg3yyc544dkgd"
  chainId := "union-1"
  feeDenom := "muno"
  gasPrice := .ofNat 1
  gasLimit := 500000
  timeoutHeight := 0
  timeoutTimestamp := 1700000000
  receiptTimeoutSeconds := 60

def sampleTransfer : Transfer where
  source := .cosmos
  instruction := Instruction.sampleTree
  endpoint := ⟨7, "union1gfpyysjzgfpyysjzgfpyysjzgfpyysjzgfpyysjzgfpyysjzgfpqef6vpf"⟩
  approvals := []
  funds := [⟨"muno", 5⟩]

theorem delivers_sampleTree :
    Delivers sampleSigner (sampleTransfer.request 9)
        (SendMessage.form.print (sampleSigner.message (sampleTransfer.request 9)))
        (sampleSigner.message (sampleTransfer.request 9)) ∧
      Instruction.decodeHex (sampleSigner.message (sampleTransfer.request 9)).instruction =
        .ok Instruction.sampleTree := by
  obtain ⟨hdelivers, hinstruction⟩ := delivers_submit sampleSigner (sampleTransfer.request 9)
  exact ⟨hdelivers, (hinstruction sampleTransfer 9 rfl).2 (by decide) Instruction.length_sampleTree⟩

end Signer

end Lcd
end TokenBridge
