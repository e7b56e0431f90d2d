import TokenBridge.Proofs.Address.Evm
import TokenBridge.Proofs.Rpc.Asking
import TokenBridge.Proofs.Submission.Funding

set_option autoImplicit false

/-! # What an EVM chain gets to read

The request of a submission passes all that is checked before a transaction is filled: the contract
at the end of a channel is written so that it can be read, and so is the envelope of an instruction.
The envelope is then written once more, as the last argument of a contract call. Reading the
arguments gives it back, and with it the bytes of the instruction (`delivered_of_sent`).
-/

namespace TokenBridge

open Dialogue

/-! ## Contract calls -/

namespace Abi.Function

variable (f : Function) (args : f.inputs.Value)

theorem selector_length : f.selector.length = 4 := by
  rw [selector, List.length_take, Keccak.hash_length]
  rfl

theorem take_call : (f.call args).take 4 = f.selector := by
  rw [call, List.take_left' f.selector_length]

theorem drop_call : (f.call args).drop 4 = encode f.inputs args := by
  rw [call, List.drop_left' f.selector_length]

end Abi.Function

/-! ## Ports -/

/-- On an EVM chain a port spells an address, and names the contract by the text of it. -/
theorem Port.contract_evm_eq_ok {port text : String} :
    contract .evm port = .ok text ↔
      ∃ a : EvmAddress, Identifier.toBytes port = .ok a.toBytes ∧ a.checksum = text := by
  constructor
  · intro h
    obtain ⟨bytes, hbytes, h⟩ := Outcome.bind_eq_ok.1 h
    by_cases hlength : bytes.length = 20
    · rw [if_neg (not_not.2 hlength)] at h
      refine ⟨.ofBytes bytes, ?_, Except.ok.inj h⟩
      rw [EvmAddress.toBytes_ofBytes hlength]
      exact Outcome.mapError_eq_ok.1 hbytes
    · rw [if_pos hlength] at h
      cases h
  · rintro ⟨a, hbytes, htext⟩
    refine Outcome.bind_eq_ok.2 ⟨a.toBytes, Outcome.mapError_eq_ok.2 hbytes, ?_⟩
    rw [if_neg (not_not.2 a.toBytes_length), EvmAddress.ofBytes_toBytes, htext]
    rfl

namespace Rpc

/-! ## Transactions -/

/-- The transaction that a call is about. -/
def Call.transaction? : Call → Option Transaction
  | estimateGas t | sendTransaction t _ => some t
  | chainId | transactionCount _ | gasPrice | transactionReceipt _ | view .. => none

/-- Every transaction is one of the account, and brings the contract that input. -/
def handsIn (account target : EvmAddress) (input : Bytes) : Law Call.Answer :=
  fun _ x => ∀ t, x.1.transaction? = some t →
    t.sender = account ∧ t.target = target ∧ t.input = input

namespace Signer

variable {s : Signer}

theorem keeps_send (target : EvmAddress) (input : Bytes) :
    Keeps (handsIn s.account target input) (s.send target input).run := by
  rw [send]
  refine (keeps_ask ?_).bind_run fun nonce => ?_
  · rintro _ _ _ ⟨⟩
  refine (keeps_ask ?_).bind_run fun gasPrice => ?_
  · rintro _ _ _ ⟨⟩
  -- The same transaction is estimated and then sent.
  refine (keeps_ask ?_).bind_run fun gasLimit => ?_
  · rintro _ _ _ ⟨⟩
    exact ⟨rfl, rfl, rfl⟩
  refine (keeps_ask ?_).bind_run fun hash => ?_
  · rintro _ _ _ ⟨⟩
    exact ⟨rfl, rfl, rfl⟩
  · exact ⟨fun _ => trivial⟩

/-! ## Requests -/

/-- The arguments of the contract call for an envelope. -/
def arguments (s : Signer) (channel : UInt32) (salt : Salt) (e : Envelope) :
    Contract.Bridge.send.inputs.Value :=
  (channel.toBitVec, s.timeoutHeight.toBitVec, s.timeoutTimestamp.toBitVec, salt, e.toFields, ())

/-- The arguments take five words more than the envelope. -/
theorem encode_arguments_length (channel : UInt32) (salt : Salt) (e : Envelope) :
    (Abi.encode Contract.Bridge.send.inputs (s.arguments channel salt e)).length =
      160 + e.encode.length := by
  have hword : ∀ w : Word, (Abi.Part.inHead (wordBytes w)).size = 32 := by
    intro w
    rw [Abi.Part.size, Abi.Part.headLength, wordBytes_length]
    rfl
  have hparts : Abi.encode Contract.Bridge.send.inputs (s.arguments channel salt e) =
      Abi.Part.assemble [
        .inHead (wordBytes (BitVec.ofNat 256 channel.toBitVec.toNat)),
        .inHead (wordBytes (BitVec.ofNat 256 s.timeoutHeight.toBitVec.toNat)),
        .inHead (wordBytes (BitVec.ofNat 256 s.timeoutTimestamp.toBitVec.toNat)),
        .inHead (wordBytes salt), .inTail e.encode] := rfl
  rw [hparts, Abi.Part.assemble_length]
  simp only [List.map_cons, List.map_nil, hword, List.sum_cons, List.sum_nil]
  simp [Abi.Part.size, Abi.Part.tails, Abi.Part.headLength]
  omega

/-- The arguments are read back from the bytes of the call, behind its selector. -/
theorem decode_arguments {channel : UInt32} {salt : Salt} {e : Envelope}
    (hlength : e.encode.length < 2 ^ 60) (name : String) :
    Abi.decode name Contract.Bridge.send.inputs
        ((Contract.Bridge.send.call (s.arguments channel salt e)).drop 4) =
      .ok (s.arguments channel salt e) := by
  rw [Abi.Function.drop_call]
  refine Abi.decode_encode rfl name _ ?_
  rw [encode_arguments_length]
  omega

/-- What is checked of a request is in order if its funds are none, its contract is written as an
address is shown, and its instruction as an envelope is. -/
theorem checkRequest_eq_ok {request : SendRequest} {bridge : EvmAddress} {e : Envelope}
    (hfunds : request.funds = []) (hcontract : request.endpoint.contract = bridge.checksum)
    (hinstruction : request.instruction = e.encode) (hlength : e.encode.length < 2 ^ 60) :
    checkRequest request = .ok (bridge, e) := by
  refine checkRequest_eq_ok_iff.2 ⟨hfunds, ?_, ?_⟩
  · rw [hcontract]
    exact EvmAddress.parse_checksum bridge
  · rw [hinstruction]
    exact Instruction.decodeEnvelope_encode (Nat.lt_trans hlength (by decide))

theorem submit_eq_send {request : SendRequest} {bridge : EvmAddress} {e : Envelope}
    (h : checkRequest request = .ok (bridge, e)) :
    s.submit request = s.send bridge (s.sendInput request e) := by
  rw [submit, h]
  rfl

/-- The request for an instruction is handed in as a call of the contract of the channel, from which
all that was meant can be read. -/
structure Delivers (s : Signer) (channel : Channel) (i : Instruction) (request : SendRequest)
    (bridge : EvmAddress) (calldata : Bytes) : Prop where
  port : Identifier.toBytes channel.sourcePort = .ok bridge.toBytes
  checked : checkRequest request = .ok (bridge, i.toEnvelope)
  submit : s.submit request = s.send bridge calldata
  handedIn : (s.submit request).run.Obeys (handsIn s.account bridge calldata) (fun _ _ => True) []
  selector : calldata.take 4 = Contract.Bridge.send.selector
  arguments : calldata.drop 4 = Abi.encode Contract.Bridge.send.inputs
    (s.arguments channel.sourceId request.salt i.toEnvelope)
  readable : ∀ name, Abi.decode name Contract.Bridge.send.inputs (calldata.drop 4) =
    .ok (s.arguments channel.sourceId request.salt i.toEnvelope)
  instruction : i.toEnvelope.encode = request.instruction

variable {channel : Channel} {endpoint : Endpoint} {i : Instruction} {native : List String}
  {t : Transfer}

theorem delivers_request (hend : channel.source .evm = .ok endpoint)
    (ht : Transfer.ofInstruction .evm i endpoint native = .ok t)
    (hlength : i.encode.length < 2 ^ 60) (s : Signer) (salt : Salt) :
    ∃ bridge calldata, Delivers s channel i (t.request salt) bridge calldata := by
  obtain ⟨text, htext, rfl⟩ := Outcome.map_eq_ok.1 hend
  obtain ⟨bridge, hport, hcontract⟩ := Port.contract_evm_eq_ok.1 htext
  obtain ⟨requirements, rfl, -⟩ := Transfer.ofInstruction_evm_eq_ok ht
  let transfer : Transfer := ⟨.evm, i, ⟨channel.sourceId, text⟩, requirements, []⟩
  have hchecked : checkRequest (transfer.request salt) = .ok (bridge, i.toEnvelope) :=
    checkRequest_eq_ok rfl hcontract.symm rfl hlength
  have hsubmit := s.submit_eq_send hchecked
  refine ⟨bridge, _, {
    port := hport
    checked := hchecked
    submit := hsubmit
    handedIn := ?_
    selector := Abi.Function.take_call _ _
    arguments := Abi.Function.drop_call _ _
    readable := decode_arguments hlength
    instruction := rfl }⟩
  rw [hsubmit]
  exact (keeps_send bridge _).obeys []

/-- Whatever is sent in the course of a submission, wherever it was taken up, is delivered: the
request passes every check, and its call carries the channel, the configured timeouts, the salt and
the envelope of the instruction, however deep that is nested. -/
theorem delivered_of_sent (hend : channel.source .evm = .ok endpoint)
    (ht : Transfer.ofInstruction .evm i endpoint native = .ok t)
    (hlength : i.encode.length < 2 ^ 60) {state : Submission.State} {new : Submission.Log}
    {rest : Submission.Talk (Option Submission.State)}
    (hl : (Submission.advance .evm t state).Leads new rest) {request : SendRequest}
    {answer : Except Report TxHash}
    (hsent : Submission.answered (.submit request) answer ∈ new) (s : Signer) :
    ∃ bridge calldata, Delivers s channel i request bridge calldata := by
  obtain ⟨pre, post, rfl⟩ := List.append_of_mem hsent
  have hlaw := ((Submission.obeys_advance_asks .evm t state []).leads hl (lawful_nil _)).1
  cases hlaw pre _ post rfl (.submit request) answer rfl with
  | submit hrequest =>
      obtain ⟨salt, rfl⟩ := hrequest
      exact delivers_request hend ht hlength s salt

/-! ## A sample

The batch of the sample request, sent by a submission that is taken up when all is approved.
-/

def sampleSigner : Signer where
  node := ⟨.ok ⟨"http", ⟨"", none⟩, some "localhost", some 8545, "/", none, none⟩⟩
  account := 0xf39fd6e51aad88f6f4ce6ab8827279cfffb92266
  chainId := 1
  timeoutHeight := 0
  timeoutTimestamp := 1700000000
  receiptTimeoutSeconds := 60

def sampleBridge : EvmAddress := 0xf39fd6e51aad88f6f4ce6ab8827279cfffb92266

def sampleEndpoint : Endpoint := ⟨1, sampleBridge.checksum⟩

theorem source_sampleChannel : BatchRequest.sampleChannel.source .evm = .ok sampleEndpoint := by
  have hport : Identifier.toBytes BatchRequest.sampleChannel.sourcePort =
      .ok sampleBridge.toBytes := by
    decide +kernel
  exact Outcome.map_eq_ok.2 ⟨_, Port.contract_evm_eq_ok.2 ⟨sampleBridge, hport, rfl⟩, rfl⟩

def sampleTransfer : Transfer := { Submission.batchTransfer with endpoint := sampleEndpoint }

theorem ofInstruction_sampleTransfer :
    Transfer.ofInstruction .evm Submission.sampleBatch sampleEndpoint [] = .ok sampleTransfer :=
  Outcome.bind_eq_ok.2 ⟨_, Submission.approvalsOf_sampleBatch, rfl⟩

theorem delivers_sampleTransfer :
    ∃ bridge calldata, Delivers sampleSigner BatchRequest.sampleChannel Submission.sampleBatch
      (sampleTransfer.request 9) bridge calldata :=
  delivered_of_sent source_sampleChannel ofInstruction_sampleTransfer
    Submission.length_sampleBatch
    (leads_transcript Submission.samplePartner Submission.batchWorld
      (Submission.advance .evm sampleTransfer (.evm (.transferSubmit (.inProgress 9)))))
    (.head _) sampleSigner

end Signer
end Rpc
end TokenBridge
