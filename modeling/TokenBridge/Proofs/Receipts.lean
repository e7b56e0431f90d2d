import TokenBridge.Proofs.Json.Decoder
import TokenBridge.Proofs.Lcd.Message
import TokenBridge.Proofs.Lcd.TxResult
import TokenBridge.Proofs.Polling
import TokenBridge.Proofs.Rpc.Calldata

set_option autoImplicit false

/-! # Receipts

A signer that waits for a receipt asks for the transaction until an answer decides what became of
it. The first such answer alone decides, however many others came before it, and a transaction is
confirmed only by an answer that says so (`receipt_decidedByFirst`).
-/

namespace TokenBridge

open Dialogue

/-! ## EVM chains -/

namespace Rpc

namespace Inclusion

/-- There is no receipt yet: the result that the answer holds is `null`. -/
def Undecided (o : Http.Outcome) : Prop :=
  ∃ r text, o = .answered r ∧ r.complete = true ∧ r.status = 200 ∧
    Reply.alone.parse r.body = .ok (.ok text) ∧ Json.IsNull text

/-- What an answer to the question for a receipt decides. -/
inductive Decides (hash : TxHash) (url : Url) (o : Http.Outcome) : Except Report Receipt → Prop
  /-- Only a receipt that tells of success confirms the transaction. -/
  | confirmed (i : Inclusion) (hi : Brings decoder o (some i)) (hsuccess : i.succeeded = true) :
      Decides hash url o (.ok ⟨hash, i.block⟩)
  | reverted (i : Inclusion) (hi : Brings decoder o (some i)) (hsuccess : i.succeeded = false) :
      Decides hash url o (.error (.of s!"Transaction {hash} reverted"))
  | failed (f : Fault) (hf : Node.result url decoder o = .error f) :
      Decides hash url o (.error (.under "Failed to get transaction receipt" f.report))

theorem undecided_iff_brings {o : Http.Outcome} : Undecided o ↔ Brings decoder o none := by
  simp only [Undecided, Brings, decoder, Json.Decoder.parse_optional_eq_none]

end Inclusion

namespace Signer

open Inclusion

variable {hash : TxHash} {url : Url} {o : Http.Outcome}

theorem decideReceipt_eq_none_iff : decideReceipt url hash o = none ↔ Undecided o := by
  rw [undecided_iff_brings, ← Node.result_eq_ok, decideReceipt]
  rcases Node.result url decoder o with f | _ | i
  · simp
  · simp
  · by_cases hsuccess : i.succeeded = true <;> simp [hsuccess]

theorem decideReceipt_eq_some_iff {a : Except Report Receipt} :
    decideReceipt url hash o = some a ↔ Decides hash url o a := by
  constructor
  · intro h
    rw [decideReceipt] at h
    cases hresult : Node.result url decoder o with
    | error f =>
        rw [hresult] at h
        cases h
        exact .failed f hresult
    | ok found =>
        rw [hresult] at h
        cases found with
        | none => cases h
        | some i =>
            have hi := Node.result_eq_ok.1 hresult
            cases hsuccess : i.succeeded with
            | true =>
                simp only [hsuccess, if_true] at h
                cases h
                exact .confirmed i hi hsuccess
            | false =>
                simp only [hsuccess, Bool.false_eq_true, if_false] at h
                cases h
                exact .reverted i hi hsuccess
  · intro h
    rw [decideReceipt]
    cases h with
    | confirmed i hi hsuccess => simp [Node.result_eq_ok.2 hi, hsuccess]
    | reverted i hi hsuccess => simp [Node.result_eq_ok.2 hi, hsuccess]
    | failed f hf => simp [hf]

/-- What waiting comes to when the time is used up. -/
def late (s : Signer) (hash : TxHash) : Except Report Receipt :=
  .error (.of s!"Transaction {hash} not confirmed after {showSeconds s.receiptTimeoutSeconds}")

/-- Waiting is polling, for a hash that can be read and a node that can be reached. -/
theorem awaitReceipt_eq_poll {s : Signer} {bs : Bytes} (hhash : ExactHex.decode 32 hash = .ok bs)
    (hurl : s.node.url = .ok url) :
    (s.awaitReceipt hash).run =
      poll s.patience (.transactionReceipt (wordOfBytes bs)) (decideReceipt url hash)
        (s.late hash) := by
  rw [awaitReceipt, hhash, hurl]
  refine Eq.trans ?_ (ite_done_poll s.receiptTimeoutSeconds rfl)
  show ExceptT.run (if s.receiptTimeoutSeconds = 0 then _ else _) = _
  split <;> rfl

/-- Nothing is asked for a hash that cannot be read. -/
theorem exists_awaitReceipt_eq_error_of_hash {s : Signer} {f : ExactHex.Fault}
    (hf : ExactHex.decode 32 hash = .error f) :
    ∃ e, (s.awaitReceipt hash).run = done (.error e) := by
  rw [awaitReceipt, hf]
  exact ⟨_, rfl⟩

theorem exists_awaitReceipt_eq_error_of_url {s : Signer} {f : Http.Fault}
    (hf : s.node.url = .error f) : ∃ e, (s.awaitReceipt hash).run = done (.error e) := by
  rw [awaitReceipt, hf]
  cases ExactHex.decode 32 hash with
  | error f' => exact ⟨_, rfl⟩
  | ok bs =>
      show ∃ e, ExceptT.run (if s.receiptTimeoutSeconds = 0 then _ else _) = _
      split <;> exact ⟨_, rfl⟩

end Signer

end Rpc

/-! ## Cosmos chains -/

namespace Lcd.Signer

open TxResult

/-- What waiting comes to when the time is used up. -/
def late (hash : TxHash) : Except Report Receipt :=
  .error (.of s!"Timeout waiting for transaction {hash} to be confirmed")

/-- Waiting is polling, if the path resolves. -/
theorem awaitReceipt_eq_poll {s : Signer} {hash : TxHash} {url : Url}
    (hurl : Http.resolve s.server s!"/cosmos/tx/v1beta1/txs/{hash}" = .ok url) :
    (s.awaitReceipt hash).run =
      poll s.patience (.get url) (TxResult.decide hash url) (late hash) := by
  rw [awaitReceipt, hurl]
  refine Eq.trans ?_ (ite_done_poll s.receiptTimeoutSeconds rfl)
  show ExceptT.run (if s.receiptTimeoutSeconds = 0 then _ else _) = _
  split <;> rfl

/-- Nothing is asked where the path does not resolve. -/
theorem exists_awaitReceipt_eq_error {s : Signer} {hash : TxHash} {f : Http.Fault}
    (hf : Http.resolve s.server s!"/cosmos/tx/v1beta1/txs/{hash}" = .error f) :
    ∃ e, (s.awaitReceipt hash).run = done (.error e) := by
  rw [awaitReceipt, hf]
  show ∃ e, ExceptT.run (if s.receiptTimeoutSeconds = 0 then _ else _) = _
  split <;> exact ⟨_, rfl⟩

end Lcd.Signer

/-! ## Both families -/

/-- The first decisive answer within the time for the receipt decides. Where no question can be put,
since the server has no good URL or the hash cannot be read, none is put, and there is an error. -/
theorem receipt_decidedByFirst (hash : TxHash) :
    (∀ (s : Lcd.Signer) (url : Url),
      Http.resolve s.server s!"/cosmos/tx/v1beta1/txs/{hash}" = .ok url →
      (s.awaitReceipt hash).run.FirstDecides (.get url)
        Lcd.TxResult.Undecided (Lcd.TxResult.Decides hash url)
        (fun n => s.patience.waited n < 1000 * s.receiptTimeoutSeconds.toNat)
        (Lcd.Signer.late hash)) ∧
    (∀ (s : Lcd.Signer) (f : Http.Fault),
      Http.resolve s.server s!"/cosmos/tx/v1beta1/txs/{hash}" = .error f →
      ∃ e, (s.awaitReceipt hash).run = done (.error e)) ∧
    (∀ (s : Rpc.Signer) (bs : Bytes) (url : Url),
      ExactHex.decode 32 hash = .ok bs → s.node.url = .ok url →
      (s.awaitReceipt hash).run.FirstDecides (.transactionReceipt (wordOfBytes bs))
        Rpc.Inclusion.Undecided (Rpc.Inclusion.Decides hash url)
        (fun n => s.patience.waited n < 1000 * s.receiptTimeoutSeconds.toNat) (s.late hash)) ∧
    (∀ s : Rpc.Signer,
      ((∃ f, ExactHex.decode 32 hash = .error f) ∨ ∃ f, s.node.url = .error f) →
      ∃ e, (s.awaitReceipt hash).run = done (.error e)) := by
  refine ⟨?_, ?_, ?_, ?_⟩
  · intro s url hurl
    rw [Lcd.Signer.awaitReceipt_eq_poll hurl]
    exact firstDecides_poll (fun _ => Lcd.TxResult.decide_eq_none_iff.symm)
      fun _ _ => Lcd.TxResult.decide_eq_some_iff.symm
  · exact fun s f hf => Lcd.Signer.exists_awaitReceipt_eq_error hf
  · intro s bs url hhash hurl
    rw [Rpc.Signer.awaitReceipt_eq_poll hhash hurl]
    exact firstDecides_poll (fun _ => Rpc.Signer.decideReceipt_eq_none_iff.symm)
      fun _ _ => Rpc.Signer.decideReceipt_eq_some_iff.symm
  · rintro s (⟨f, hf⟩ | ⟨f, hf⟩)
    · exact Rpc.Signer.exists_awaitReceipt_eq_error_of_hash hf
    · exact Rpc.Signer.exists_awaitReceipt_eq_error_of_url hf

/-! ### Samples

A transaction that is not found at first and then confirmed, and a receipt that is not there at
first and then lost.
-/

namespace Receipt

def sampleHash : TxHash := "0x0000000000000000000000000000000000000000000000000000000000000000"

def sampleSigner : Lcd.Signer := { Lcd.Signer.sampleSigner with server := "http://[::1]:1317" }

def sampleUrl : Url :=
  ⟨"http", ⟨"", none⟩, some "[::1]", some 1317, "/cosmos/tx/v1beta1/txs/" ++ sampleHash, none, none⟩

def sampleAnswer : Json := .object [("tx_response", .object [("height", .string "5")])]

def sampleMissing : Http.Outcome := .answered ⟨404, "", true⟩

def sampleFound : Http.Outcome := .answered ⟨200, sampleAnswer.print, true⟩

def samplePending : Http.Outcome := .answered ⟨200, "\x7b\"id\":1,\"result\":null\x7d", true⟩

theorem resolve_sampleSigner :
    Http.resolve sampleSigner.server s!"/cosmos/tx/v1beta1/txs/{sampleHash}" = .ok sampleUrl := by
  decide +kernel

theorem brings_sampleFound : Lcd.Brings sampleFound sampleAnswer.settle := by
  refine ⟨_, rfl, rfl, ?_⟩
  show (Json.parse sampleAnswer.print).mapError _ = _
  rw [Json.parse_print (by decide +kernel)]
  rfl

theorem decides_sampleFound (url : Url) :
    Lcd.TxResult.Decides sampleHash url sampleFound (.ok ⟨sampleHash, some 5⟩) := by
  have hread : Lcd.TxResult.ofAnswer? sampleAnswer.settle = some ⟨"", 0, "5", ""⟩ := by
    decide +kernel
  have htold := (Lcd.TxResult.ofAnswer?_eq_some_iff brings_sampleFound).1 hread
  have hheight : (⟨"", 0, "5", ""⟩ : Lcd.TxResult).height? = some 5 := rfl
  refine .confirmed _ _ _ brings_sampleFound htold rfl fun n => ?_
  rw [← hheight]
  exact Lcd.TxResult.height?_eq_some_iff

theorem undecided_samplePending : Rpc.Inclusion.Undecided samplePending := by
  have hreply : Rpc.Reply.alone.parse "\x7b\"id\":1,\"result\":null\x7d" = .ok (.ok "null") := by
    decide +kernel
  exact ⟨_, "null", rfl, rfl, rfl, hreply, [], [], rfl, by simp, by simp⟩

theorem decidedByFirst_samples :
    (sampleSigner.awaitReceipt sampleHash).run.Leads
        (repeated (.get sampleUrl) [sampleMissing, sampleFound])
        (done (.ok ⟨sampleHash, some 5⟩)) ∧
      (Rpc.Signer.sampleSigner.awaitReceipt sampleHash).run.Leads
        (repeated (.transactionReceipt 0) [samplePending, Http.Outcome.refused])
        (done (.error (.under "Failed to get transaction receipt"
          (Rpc.Fault.transport (.refused "http://localhost:8545/")).report))) := by
  obtain ⟨hcosmos, -, hevm, -⟩ := receipt_decidedByFirst sampleHash
  have hhash : ExactHex.decode 32 sampleHash = .ok (List.replicate 32 0) := by decide +kernel
  constructor
  · refine ((hcosmos sampleSigner sampleUrl resolve_sampleSigner).ends _ _).2 (.inl ?_)
    refine ⟨[sampleMissing], sampleFound, rfl, ?_, by decide, decides_sampleFound sampleUrl⟩
    exact List.forall_mem_singleton.2 (.inl ⟨_, rfl, rfl⟩)
  · refine ((hevm Rpc.Signer.sampleSigner _ _ hhash rfl).ends _ _).2 (.inl ?_)
    refine ⟨[samplePending], .refused, rfl, ?_, by decide, .failed _ rfl⟩
    exact List.forall_mem_singleton.2 undecided_samplePending

end Receipt

end TokenBridge
