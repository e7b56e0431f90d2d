import TokenBridge.Lcd.TxResult
import TokenBridge.Proofs.Json.Record
import TokenBridge.Proofs.Json.Table
import TokenBridge.Proofs.Lcd.Asking
import TokenBridge.Proofs.Number.Numeral

set_option autoImplicit false

/-! # What an answer says of a transaction

An answer tells of a transaction when its `tx_response` is a record of four values, each of which
may be left out (`Told`). A code other than zero tells that the transaction has failed. Every answer
to the question for a transaction either decides what became of it, in one of the ways of `Decides`,
or leaves it open (`decide_eq_none_iff`, `decide_eq_some_iff`).
-/

namespace TokenBridge.Lcd

open Json

namespace TxResult

/-! ## Records of transactions -/

/-- What the entries say under a name: a value that spells it, or none if it is what goes without
saying. -/
def Says {α : Type} (entries : List (String × Json)) (name : String) (spell : α → Json)
    (default a : α) : Prop :=
  entries.lookup name = some (spell a) ∨ (entries.lookup name = none ∧ a = default)

/-- The value is a record of the transaction, as an object or as a list in this order. -/
def Records (j : Json) (t : TxResult) : Prop :=
  ∃ entries, entries? ["txhash", "code", "height", "raw_log"] j = some entries ∧
    Says entries "txhash" .string "" t.hash ∧ Says entries "code" ofNat 0 t.code.toNat ∧
    Says entries "height" .string "" t.height ∧ Says entries "raw_log" .string "" t.log

/-- The answer tells of the transaction. -/
def Told (answer : Json) (t : TxResult) : Prop :=
  ∃ j, answer.field? "tx_response" = some j ∧ Records j t

section Read

variable {entries : List (String × Json)} {name : String}

theorem readFieldD_asString {a : String} :
    readFieldD entries name asString "" = .ok a ↔ Says entries name .string "" a := by
  rw [readFieldD_eq_ok_iff, Says]
  simp [asString_eq_ok_iff]

theorem readFieldD_asUnsigned {width n : Nat} :
    readFieldD entries name (asUnsigned width) 0 = .ok n ↔
      Says entries name ofNat 0 n ∧ n < 2 ^ width := by
  rw [readFieldD_eq_ok_iff, Says]
  simp only [asUnsigned_eq_ok_iff]
  constructor
  · rintro (⟨v, hv, rfl, hn⟩ | ⟨hnone, rfl⟩)
    · exact ⟨.inl hv, hn⟩
    · exact ⟨.inr ⟨hnone, rfl⟩, Nat.two_pow_pos _⟩
  · rintro ⟨hv | ⟨hnone, rfl⟩, hn⟩
    · exact .inl ⟨_, hv, rfl, hn⟩
    · exact .inr ⟨hnone, rfl⟩

/-- The fields of a record. -/
def fields : List Field := [
  field "txhash" asString .defaulted, field "code" (asUnsigned 32) .defaulted,
  field "height" asString .defaulted, field "raw_log" asString .defaulted]

theorem read_eq_ok_iff_fields {j : Json} {t : TxResult} :
    read j = .ok t ↔ ∃ found, asRecord "struct TxResponse" fields j = .ok found ∧
      Says found "txhash" .string "" t.hash ∧ Says found "code" ofNat 0 t.code.toNat ∧
      Says found "height" .string "" t.height ∧ Says found "raw_log" .string "" t.log := by
  constructor
  · intro h
    obtain ⟨found, hfound, h⟩ := Outcome.bind_eq_ok.1 h
    obtain ⟨hash, hhash, h⟩ := Outcome.bind_eq_ok.1 h
    obtain ⟨code, hcode, h⟩ := Outcome.bind_eq_ok.1 h
    obtain ⟨height, hheight, h⟩ := Outcome.bind_eq_ok.1 h
    obtain ⟨log, hlog, h⟩ := Outcome.bind_eq_ok.1 h
    cases h
    obtain ⟨hcode, hlt⟩ := readFieldD_asUnsigned.1 hcode
    refine ⟨found, hfound, readFieldD_asString.1 hhash, ?_, readFieldD_asString.1 hheight,
      readFieldD_asString.1 hlog⟩
    rwa [UInt32.toNat_ofNat_of_lt' hlt]
  · rintro ⟨found, hfound, hhash, hcode, hheight, hlog⟩
    have hcode := readFieldD_asUnsigned.2 ⟨hcode, t.code.toNat_lt⟩
    refine Outcome.bind_eq_ok.2 ⟨found, hfound, ?_⟩
    refine Outcome.bind_eq_ok.2 ⟨_, readFieldD_asString.2 hhash, ?_⟩
    refine Outcome.bind_eq_ok.2 ⟨_, hcode, ?_⟩
    refine Outcome.bind_eq_ok.2 ⟨_, readFieldD_asString.2 hheight, ?_⟩
    refine Outcome.bind_eq_ok.2 ⟨_, readFieldD_asString.2 hlog, ?_⟩
    rw [UInt32.ofNat_toNat]
    rfl

theorem says_filter {α : Type} {spell : α → Json} {default a : α}
    (hname : isKnown fields name = true) :
    Says (entries.filter fun e => isKnown fields e.1) name spell default a ↔
      Says entries name spell default a := by
  rw [Says, Outcome.lookup_filter hname, Says]

/-- What is said under a name passes the check of the field of that name. -/
theorem check_of_says {α : Type} {read : Json → Except Mismatch α} {spell : α → Json} {b a : α}
    (h : Says entries name spell b a) (hread : read (spell a) = .ok a) {v : Json}
    (hv : entries.lookup name = some v) : (field name read .defaulted).check v = .ok () := by
  rcases h with hsome | ⟨hnone, -⟩
  · obtain rfl : spell a = v := Option.some.inj (hsome.symm.trans hv)
    exact check_field hread
  · rw [hnone] at hv
    cases hv

theorem read_eq_ok_iff_records {j : Json} {t : TxResult}
    (hj : ∀ entries, j = .object entries → (entries.map Prod.fst).Nodup) :
    read j = .ok t ↔ Records j t := by
  have hfields : ∀ f ∈ fields, f.absence = .defaulted := by simp [fields, field]
  have hnames : (fields.map Field.name).Nodup := by decide
  rw [read_eq_ok_iff_fields, Records]
  simp only [asRecord_eq_ok_iff hfields hnames hj]
  constructor
  · rintro ⟨_, ⟨entries, hentries, rfl, -⟩, hhash, hcode, hheight, hlog⟩
    exact ⟨entries, hentries, (says_filter rfl).1 hhash, (says_filter rfl).1 hcode,
      (says_filter rfl).1 hheight, (says_filter rfl).1 hlog⟩
  · rintro ⟨entries, hentries, hhash, hcode, hheight, hlog⟩
    refine ⟨_, ⟨entries, hentries, rfl, ?_⟩, (says_filter rfl).2 hhash, (says_filter rfl).2 hcode,
      (says_filter rfl).2 hheight, (says_filter rfl).2 hlog⟩
    have hnumber : asUnsigned 32 (ofNat t.code.toNat) = .ok t.code.toNat :=
      asUnsigned_ofNat t.code.toNat_lt
    refine List.forall_mem_cons.2 ⟨fun v => check_of_says hhash rfl, ?_⟩
    refine List.forall_mem_cons.2 ⟨fun v => check_of_says hcode hnumber, ?_⟩
    refine List.forall_mem_cons.2 ⟨fun v => check_of_says hheight rfl, ?_⟩
    exact List.forall_mem_singleton.2 fun v => check_of_says hlog rfl

end Read

end TxResult

/-- What an answer brings has been a text. -/
theorem Brings.exists_settle {o : Http.Outcome} {answer : Json} (h : Brings o answer) :
    ∃ w, answer = settle w := by
  obtain ⟨r, -, -, hjson⟩ := h
  rw [Http.Response.json] at hjson
  split at hjson
  · exact exists_settle_of_parse (Outcome.mapError_eq_ok.1 hjson)
  · cases hjson

namespace TxResult

/-- What can be read of an answer that has been a text is what the answer tells. -/
theorem ofAnswer?_eq_some_iff {o : Http.Outcome} {answer : Json} (h : Brings o answer)
    {t : TxResult} : ofAnswer? answer = some t ↔ Told answer t := by
  obtain ⟨w, rfl⟩ := h.exists_settle
  rw [ofAnswer?, Option.bind_eq_some_iff, Told]
  refine exists_congr fun j => and_congr_right fun hj => ?_
  obtain ⟨w', rfl⟩ := exists_settle_of_field? hj
  rw [← read_eq_ok_iff_records fun entries => nodup_of_settle]
  cases read (settle w') <;> simp [Except.toOption]

/-! ## Decisive answers -/

theorem height?_eq_some_iff {t : TxResult} {n : UInt64} :
    t.height? = some n ↔ Numeral.Spells t.height n.toNat := by
  rw [height?, ← Numeral.readUInt64_eq_ok]
  cases Numeral.readUInt64 t.height <;> simp [Except.toOption]

/-- The answer leaves open what became of the transaction: it is not found, or the answer tells
nothing of it. -/
def Undecided (o : Http.Outcome) : Prop :=
  (∃ r, o = .answered r ∧ r.status = 404) ∨ ∃ answer, Brings o answer ∧ ∀ t, ¬Told answer t

/-- What an answer to the question for a transaction decides. -/
inductive Decides (hash : TxHash) (url : Url) (o : Http.Outcome) : Except Report Receipt → Prop
  /-- Only a code of zero confirms the transaction. The height is known if it is a number. -/
  | confirmed (answer : Json) (t : TxResult) (height : Option UInt64) (hanswer : Brings o answer)
      (ht : Told answer t) (hcode : t.code = 0)
      (hheight : ∀ n, height = some n ↔ Numeral.Spells t.height n.toNat) :
      Decides hash url o (.ok ⟨hash, height⟩)
  | failed (answer : Json) (t : TxResult) (hanswer : Brings o answer) (ht : Told answer t)
      (hcode : t.code ≠ 0) :
      Decides hash url o (.error (.of s!"Transaction {hash} failed (code {t.code.toNat}): {t.log}"))
  | badStatus (r : Http.Response) (ho : o = .answered r) (hsuccess : r.isSuccess = false)
      (hfound : r.status ≠ 404) :
      Decides hash url o (.error (.of s!"Transaction query failed: {Http.showStatus r.status}"))
  | unreadable (r : Http.Response) (e : Report) (ho : o = .answered r)
      (hsuccess : r.isSuccess = true) (hbody : r.json = .error e) : Decides hash url o (.error e)
  | lost (f : Http.Fault) (ho : o.response url = .error f) :
      Decides hash url o (.error (.under "Failed to query transaction status" f.report))

section Decide

variable {hash : TxHash} {url : Url} {o : Http.Outcome}

theorem Undecided.decide_eq (h : Undecided o) : decide hash url o = none := by
  rcases h with ⟨r, rfl, hstatus⟩ | ⟨answer, hanswer, hnothing⟩
  · have hsuccess : r.isSuccess = false := by
      rw [Http.Response.isSuccess, hstatus]
      rfl
    simp [decide, Http.Outcome.response, hsuccess, hstatus]
  · have hnone : ofAnswer? answer = none := by
      refine Option.eq_none_iff_forall_ne_some.2 fun t ht => ?_
      exact hnothing t ((ofAnswer?_eq_some_iff hanswer).1 ht)
    obtain ⟨r, rfl, hsuccess, hjson⟩ := hanswer
    simp [decide, Http.Outcome.response, hsuccess, hjson, hnone]

theorem Decides.decide_eq {a : Except Report Receipt} (h : Decides hash url o a) :
    decide hash url o = some a := by
  cases h with
  | confirmed answer t height hanswer ht hcode hheight =>
      have hread := (ofAnswer?_eq_some_iff hanswer).2 ht
      have hsame : t.height? = height := by
        refine Option.ext fun n => ?_
        exact height?_eq_some_iff.trans (hheight n).symm
      obtain ⟨r, rfl, hsuccess, hjson⟩ := hanswer
      simp [decide, Http.Outcome.response, hsuccess, hjson, hread, hcode, hsame]
  | failed answer t hanswer ht hcode =>
      have hread := (ofAnswer?_eq_some_iff hanswer).2 ht
      obtain ⟨r, rfl, hsuccess, hjson⟩ := hanswer
      simp [decide, Http.Outcome.response, hsuccess, hjson, hread, hcode]
  | badStatus r ho hsuccess hfound =>
      subst ho
      simp [decide, Http.Outcome.response, hsuccess, hfound]
  | unreadable r e ho hsuccess hbody =>
      subst ho
      simp [decide, Http.Outcome.response, hsuccess, hbody]
  | lost f ho => simp [decide, ho]

theorem undecided_or_decides (hash : TxHash) (url : Url) (o : Http.Outcome) :
    Undecided o ∨ ∃ a, Decides hash url o a := by
  cases ho : o.response url with
  | error f => exact .inr ⟨_, .lost f ho⟩
  | ok r =>
      obtain rfl : o = .answered r := by
        cases o <;> simp_all [Http.Outcome.response]
      cases hsuccess : r.isSuccess with
      | false =>
          by_cases hstatus : r.status = 404
          · exact .inl (.inl ⟨r, rfl, hstatus⟩)
          · exact .inr ⟨_, .badStatus r rfl hsuccess hstatus⟩
      | true =>
          cases hjson : r.json with
          | error e => exact .inr ⟨_, .unreadable r e rfl hsuccess hjson⟩
          | ok answer =>
              have hanswer : Brings (.answered r) answer := ⟨r, rfl, hsuccess, hjson⟩
              by_cases htold : ∃ t, Told answer t
              · obtain ⟨t, ht⟩ := htold
                by_cases hcode : t.code = 0
                · exact .inr ⟨_, .confirmed answer t t.height? hanswer ht hcode
                    fun n => height?_eq_some_iff⟩
                · exact .inr ⟨_, .failed answer t hanswer ht hcode⟩
              · exact .inl (.inr ⟨answer, hanswer, not_exists.1 htold⟩)

theorem decide_eq_none_iff : decide hash url o = none ↔ Undecided o := by
  constructor
  · intro h
    rcases undecided_or_decides hash url o with hopen | ⟨a, ha⟩
    · exact hopen
    · rw [ha.decide_eq] at h
      cases h
  · exact Undecided.decide_eq

theorem decide_eq_some_iff {a : Except Report Receipt} :
    decide hash url o = some a ↔ Decides hash url o a := by
  constructor
  · intro h
    rcases undecided_or_decides hash url o with hopen | ⟨b, hb⟩
    · rw [hopen.decide_eq] at h
      cases h
    · rw [hb.decide_eq] at h
      cases h
      exact hb
  · exact Decides.decide_eq

end Decide

end TxResult

end TokenBridge.Lcd
