import TokenBridge.Proofs.Batch.Composition
import TokenBridge.Proofs.Transfer

set_option autoImplicit false

/-! # Why a transfer is refused

The orders are gone through up to the first that is refused: for the form of its token, or because
what is to be provided no longer fits (`Refused`). The tokens of a batch that was composed have been
read as tokens of the source chain before, so that none of them is refused for its form; and as such
a batch has few orders, little is left that can be too much (`Oversized`).
-/

namespace TokenBridge

/-! ## Sums that are too large -/

theorem Tally.add_eq_none {κ : Type} [DecidableEq κ] {limit n : Nat} {key : κ}
    {sums : List (κ × Nat)} (hnodup : (sums.map Prod.fst).Nodup) (hn : n < limit) :
    add limit key n sums = none ↔ limit ≤ total sums key + n := by
  induction sums with
  | nil =>
      -- A new entry always fits.
      have hlimit : ¬limit ≤ total [] key + n := by
        show ¬limit ≤ 0 + n
        omega
      exact ⟨fun h => (nomatch h), fun h => absurd h hlimit⟩
  | cons e rest ih =>
      obtain ⟨k, m⟩ := e
      rw [List.map_cons, List.nodup_cons] at hnodup
      rw [add, total_cons]
      by_cases hk : k = key
      · have hrest : total rest key = 0 := total_of_notMem (hk ▸ hnodup.1)
        rw [if_pos hk, if_pos hk, hrest, Nat.add_zero]
        by_cases hfits : m + n < limit
        · simp [hfits]
        · simp [hfits, Nat.le_of_not_lt hfits]
      · rw [if_neg hk, if_neg hk, Nat.zero_add, Option.map_eq_none_iff]
        exact ih hnodup.2

theorem baseTotal_append (before after : List Order) (token : Bytes) :
    baseTotal (before ++ after) token = baseTotal before token + baseTotal after token := by
  simp [baseTotal]

@[simp] theorem baseTotal_singleton (o : Order) (token : Bytes) :
    baseTotal [o] token = if o.baseToken = token then o.baseAmount.toNat else 0 := by
  by_cases h : o.baseToken = token <;> simp [baseTotal, h]

namespace Transfer

variable {orders : List Order} {native : List String} {fault : Fault}

/-! ## The first order that is refused -/

/-- Why an order stops those who go through the orders, after the orders before it. -/
inductive Refused (native : List String) (before : List Order) (o : Order) :
    ChainFamily → Fault → Prop
  | tokenLength (h : o.baseToken.length ≠ 20) :
      Refused native before o .evm (.tokenLength o.baseToken.length)
  | approvalOverflow (htoken : o.baseToken.length = 20)
      (h : 2 ^ 256 ≤ baseTotal (before ++ [o]) o.baseToken) :
      Refused native before o .evm (.approvalOverflow (.ofBytes o.baseToken))
  | tokenText {f : Utf8.Fault} (h : Utf8.decode o.baseToken = .error f) :
      Refused native before o .cosmos (.tokenText f)
  | nativeTooLarge {denom : String} (htoken : o.baseToken = Utf8.encode denom)
      (hnative : denom ∈ native) (h : 2 ^ 128 ≤ o.baseAmount.toNat) :
      Refused native before o .cosmos (.nativeTooLarge denom)
  | fundsOverflow {denom : String} (htoken : o.baseToken = Utf8.encode denom)
      (hnative : denom ∈ native) (hamount : o.baseAmount.toNat < 2 ^ 128)
      (h : 2 ^ 128 ≤ baseTotal (before ++ [o]) o.baseToken) :
      Refused native before o .cosmos (.fundsOverflow denom)

theorem addApproval_eq_error {before : List Order} {sums : List (EvmAddress × Nat)} {o : Order}
    (hbefore : before.foldlM addApproval [] = .ok sums) :
    addApproval sums o = .error fault ↔ Refused native before o .evm fault := by
  rw [addApproval]
  by_cases htoken : o.baseToken.length = 20
  · have hsums := sums_of_addApproval hbefore
    have hnone : Tally.add (2 ^ 256) (.ofBytes o.baseToken) o.baseAmount.toNat sums = none ↔
        2 ^ 256 ≤ baseTotal (before ++ [o]) o.baseToken := by
      rw [Tally.add_eq_none hsums.nodup o.baseAmount.isLt, hsums.total_eq,
        total_share (forall_length_of_foldlM hbefore) htoken, baseTotal_append,
        baseTotal_singleton, if_pos rfl]
    rw [if_neg (not_not.2 htoken)]
    dsimp only
    split
    · next hadd =>
        constructor
        · rintro ⟨⟩
        · rintro (h | ⟨-, h⟩)
          · exact absurd htoken h
          · have hadd := hadd.symm.trans (hnone.2 h)
            cases hadd
    · next hadd =>
        constructor
        · rintro ⟨⟩
          exact .approvalOverflow htoken (hnone.1 hadd)
        · rintro (h | ⟨-, -⟩)
          · exact absurd htoken h
          · rfl
  · rw [if_pos htoken]
    constructor
    · rintro ⟨⟩
      exact .tokenLength htoken
    · rintro (- | ⟨h, -⟩)
      · rfl
      · exact absurd h htoken

theorem addFunds_eq_error {before : List Order} {sums : List (String × Nat)} {o : Order}
    (hbefore : before.foldlM (addFunds native) [] = .ok sums) :
    addFunds native sums o = .error fault ↔ Refused native before o .cosmos fault := by
  have hsums := sums_of_addFunds hbefore
  -- A native coin reaches its limit when the orders with its token do.
  have hnone : ∀ denom ∈ native, o.baseToken = Utf8.encode denom →
      o.baseAmount.toNat < 2 ^ 128 →
      (Tally.add (2 ^ 128) denom o.baseAmount.toNat sums = none ↔
        2 ^ 128 ≤ baseTotal (before ++ [o]) o.baseToken) := by
    intro denom hnative htoken hamount
    rw [Tally.add_eq_none hsums.nodup hamount, hsums.total_eq, total_coin? hnative, ← htoken,
      baseTotal_append, baseTotal_singleton, if_pos rfl]
  rw [addFunds]
  constructor
  · intro h
    split at h
    · next f htext =>
        cases h
        exact .tokenText htext
    · next denom htext =>
        have htoken := (Utf8.encode_of_decode htext).symm
        split at h
        · cases h
        · next hnative =>
            have hnative := not_not.1 hnative
            split at h
            · next hlarge =>
                cases h
                exact .nativeTooLarge htoken hnative hlarge
            · next hamount =>
                have hamount := Nat.lt_of_not_le hamount
                split at h
                · cases h
                · next hadd =>
                    cases h
                    exact .fundsOverflow htoken hnative hamount
                      ((hnone denom hnative htoken hamount).1 hadd)
  · intro h
    cases h with
    | tokenText htext => rw [htext]
    | nativeTooLarge htoken hnative hlarge =>
        rw [htoken, Utf8.decode_encode]
        dsimp only
        rw [if_neg (not_not.2 hnative)]
        exact if_pos hlarge
    | fundsOverflow htoken hnative hamount hlimit =>
        have hadd := (hnone _ hnative htoken hamount).2 hlimit
        rw [htoken, Utf8.decode_encode]
        dsimp only
        rw [if_neg (not_not.2 hnative)]
        refine (if_neg (Nat.not_le.2 hamount)).trans ?_
        rw [show Tally.add (Nat.pow 2 128) _ o.baseAmount.toNat sums = none from hadd]

/-- Allowances are refused for the first order that is. -/
theorem approvalsOf_eq_error (native : List String) :
    approvalsOf orders = .error fault ↔ ∃ before o after requirements,
      orders = before ++ o :: after ∧ approvalsOf before = .ok requirements ∧
        Refused native before o .evm fault := by
  rw [approvalsOf, Outcome.bind_eq_error]
  constructor
  · rintro (h | ⟨_, -, ⟨⟩⟩)
    obtain ⟨before, o, after, sums, rfl, hbefore, ho⟩ := Outcome.foldlM_eq_error.1 h
    exact ⟨before, o, after, _, rfl, Outcome.bind_eq_ok.2 ⟨sums, hbefore, rfl⟩,
      (addApproval_eq_error hbefore).1 ho⟩
  · rintro ⟨before, o, after, _, rfl, hbefore, ho⟩
    obtain ⟨sums, hbefore, -⟩ := Outcome.bind_eq_ok.1 hbefore
    exact .inl (Outcome.foldlM_eq_error.2
      ⟨before, o, after, sums, rfl, hbefore, (addApproval_eq_error hbefore).2 ho⟩)

/-- Coins are refused for the first order that is. -/
theorem fundsOf_eq_error :
    fundsOf native orders = .error fault ↔ ∃ before o after funds,
      orders = before ++ o :: after ∧ fundsOf native before = .ok funds ∧
        Refused native before o .cosmos fault := by
  rw [fundsOf, Outcome.bind_eq_error]
  constructor
  · rintro (h | ⟨_, -, ⟨⟩⟩)
    obtain ⟨before, o, after, sums, rfl, hbefore, ho⟩ := Outcome.foldlM_eq_error.1 h
    exact ⟨before, o, after, _, rfl, Outcome.bind_eq_ok.2 ⟨sums, hbefore, rfl⟩,
      (addFunds_eq_error hbefore).1 ho⟩
  · rintro ⟨before, o, after, _, rfl, hbefore, ho⟩
    obtain ⟨sums, hbefore, -⟩ := Outcome.bind_eq_ok.1 hbefore
    exact .inl (Outcome.foldlM_eq_error.2
      ⟨before, o, after, sums, rfl, hbefore, (addFunds_eq_error hbefore).2 ho⟩)

section

variable {i : Instruction} {endpoint : Endpoint}

theorem ofInstruction_evm_eq_error :
    ofInstruction .evm i endpoint native = .error fault ↔
      approvalsOf i.orders = .error fault := by
  refine Outcome.bind_eq_error.trans (or_iff_left ?_)
  rintro ⟨_, -, ⟨⟩⟩

theorem ofInstruction_cosmos_eq_error :
    ofInstruction .cosmos i endpoint native = .error fault ↔
      fundsOf native i.orders = .error fault := by
  refine Outcome.bind_eq_error.trans (or_iff_left ?_)
  rintro ⟨_, -, ⟨⟩⟩

end

/-! ## Few orders with good tokens -/

/-- What can be too much in orders as they are composed: on EVM chains two amounts of one token
together, on Cosmos chains the amount of a native coin. -/
inductive Oversized (native : List String) : List Order → ChainFamily → Fault → Prop
  | approval {o o' : Order} (htoken : o.baseToken = o'.baseToken)
      (h : 2 ^ 256 ≤ o.baseAmount.toNat + o'.baseAmount.toNat) :
      Oversized native [o, o'] .evm (.approvalOverflow (.ofBytes o'.baseToken))
  | coin {o : Order} {denom : String} (htoken : o.baseToken = Utf8.encode denom)
      (hnative : denom ∈ native) (h : 2 ^ 128 ≤ o.baseAmount.toNat) :
      Oversized native [o] .cosmos (.nativeTooLarge denom)

theorem exists_approvalsOf_singleton {o : Order} (htoken : o.baseToken.length = 20) :
    ∃ requirements, approvalsOf [o] = .ok requirements := by
  have hstep : addApproval [] o = .ok [share o] := by
    rw [addApproval, if_neg (not_not.2 htoken)]
    rfl
  refine ⟨_, Outcome.bind_eq_ok.2 ⟨[share o], ?_, rfl⟩⟩
  rw [List.foldlM_cons, hstep]
  rfl

theorem approvalsOf_eq_error_iff_oversized (hcount : orders.length ≤ 2)
    (htokens : ∀ o ∈ orders, o.baseToken.length = 20) :
    approvalsOf orders = .error fault ↔ Oversized native orders .evm fault := by
  rw [approvalsOf_eq_error native]
  constructor
  · rintro ⟨before, o, after, _, rfl, -, h⟩
    have htoken := htokens o (List.mem_append_right _ List.mem_cons_self)
    cases h with
    | tokenLength hlength => exact absurd htoken hlength
    | approvalOverflow _ hlimit =>
        have hamount : o.baseAmount.toNat < 2 ^ 256 := o.baseAmount.isLt
        rw [baseTotal_append, baseTotal_singleton, if_pos rfl] at hlimit
        -- One order alone always fits, and there is at most one before it.
        rcases before with _ | ⟨first, _ | ⟨second, before⟩⟩
        · have hzero : baseTotal [] o.baseToken = 0 := rfl
          omega
        · obtain rfl : after = [] := by
            simp only [List.length_append, List.length_cons, List.length_nil] at hcount
            rw [← List.length_eq_zero_iff]
            omega
          rw [baseTotal_singleton] at hlimit
          by_cases hsame : first.baseToken = o.baseToken
          · rw [if_pos hsame] at hlimit
            exact .approval hsame hlimit
          · rw [if_neg hsame] at hlimit
            omega
        · simp only [List.length_append, List.length_cons] at hcount
          omega
  · intro h
    cases h with
    | approval htoken hlimit =>
        obtain ⟨hfirst, hrest⟩ := List.forall_mem_cons.1 htokens
        obtain ⟨requirements, hbefore⟩ := exists_approvalsOf_singleton hfirst
        refine ⟨_, _, [], requirements, rfl, hbefore,
          .approvalOverflow (hrest _ List.mem_cons_self) ?_⟩
        rw [baseTotal_append, baseTotal_singleton, baseTotal_singleton, if_pos htoken, if_pos rfl]
        exact hlimit

theorem fundsOf_eq_error_iff_oversized (hcount : orders.length ≤ 1)
    (htokens : ∀ o ∈ orders, ∃ denom, o.baseToken = Utf8.encode denom) :
    fundsOf native orders = .error fault ↔ Oversized native orders .cosmos fault := by
  rw [fundsOf_eq_error]
  constructor
  · rintro ⟨before, o, after, _, rfl, -, h⟩
    -- The order is alone.
    obtain ⟨rfl, rfl⟩ : before = [] ∧ after = [] := by
      rw [List.length_append, List.length_cons] at hcount
      rw [← List.length_eq_zero_iff, ← List.length_eq_zero_iff]
      omega
    obtain ⟨denom, htoken⟩ := htokens o List.mem_cons_self
    cases h with
    | tokenText htext =>
        rw [htoken, Utf8.decode_encode] at htext
        cases htext
    | nativeTooLarge htoken hnative hlarge => exact .coin htoken hnative hlarge
    | fundsOverflow _ _ hamount hlimit =>
        rw [List.nil_append, baseTotal_singleton, if_pos rfl] at hlimit
        omega
  · intro h
    cases h with
    | coin htoken hnative hlarge =>
        exact ⟨[], _, [], [], rfl, rfl, .nativeTooLarge htoken hnative hlarge⟩

end Transfer

/-! ## Composed batches -/

namespace Token

variable {text : String} {token : Bytes}

theorem length_of_canonical_evm (h : canonical .evm text = .ok token) : token.length = 20 := by
  obtain ⟨a, -, rfl⟩ := Outcome.map_eq_ok.1 (Outcome.mapError_eq_ok.1 h)
  exact EvmAddress.toBytes_length a

theorem eq_encode_of_canonical_cosmos (h : canonical .cosmos text = .ok token) :
    token = Utf8.encode text := by
  obtain ⟨_, -, rfl⟩ := Outcome.map_eq_ok.1 (Outcome.mapError_eq_ok.1 h)
  rfl

end Token

namespace BatchRequest

variable {r : BatchRequest} {source destination : LiveReader} {batch : Instruction}
  {family : ChainFamily} {endpoint : Endpoint} {native : List String} {fault : Transfer.Fault}

/-- The transfer of a batch that was composed, from the chain for which it was composed, is refused
if and only if two amounts of one EVM token come to `2 ^ 256` or more, or the amount of a native
coin is `2 ^ 128` or more; and the fault says so. -/
theorem ofInstruction_of_compose_eq_error (hsource : r.source? = some family)
    (hbatch : (r.compose source destination).1 = .ok (some batch)) :
    Transfer.ofInstruction family batch endpoint native = .error fault ↔
      Transfer.Oversized native batch.orders family fault := by
  obtain ⟨route, hroute, rfl, _, intents, orders, rfl, hlength, hall⟩ :=
    fulfilled_of_compose hsource hbatch
  have hcount := Nat.le_trans hlength (Route.maxOrders_le hroute)
  have htokens : ∀ o ∈ orders, ∃ text,
      Token.canonical route.source.family text = .ok o.baseToken := by
    intro o ho
    obtain ⟨i, -, hi⟩ := Outcome.exists_of_mem_right hall ho
    exact ⟨i.1.baseToken, hi.baseToken⟩
  cases hkind : route.source with
  | evm =>
      rw [hkind] at hcount htokens
      refine Transfer.ofInstruction_evm_eq_error.trans ?_
      rw [Instruction.orders_batch_map_order]
      refine Transfer.approvalsOf_eq_error_iff_oversized hcount fun o ho => ?_
      obtain ⟨text, htext⟩ := htokens o ho
      exact Token.length_of_canonical_evm htext
  | cosmos =>
      rw [hkind] at hcount htokens
      refine Transfer.ofInstruction_cosmos_eq_error.trans ?_
      rw [Instruction.orders_batch_map_order]
      refine Transfer.fundsOf_eq_error_iff_oversized hcount fun o ho => ?_
      obtain ⟨text, htext⟩ := htokens o ho
      exact ⟨text, Token.eq_encode_of_canonical_cosmos htext⟩

/-! ## A sample

The sample request for two transfers of half of all amounts each.
-/

def halfAmount : Amount := BitVec.ofNat 256 (2 ^ 255)

def halves : BatchRequest :=
  { sample with intents := List.replicate 2 { sampleIntent with baseAmount := halfAmount } }

def halfOrders : List Order := List.replicate 2 { sampleOrder with baseAmount := halfAmount }

theorem compose_halves :
    (halves.compose sampleSource sampleDestination).1 =
      .ok (some (.batch (halfOrders.map .order))) := by
  have hhalf := fulfilledBy_sampleOrder (by decide : halfAmount ≠ 0)
  exact compose_of_fulfilledBy rfl rfl rfl rfl (by decide) (by decide) sampleRoute_mem
    ⟨rfl, rfl⟩ samplePort_contract (.cons hhalf (.cons hhalf .nil))

theorem ofInstruction_halves :
    Transfer.ofInstruction .evm (.batch (halfOrders.map .order)) ⟨1, "bridge"⟩ [] =
      .error (.approvalOverflow (.ofBytes sampleOrder.baseToken)) := by
  refine (ofInstruction_of_compose_eq_error rfl compose_halves).2 ?_
  rw [Instruction.orders_batch_map_order]
  exact .approval rfl (by decide)

end BatchRequest
end TokenBridge
