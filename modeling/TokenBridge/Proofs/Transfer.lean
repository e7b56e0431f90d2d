import TokenBridge.Proofs.Address.Evm
import TokenBridge.Proofs.Text.Utf8
import TokenBridge.Transfer

set_option autoImplicit false

/-! # What a transfer provides

What is provided are the sums over the orders: an allowance of each base token
(`Transfer.Covers`), or each native coin once (`Transfer.Carries`).
-/

namespace TokenBridge

/-! ## Sums by key -/

namespace Tally

variable {κ : Type} [DecidableEq κ] {limit n : Nat} {key : κ} {sums sums' : List (κ × Nat)}

/-- All that is entered under a key. -/
def total (entries : List (κ × Nat)) (key : κ) : Nat :=
  ((entries.filter fun e => e.1 = key).map Prod.snd).sum

theorem total_cons (e : κ × Nat) (entries : List (κ × Nat)) (key : κ) :
    total (e :: entries) key = (if e.1 = key then e.2 else 0) + total entries key := by
  by_cases h : e.1 = key <;> simp [total, h]

theorem total_append (entries entries' : List (κ × Nat)) (key : κ) :
    total (entries ++ entries') key = total entries key + total entries' key := by
  simp [total]

theorem total_of_notMem {entries : List (κ × Nat)} (h : key ∉ entries.map Prod.fst) :
    total entries key = 0 := by
  induction entries with
  | nil => rfl
  | cons e entries ih =>
      rw [List.map_cons, List.mem_cons, not_or] at h
      rw [total_cons, if_neg (Ne.symm h.1), ih h.2]

theorem eq_total_of_mem (hnodup : (sums.map Prod.fst).Nodup) (h : (key, n) ∈ sums) :
    n = total sums key := by
  induction sums with
  | nil => cases h
  | cons e rest ih =>
      rw [List.map_cons, List.nodup_cons] at hnodup
      rw [total_cons]
      rcases List.mem_cons.1 h with rfl | hrest
      · rw [if_pos rfl, total_of_notMem hnodup.1, Nat.add_zero]
      · have hkey : key ∈ rest.map Prod.fst := List.mem_map_of_mem (f := Prod.fst) hrest
        have hne : e.1 ≠ key := by
          rintro rfl
          exact hnodup.1 hkey
        rw [if_neg hne, Nat.zero_add]
        exact ih hnodup.2 hrest

/-- The total of the items of a list that are entered under a key. -/
theorem total_filterMap {α : Type} {item? : α → Option (κ × Nat)} {amount : α → Nat}
    {p : α → Prop} [DecidablePred p] {xs : List α}
    (hp : ∀ x ∈ xs, p x → item? x = some (key, amount x))
    (hnot : ∀ x ∈ xs, ¬p x → ∀ n, item? x ≠ some (key, n)) :
    total (xs.filterMap item?) key = ((xs.filter p).map amount).sum := by
  induction xs with
  | nil => rfl
  | cons x xs ih =>
      obtain ⟨hpx, hp⟩ := List.forall_mem_cons.1 hp
      obtain ⟨hnotx, hnot⟩ := List.forall_mem_cons.1 hnot
      by_cases hx : p x
      · rw [List.filterMap_cons_some (hpx hx), total_cons, if_pos rfl, ih hp hnot,
          List.filter_cons, if_pos (decide_eq_true hx), List.map_cons, List.sum_cons]
      · rw [List.filter_cons, if_neg (by simpa using hx), ← ih hp hnot]
        cases hentry : item? x with
        | none => rw [List.filterMap_cons_none hentry]
        | some e =>
            have hne : e.1 ≠ key := fun heq => hnotx hx e.2 (heq ▸ hentry)
            rw [List.filterMap_cons_some hentry, total_cons, if_neg hne, Nat.zero_add]

/-- One entry grows, or is new. -/
theorem add_eq_some (h : add limit key n sums = some sums') :
    sums'.map Prod.fst = (if key ∈ sums.map Prod.fst then sums.map Prod.fst
      else sums.map Prod.fst ++ [key]) ∧
    (∀ k, total sums' k = total sums k + if key = k then n else 0) ∧
    (n < limit → (∀ e ∈ sums, e.2 < limit) → ∀ e ∈ sums', e.2 < limit) := by
  induction sums generalizing sums' with
  | nil =>
      cases h
      refine ⟨rfl, fun k => ?_, ?_⟩
      · rw [total_cons, Nat.add_comm]
      · intro hn _ e he
        rw [List.mem_singleton.1 he]
        exact hn
  | cons e rest ih =>
      obtain ⟨k, m⟩ := e
      rw [add] at h
      -- The number is added to the first entry, or somewhere behind it.
      by_cases hk : k = key
      · rw [if_pos hk] at h
        split at h
        · next hsum =>
            cases h
            refine ⟨?_, fun k' => ?_, ?_⟩
            · rw [if_pos (by simp [hk])]
              rfl
            · rw [total_cons, total_cons, hk]
              by_cases hk' : key = k'
              · simp only [if_pos hk']
                omega
              · simp only [if_neg hk']
                omega
            · intro _ hall e he
              rcases List.mem_cons.1 he with rfl | he
              · exact hsum
              · exact hall e (List.mem_cons_of_mem _ he)
        · cases h
      · rw [if_neg hk] at h
        obtain ⟨rest', hrest, rfl⟩ := Option.map_eq_some_iff.1 h
        obtain ⟨hkeys, htotal, hlt⟩ := ih hrest
        refine ⟨?_, fun k' => ?_, ?_⟩
        · rw [List.map_cons, List.map_cons, hkeys]
          by_cases hmem : key ∈ rest.map Prod.fst
          · rw [if_pos hmem, if_pos (List.mem_cons_of_mem _ hmem)]
          · rw [if_neg hmem, if_neg (by simp [hmem, Ne.symm hk])]
            rfl
        · rw [total_cons, total_cons, htotal, Nat.add_assoc]
        · intro hn hall
          obtain ⟨hfirst, hall⟩ := List.forall_mem_cons.1 hall
          exact List.forall_mem_cons.2 ⟨hfirst, hlt hn hall⟩

/-- `sums` has one entry for each key that was entered, with the total, which is under the limit. -/
structure Sums (limit : Nat) (entries sums : List (κ × Nat)) : Prop where
  nodup : (sums.map Prod.fst).Nodup
  mem_iff : ∀ key, key ∈ sums.map Prod.fst ↔ key ∈ entries.map Prod.fst
  total_eq : ∀ key, total sums key = total entries key
  lt : ∀ e ∈ sums, e.2 < limit

namespace Sums

variable {entries : List (κ × Nat)}

theorem nil (limit : Nat) : Sums limit ([] : List (κ × Nat)) [] where
  nodup := List.nodup_nil
  mem_iff _ := Iff.rfl
  total_eq _ := rfl
  lt _ he := nomatch he

theorem add (h : Sums limit entries sums) (hn : n < limit)
    (hadd : Tally.add limit key n sums = some sums') :
    Sums limit (entries ++ [(key, n)]) sums' := by
  obtain ⟨hkeys, htotal, hlt⟩ := add_eq_some hadd
  refine ⟨?_, fun k => ?_, fun k => ?_, hlt hn h.lt⟩
  · rw [hkeys]
    split
    · exact h.nodup
    · -- A key is put at the end only if it is new.
      next hnew =>
        exact List.nodup_append.2 ⟨h.nodup, List.nodup_singleton key, fun a ha b hb => by
          rw [List.mem_singleton.1 hb]
          exact fun heq => hnew (heq ▸ ha)⟩
  · rw [hkeys, List.map_append, List.mem_append, ← h.mem_iff]
    split
    · next hold =>
        refine ⟨.inl, fun hk => hk.elim id fun hk => ?_⟩
        rw [List.mem_singleton.1 hk]
        exact hold
    · exact List.mem_append
  · rw [htotal, total_append, h.total_eq, total_cons]
    rfl

/-- What stands under a key is its total. -/
theorem mem (h : Sums limit entries sums) :
    (key, n) ∈ sums ↔ key ∈ entries.map Prod.fst ∧ n = total entries key := by
  rw [← h.mem_iff, ← h.total_eq]
  constructor
  · exact fun hmem => ⟨List.mem_map_of_mem (f := Prod.fst) hmem, eq_total_of_mem h.nodup hmem⟩
  · rintro ⟨hkey, rfl⟩
    obtain ⟨⟨k, m⟩, hmem, rfl⟩ := List.mem_map.1 hkey
    rwa [← eq_total_of_mem h.nodup hmem]

/-- What steps come to that each enter at most one number. -/
theorem foldlM {α ε : Type} {step : List (κ × Nat) → α → Except ε (List (κ × Nat))}
    {item? : α → Option (κ × Nat)}
    (hskip : ∀ sums a sums', item? a = none → step sums a = .ok sums' → sums' = sums)
    (henter : ∀ sums a sums' e, item? a = some e → step sums a = .ok sums' →
      e.2 < limit ∧ Tally.add limit e.1 e.2 sums = some sums')
    {xs : List α} (h : Sums limit entries sums) (hfold : xs.foldlM step sums = .ok sums') :
    Sums limit (entries ++ xs.filterMap item?) sums' := by
  -- `entries` is what was entered before; it grows from step to step.
  induction xs generalizing entries sums with
  | nil =>
      cases hfold
      rwa [List.filterMap_nil, List.append_nil]
  | cons x xs ih =>
      rw [List.foldlM_cons] at hfold
      obtain ⟨sums₁, hstep, hrest⟩ := Outcome.bind_eq_ok.1 hfold
      cases hx : item? x with
      | none =>
          rw [List.filterMap_cons_none hx]
          rw [hskip _ _ _ hx hstep] at hrest
          exact ih h hrest
      | some e =>
          obtain ⟨hlt, hadd⟩ := henter _ _ _ _ hx hstep
          rw [List.filterMap_cons_some hx, List.append_cons]
          exact ih (h.add hlt hadd) hrest

end Sums

end Tally

/-- The base amounts of the orders for a token, together. -/
def baseTotal (orders : List Order) (token : Bytes) : Nat :=
  ((orders.filter fun o => o.baseToken = token).map fun o => o.baseAmount.toNat).sum

namespace Transfer

variable {orders : List Order}

/-! ## Allowances -/

theorem addApproval_eq_ok {sums sums' : List (EvmAddress × Nat)} {o : Order}
    (h : addApproval sums o = .ok sums') :
    o.baseToken.length = 20 ∧ Tally.add (2 ^ 256) (EvmAddress.ofBytes o.baseToken)
      o.baseAmount.toNat sums = some sums' := by
  rw [addApproval] at h
  split at h
  · cases h
  · next hlength =>
      refine ⟨not_not.1 hlength, ?_⟩
      dsimp only at h
      split at h
      · next hadd =>
          cases h
          exact hadd
      · cases h

/-- Every base token that was gone through is an address. -/
theorem forall_length_of_foldlM {sums sums' : List (EvmAddress × Nat)}
    (h : orders.foldlM addApproval sums = .ok sums') : ∀ o ∈ orders, o.baseToken.length = 20 := by
  induction orders generalizing sums with
  | nil => exact fun o ho => nomatch ho
  | cons o orders ih =>
      rw [List.foldlM_cons] at h
      obtain ⟨sums₁, hstep, hrest⟩ := Outcome.bind_eq_ok.1 h
      exact List.forall_mem_cons.2 ⟨(addApproval_eq_ok hstep).1, ih hrest⟩

/-- What an order adds to the allowances. -/
def share (o : Order) : EvmAddress × Nat := (.ofBytes o.baseToken, o.baseAmount.toNat)

theorem total_share (hlength : ∀ o ∈ orders, o.baseToken.length = 20) {token : Bytes}
    (htoken : token.length = 20) :
    Tally.total (orders.filterMap fun o => some (share o)) (.ofBytes token) =
      baseTotal orders token := by
  refine Tally.total_filterMap ?_ ?_
  · rintro o - ho
    rw [share, ho]
  · rintro o ho hne n heq
    have haddress := (Prod.mk.inj (Option.some.inj heq)).1
    exact hne ((EvmAddress.ofBytes_inj (hlength o ho) htoken).1 haddress)

/-- The requirements cover the orders: there is one for the base token of each, with the sum over
all orders with that token, and there are no two for one token. -/
structure Covers (requirements : List Requirement) (orders : List Order) : Prop where
  nodup : (requirements.map Requirement.token).Nodup
  exists_mem : ∀ o ∈ orders, ∃ r ∈ requirements,
    r.token = (EvmAddress.ofBytes o.baseToken).checksum ∧
      r.amount.toNat = baseTotal orders o.baseToken

/-- The allowances gone through so far are the sums of what the orders add. -/
theorem sums_of_addApproval {sums : List (EvmAddress × Nat)}
    (h : orders.foldlM addApproval [] = .ok sums) :
    Tally.Sums (2 ^ 256) (orders.filterMap fun o => some (share o)) sums := by
  refine (Tally.Sums.nil _).foldlM ?_ ?_ h
  · rintro _ o _ ⟨⟩
  · rintro _ o _ _ ⟨⟩ hok
    exact ⟨o.baseAmount.isLt, (addApproval_eq_ok hok).2⟩

theorem covers_of_approvalsOf {requirements : List Requirement}
    (h : approvalsOf orders = .ok requirements) : Covers requirements orders := by
  obtain ⟨sums, hfold, h⟩ := Outcome.bind_eq_ok.1 h
  cases h
  have hsums := sums_of_addApproval hfold
  constructor
  · -- Different addresses have different texts.
    have hkeys := hsums.nodup.map EvmAddress.checksum_injective
    rwa [List.map_map] at hkeys ⊢
  · intro o ho
    have hlength := forall_length_of_foldlM hfold
    have htotal := total_share hlength (hlength o ho)
    have hmem : (EvmAddress.ofBytes o.baseToken, baseTotal orders o.baseToken) ∈ sums := by
      refine hsums.mem.2 ⟨?_, htotal.symm⟩
      exact List.mem_map.2 ⟨share o, List.mem_filterMap.2 ⟨o, ho, rfl⟩, rfl⟩
    refine ⟨_, List.mem_map_of_mem hmem, rfl, ?_⟩
    -- The sum is below the limit, so as an amount it is the same.
    exact (BitVec.toNat_ofNat _ _).trans (Nat.mod_eq_of_lt (hsums.lt _ hmem))

/-! ## Coins -/

/-- What an order is entered with: its native coin, if it has one. -/
def coin? (native : List String) (o : Order) : Option (String × Nat) :=
  match Utf8.decode o.baseToken with
  | .ok denom => if denom ∈ native then some (denom, o.baseAmount.toNat) else none
  | .error _ => none

theorem coin?_eq_some {native : List String} {o : Order} {denom : String} {n : Nat} :
    coin? native o = some (denom, n) ↔
      o.baseToken = Utf8.encode denom ∧ denom ∈ native ∧ n = o.baseAmount.toNat := by
  rw [coin?]
  constructor
  · intro h
    split at h
    · next d hd =>
        split at h
        · next hmem =>
            cases h
            exact ⟨(Utf8.encode_of_decode hd).symm, hmem, rfl⟩
        · cases h
    · cases h
  · rintro ⟨htoken, hmem, rfl⟩
    rw [htoken, Utf8.decode_encode]
    exact if_pos hmem

theorem addFunds_of_none {native : List String} {sums sums' : List (String × Nat)} {o : Order}
    (hnone : coin? native o = none) (h : addFunds native sums o = .ok sums') : sums' = sums := by
  rw [addFunds] at h
  rw [coin?] at hnone
  split at h
  · cases h
  · next d hd =>
      rw [hd] at hnone
      dsimp only at hnone
      split at hnone
      · cases hnone
      · next hmem =>
          rw [if_pos hmem] at h
          exact (Except.ok.inj h).symm

theorem addFunds_of_some {native : List String} {sums sums' : List (String × Nat)} {o : Order}
    {e : String × Nat} (he : coin? native o = some e) (h : addFunds native sums o = .ok sums') :
    e.2 < 2 ^ 128 ∧ Tally.add (2 ^ 128) e.1 e.2 sums = some sums' := by
  obtain ⟨htoken, hmem, hn⟩ := coin?_eq_some.1 he
  rw [addFunds, htoken, Utf8.decode_encode] at h
  dsimp only at h
  rw [if_neg (not_not.2 hmem), ← hn] at h
  split at h
  · cases h
  · next hlt =>
      refine ⟨Nat.lt_of_not_le hlt, ?_⟩
      split at h
      · next hadd =>
          cases h
          exact hadd
      · cases h

theorem mem_keys_coin? {native : List String} {denom : String} :
    denom ∈ (orders.filterMap (coin? native)).map Prod.fst ↔
      denom ∈ native ∧ ∃ o ∈ orders, o.baseToken = Utf8.encode denom := by
  simp only [List.mem_map, List.mem_filterMap]
  constructor
  · rintro ⟨⟨d, n⟩, ⟨o, ho, he⟩, rfl⟩
    obtain ⟨htoken, hmem, -⟩ := coin?_eq_some.1 he
    exact ⟨hmem, o, ho, htoken⟩
  · rintro ⟨hmem, o, ho, htoken⟩
    exact ⟨(denom, o.baseAmount.toNat), ⟨o, ho, coin?_eq_some.2 ⟨htoken, hmem, rfl⟩⟩, rfl⟩

theorem total_coin? {native : List String} {denom : String} (hnative : denom ∈ native) :
    Tally.total (orders.filterMap (coin? native)) denom =
      baseTotal orders (Utf8.encode denom) := by
  refine Tally.total_filterMap ?_ ?_
  · exact fun o _ htoken => coin?_eq_some.2 ⟨htoken, hnative, rfl⟩
  · exact fun o _ hne n he => hne (coin?_eq_some.1 he).1

/-- A sum under the limit is an amount of coins. -/
theorem mem_map_coin {sums : List (String × Nat)} (hlt : ∀ e ∈ sums, e.2 < 2 ^ 128) {f : Funds} :
    (f ∈ sums.map fun (denom, n) => (⟨denom, BitVec.ofNat 128 n⟩ : Funds)) ↔
      (f.denom, f.amount.toNat) ∈ sums := by
  rw [List.mem_map]
  constructor
  · rintro ⟨⟨denom, n⟩, he, rfl⟩
    have hn : (BitVec.ofNat 128 n).toNat = n :=
      (BitVec.toNat_ofNat _ _).trans (Nat.mod_eq_of_lt (hlt _ he))
    dsimp only
    rwa [hn]
  · intro he
    have hamount : BitVec.ofNat 128 f.amount.toNat = f.amount := by
      rw [BitVec.ofNat_toNat, BitVec.setWidth_eq]
    exact ⟨_, he, congrArg (Funds.mk f.denom) hamount⟩

/-- The coins are the native ones that are a base token, each once, with the sum over the orders
with that token. -/
structure Carries (funds : List Funds) (native : List String) (orders : List Order) : Prop where
  nodup : (funds.map Funds.denom).Nodup
  mem_iff : ∀ f, f ∈ funds ↔
    f.denom ∈ native ∧ (∃ o ∈ orders, o.baseToken = Utf8.encode f.denom) ∧
      f.amount.toNat = baseTotal orders (Utf8.encode f.denom)

/-- The coins gone through so far are the sums of what the orders are entered with. -/
theorem sums_of_addFunds {native : List String} {sums : List (String × Nat)}
    (h : orders.foldlM (addFunds native) [] = .ok sums) :
    Tally.Sums (2 ^ 128) (orders.filterMap (coin? native)) sums := by
  refine (Tally.Sums.nil _).foldlM ?_ ?_ h
  · exact fun _ _ _ => addFunds_of_none
  · exact fun _ _ _ _ => addFunds_of_some

theorem carries_of_fundsOf {native : List String} {funds : List Funds}
    (h : fundsOf native orders = .ok funds) : Carries funds native orders := by
  obtain ⟨sums, hfold, h⟩ := Outcome.bind_eq_ok.1 h
  cases h
  have hsums := sums_of_addFunds hfold
  constructor
  · rw [List.map_map]
    exact hsums.nodup
  · intro f
    refine (mem_map_coin hsums.lt).trans (hsums.mem.trans ?_)
    rw [mem_keys_coin?, and_assoc]
    refine and_congr_right fun hnative => and_congr_right fun _ => ?_
    rw [total_coin? hnative]

/-! ## Transfers -/

variable {i : Instruction} {endpoint : Endpoint} {native : List String} {t : Transfer}

/-- On EVM chains a transfer has allowances and no coins. -/
theorem ofInstruction_evm_eq_ok (h : ofInstruction .evm i endpoint native = .ok t) :
    ∃ requirements, t = ⟨.evm, i, endpoint, requirements, []⟩ ∧ Covers requirements i.orders := by
  obtain ⟨requirements, hrequirements, h⟩ := Outcome.bind_eq_ok.1 h
  exact ⟨requirements, (Except.ok.inj h).symm, covers_of_approvalsOf hrequirements⟩

/-- On Cosmos chains a transfer has coins and needs no allowances. -/
theorem ofInstruction_cosmos_eq_ok (h : ofInstruction .cosmos i endpoint native = .ok t) :
    ∃ funds, t = ⟨.cosmos, i, endpoint, [], funds⟩ ∧ Carries funds native i.orders := by
  obtain ⟨funds, hfunds, h⟩ := Outcome.bind_eq_ok.1 h
  exact ⟨funds, (Except.ok.inj h).symm, carries_of_fundsOf hfunds⟩

theorem ofInstruction_aptos_eq_ok (h : ofInstruction .aptos i endpoint native = .ok t) :
    t = ⟨.aptos, i, endpoint, [], []⟩ := by
  rw [ofInstruction] at h
  split at h
  · exact (Except.ok.inj h).symm
  · cases h

theorem instruction_of_ofInstruction {family : ChainFamily}
    (h : ofInstruction family i endpoint native = .ok t) : t.instruction = i := by
  cases family with
  | evm =>
      obtain ⟨requirements, rfl, -⟩ := ofInstruction_evm_eq_ok h
      rfl
  | cosmos =>
      obtain ⟨funds, rfl, -⟩ := ofInstruction_cosmos_eq_ok h
      rfl
  | aptos => rw [ofInstruction_aptos_eq_ok h]

end Transfer

end TokenBridge
