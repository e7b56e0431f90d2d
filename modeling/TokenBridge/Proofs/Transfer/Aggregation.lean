import TokenBridge.Proofs.Transfer.Refusal

set_option autoImplicit false

/-! # Exactly what a transfer needs

A transfer can be made of an instruction if and only if the tokens of its orders have the form that
the source chain gives them and no sum is too large for an amount. It provides each token once, in
the order in which the tokens first occur, with the sum over all orders for it, and nothing else
(`ofInstruction_exact`). The sums grow from order to order, so that the first one that is too large
tells that the whole is.
-/

namespace TokenBridge

/-! ## First occurrences -/

section

variable {α β : Type} [BEq α] [LawfulBEq α] [BEq β] [LawfulBEq β]

theorem eraseDups_concat_of_mem {xs : List α} {x : α} (hx : x ∈ xs) :
    (xs ++ [x]).eraseDups = xs.eraseDups := by
  rw [List.eraseDups_append]
  simp [List.removeAll, hx]

theorem eraseDups_concat_of_notMem {xs : List α} {x : α} (hx : x ∉ xs) :
    (xs ++ [x]).eraseDups = xs.eraseDups ++ [x] := by
  rw [List.eraseDups_append]
  simp [List.removeAll, hx, List.eraseDups_cons]

/-- Where items are told apart by what stands for them, the first occurrences of either are those of
the other. -/
theorem eraseDups_filterMap {g : α → Option β} {xs : List α}
    (hg : ∀ x ∈ xs, ∀ y ∈ xs, ∀ z, g x = some z → g y = some z → x = y) :
    (xs.filterMap g).eraseDups = xs.eraseDups.filterMap g := by
  induction xs using List.reverseRecOn with
  | nil => rfl
  | append_singleton xs x ih =>
      have hbefore := ih fun y hy y' hy' => hg y (List.mem_append_left _ hy) y'
        (List.mem_append_left _ hy')
      rw [List.filterMap_append]
      by_cases hmem : x ∈ xs
      · rw [eraseDups_concat_of_mem hmem, ← hbefore]
        cases hx : g x with
        | none => rw [List.filterMap_cons_none hx, List.filterMap_nil, List.append_nil]
        | some z =>
            rw [List.filterMap_cons_some hx, List.filterMap_nil]
            exact eraseDups_concat_of_mem (List.mem_filterMap.2 ⟨x, hmem, hx⟩)
      · rw [eraseDups_concat_of_notMem hmem, List.filterMap_append, ← hbefore]
        cases hx : g x with
        | none => rw [List.filterMap_cons_none hx, List.filterMap_nil, List.append_nil,
            List.append_nil]
        | some z =>
            rw [List.filterMap_cons_some hx, List.filterMap_nil]
            refine eraseDups_concat_of_notMem fun hz => hmem ?_
            obtain ⟨y, hy, hyz⟩ := List.mem_filterMap.1 hz
            rwa [hg x (List.mem_append_right _ List.mem_cons_self) y (List.mem_append_left _ hy) z
              hx hyz]

end

/-! ## Sums in the order of their keys -/

namespace Tally

variable {κ : Type} [DecidableEq κ] {limit : Nat} {entries sums : List (κ × Nat)}

/-- A sum stands where its key was first entered. -/
theorem keys_of_foldlM {α ε : Type} {step : List (κ × Nat) → α → Except ε (List (κ × Nat))}
    (item? : α → Option (κ × Nat))
    (hskip : ∀ sums a sums', item? a = none → step sums a = .ok sums' → sums' = sums)
    (henter : ∀ sums a sums' e, item? a = some e → step sums a = .ok sums' →
      add limit e.1 e.2 sums = some sums')
    (before : List (κ × Nat)) {xs : List α} {sums' : List (κ × Nat)}
    (hkeys : sums.map Prod.fst = (before.map Prod.fst).eraseDups)
    (hfold : xs.foldlM step sums = .ok sums') :
    sums'.map Prod.fst = ((before ++ xs.filterMap item?).map Prod.fst).eraseDups := by
  induction xs generalizing before sums with
  | nil =>
      cases hfold
      rwa [List.filterMap_nil, List.append_nil]
  | cons x xs ih =>
      rw [List.foldlM_cons] at hfold
      obtain ⟨sums₁, hstep, hrest⟩ := Outcome.bind_eq_ok.1 hfold
      cases hx : item? x with
      | none =>
          rw [List.filterMap_cons_none hx]
          rw [hskip _ _ _ hx hstep] at hrest
          exact ih before hkeys hrest
      | some e =>
          rw [List.filterMap_cons_some hx, List.append_cons]
          refine ih (before ++ [e]) ?_ hrest
          rw [(add_eq_some (henter _ _ _ _ hx hstep)).1, hkeys, List.map_append, List.map_cons,
            List.map_nil]
          by_cases hkey : e.1 ∈ before.map Prod.fst
          · rw [if_pos (List.mem_eraseDups.2 hkey), eraseDups_concat_of_mem hkey]
          · rw [if_neg (mt List.mem_eraseDups.1 hkey), eraseDups_concat_of_notMem hkey]

/-- Each sum is the total of its key. -/
theorem Sums.eq_map (h : Sums limit entries sums) :
    sums = (sums.map Prod.fst).map fun key => (key, total entries key) := by
  rw [List.map_map]
  refine (List.map_id sums).symm.trans (List.map_congr_left fun e he => ?_)
  exact Prod.ext rfl (h.mem.1 he).2

/-- No total reaches the limit. -/
theorem Sums.total_lt (h : Sums limit entries sums) (hlimit : 0 < limit) (key : κ) :
    total entries key < limit := by
  by_cases hkey : key ∈ entries.map Prod.fst
  · exact h.lt _ (h.mem.2 ⟨hkey, rfl⟩)
  · rwa [total_of_notMem hkey]

end Tally

/-! ## Sums over orders -/

theorem baseTotal_le_append (before after : List Order) (token : Bytes) :
    baseTotal before token ≤ baseTotal (before ++ after) token := by
  rw [baseTotal_append]
  exact Nat.le_add_right _ _

/-- What is summed up to an order is no more than the whole sum. -/
theorem baseTotal_upTo_le (before : List Order) (o : Order) (after : List Order) (token : Bytes) :
    baseTotal (before ++ [o]) token ≤ baseTotal (before ++ o :: after) token := by
  have happend : before ++ o :: after = (before ++ [o]) ++ after := by simp
  rw [happend]
  exact baseTotal_le_append _ _ _

theorem baseTotal_of_forall_ne {orders : List Order} {token : Bytes}
    (h : ∀ o ∈ orders, o.baseToken ≠ token) : baseTotal orders token = 0 := by
  have hnone : orders.filter (fun o => o.baseToken = token) = [] :=
    List.filter_eq_nil_iff.2 fun o ho => by simpa using h o ho
  rw [baseTotal, hnone]
  rfl

/-- The base tokens of the orders, in the order in which they first occur. -/
def baseTokens (orders : List Order) : List Bytes := (orders.map Order.baseToken).eraseDups

theorem mem_baseTokens {orders : List Order} {token : Bytes} :
    token ∈ baseTokens orders ↔ ∃ o ∈ orders, o.baseToken = token := by
  rw [baseTokens, List.mem_eraseDups, List.mem_map]

namespace Transfer

variable {orders : List Order} {native : List String}

/-! ## Allowances -/

/-- The requirements are one for each base token, in the order in which the tokens first occur. Its
text is read as the token, and its amount is the sum over all orders for the token. -/
def RequiresExactly (requirements : List Requirement) (orders : List Order) : Prop :=
  List.Forall₂ (fun token r => (∃ a, EvmAddress.parse r.token = .ok a ∧ a.toBytes = token) ∧
    r.amount.toNat = baseTotal orders token) (baseTokens orders) requirements

theorem keys_of_addApproval {sums : List (EvmAddress × Nat)}
    (h : orders.foldlM addApproval [] = .ok sums) :
    sums.map Prod.fst = (baseTokens orders).map EvmAddress.ofBytes := by
  have hlength := forall_length_of_foldlM h
  have henter : ∀ sums o sums' e, some (share o) = some e → addApproval sums o = .ok sums' →
      Tally.add (2 ^ 256) e.1 e.2 sums = some sums' := by
    rintro _ o _ _ ⟨⟩ hok
    exact (addApproval_eq_ok hok).2
  have hkeys := Tally.keys_of_foldlM (fun o => some (share o)) (fun _ _ _ hnone => nomatch hnone)
    henter [] rfl h
  have hshares : (orders.filterMap fun o => some (share o)).map Prod.fst =
      (orders.map Order.baseToken).filterMap fun token => some (.ofBytes token) := by
    rw [List.filterMap_eq_map', List.filterMap_eq_map', List.map_map, List.map_map]
    rfl
  have hinj : ∀ token ∈ orders.map Order.baseToken, ∀ token' ∈ orders.map Order.baseToken, ∀ a,
      some (EvmAddress.ofBytes token) = some a → some (.ofBytes token') = some a →
        token = token' := by
    -- Tokens of twenty bytes are told apart by their addresses.
    intro token htoken token' htoken' a ha ha'
    obtain ⟨o, ho, rfl⟩ := List.mem_map.1 htoken
    obtain ⟨o', ho', rfl⟩ := List.mem_map.1 htoken'
    exact (EvmAddress.ofBytes_inj (hlength o ho) (hlength o' ho')).1
      (Option.some.inj (ha.trans ha'.symm))
  rw [hkeys, List.nil_append, hshares, eraseDups_filterMap hinj, baseTokens,
    List.filterMap_eq_map']

theorem requiresExactly_of_approvalsOf {requirements : List Requirement}
    (h : approvalsOf orders = .ok requirements) : RequiresExactly requirements orders := by
  obtain ⟨sums, hfold, h⟩ := Outcome.bind_eq_ok.1 h
  cases h
  have hsums := sums_of_addApproval hfold
  have hlength := forall_length_of_foldlM hfold
  rw [RequiresExactly, hsums.eq_map, keys_of_addApproval hfold, List.map_map, List.map_map,
    List.forall₂_map_right_iff, List.forall₂_same]
  intro token htoken
  obtain ⟨o, ho, rfl⟩ := mem_baseTokens.1 htoken
  have htotal := total_share hlength (hlength o ho)
  have hlt := hsums.total_lt (by decide) (.ofBytes o.baseToken)
  refine ⟨⟨_, EvmAddress.parse_checksum _, EvmAddress.toBytes_ofBytes (hlength o ho)⟩, ?_⟩
  -- The sum is below the limit, so as an amount it is the same.
  exact ((BitVec.toNat_ofNat _ _).trans (Nat.mod_eq_of_lt hlt)).trans htotal

/-- Allowances can be made out if and only if the tokens are addresses and no sum is too large. -/
theorem exists_approvalsOf :
    (∃ requirements, approvalsOf orders = .ok requirements) ↔
      (∀ o ∈ orders, o.baseToken.length = 20) ∧ ∀ token, baseTotal orders token < 2 ^ 256 := by
  constructor
  · rintro ⟨requirements, h⟩
    obtain ⟨sums, hfold, -⟩ := Outcome.bind_eq_ok.1 h
    have hlength := forall_length_of_foldlM hfold
    refine ⟨hlength, fun token => ?_⟩
    by_cases htoken : token.length = 20
    · rw [← total_share hlength htoken]
      exact (sums_of_addApproval hfold).total_lt (by decide) _
    · have hne : ∀ o ∈ orders, o.baseToken ≠ token := by
        rintro o ho rfl
        exact htoken (hlength o ho)
      rw [baseTotal_of_forall_ne hne]
      decide
  · rintro ⟨hlength, hlt⟩
    cases h : approvalsOf orders with
    | ok requirements => exact ⟨requirements, rfl⟩
    | error fault =>
        obtain ⟨before, o, after, _, rfl, -, hrefused⟩ := (approvalsOf_eq_error []).1 h
        cases hrefused with
        | tokenLength hbad =>
            exact absurd (hlength o (List.mem_append_right _ List.mem_cons_self)) hbad
        | approvalOverflow _ hlimit =>
            have hle := baseTotal_upTo_le before o after o.baseToken
            exact absurd (hlt o.baseToken) (Nat.not_lt.2 (hlimit.trans hle))

/-! ## Coins -/

/-- The native coin that a base token is, if it is one. -/
def nativeCoin? (native : List String) (token : Bytes) : Option String :=
  (Utf8.decode token).toOption.filter (· ∈ native)

theorem nativeCoin?_eq_some {token : Bytes} {denom : String} :
    nativeCoin? native token = some denom ↔ token = Utf8.encode denom ∧ denom ∈ native := by
  rw [nativeCoin?, Option.filter_eq_some_iff, decide_eq_true_iff]
  refine and_congr_left fun _ => ?_
  constructor
  · intro h
    cases hd : Utf8.decode token with
    | error f =>
        rw [hd] at h
        cases h
    | ok d =>
        rw [hd] at h
        cases h
        exact (Utf8.encode_of_decode hd).symm
  · rintro rfl
    rw [Utf8.decode_encode]
    rfl

theorem coin?_eq_map (native : List String) (o : Order) :
    coin? native o =
      (nativeCoin? native o.baseToken).map fun denom => (denom, o.baseAmount.toNat) := by
  ext ⟨denom, n⟩
  rw [coin?_eq_some, Option.map_eq_some_iff]
  constructor
  · rintro ⟨htoken, hnative, rfl⟩
    exact ⟨denom, nativeCoin?_eq_some.2 ⟨htoken, hnative⟩, rfl⟩
  · rintro ⟨d, hd, heq⟩
    cases heq
    obtain ⟨htoken, hnative⟩ := nativeCoin?_eq_some.1 hd
    exact ⟨htoken, hnative, rfl⟩

/-- The coins are the native ones among the base tokens, in the order in which they first occur,
each with the sum over all orders for it. -/
def CarriesExactly (funds : List Funds) (native : List String) (orders : List Order) : Prop :=
  List.Forall₂ (fun denom f => f.denom = denom ∧
    f.amount.toNat = baseTotal orders (Utf8.encode denom))
    ((baseTokens orders).filterMap (nativeCoin? native)) funds

theorem keys_of_addFunds {sums : List (String × Nat)}
    (h : orders.foldlM (addFunds native) [] = .ok sums) :
    sums.map Prod.fst = (baseTokens orders).filterMap (nativeCoin? native) := by
  have hkeys := Tally.keys_of_foldlM (coin? native) (fun _ _ _ => addFunds_of_none)
    (fun _ _ _ _ he hok => (addFunds_of_some he hok).2) [] rfl h
  have hcoins : (orders.filterMap (coin? native)).map Prod.fst =
      (orders.map Order.baseToken).filterMap (nativeCoin? native) := by
    rw [List.map_filterMap, List.filterMap_map]
    refine List.filterMap_congr fun o _ => ?_
    rw [coin?_eq_map, Option.map_map]
    exact Option.map_id'
  have hinj : ∀ token ∈ orders.map Order.baseToken, ∀ token' ∈ orders.map Order.baseToken, ∀ denom,
      nativeCoin? native token = some denom → nativeCoin? native token' = some denom →
        token = token' := by
    intro token _ token' _ denom hd hd'
    rw [(nativeCoin?_eq_some.1 hd).1, (nativeCoin?_eq_some.1 hd').1]
  rw [hkeys, List.nil_append, hcoins, eraseDups_filterMap hinj, baseTokens]

theorem carriesExactly_of_fundsOf {funds : List Funds} (h : fundsOf native orders = .ok funds) :
    CarriesExactly funds native orders := by
  obtain ⟨sums, hfold, h⟩ := Outcome.bind_eq_ok.1 h
  cases h
  have hsums := sums_of_addFunds hfold
  rw [CarriesExactly, hsums.eq_map, keys_of_addFunds hfold, List.map_map,
    List.forall₂_map_right_iff, List.forall₂_same]
  intro denom hdenom
  obtain ⟨token, -, htoken⟩ := List.mem_filterMap.1 hdenom
  have hlt := hsums.total_lt (by decide) denom
  refine ⟨rfl, ((BitVec.toNat_ofNat _ _).trans (Nat.mod_eq_of_lt hlt)).trans ?_⟩
  exact total_coin? (nativeCoin?_eq_some.1 htoken).2

theorem exists_encode_of_addFunds {sums sums' : List (String × Nat)} {o : Order}
    (h : addFunds native sums o = .ok sums') : ∃ text, o.baseToken = Utf8.encode text := by
  rw [addFunds] at h
  split at h
  · cases h
  · next text htext => exact ⟨text, (Utf8.encode_of_decode htext).symm⟩

/-- Coins can be made out if and only if the tokens are texts and no sum of a native coin is too
large. -/
theorem exists_fundsOf :
    (∃ funds, fundsOf native orders = .ok funds) ↔
      (∀ o ∈ orders, ∃ text, o.baseToken = Utf8.encode text) ∧
        ∀ denom ∈ native, baseTotal orders (Utf8.encode denom) < 2 ^ 128 := by
  constructor
  · rintro ⟨funds, h⟩
    obtain ⟨sums, hfold, -⟩ := Outcome.bind_eq_ok.1 h
    refine ⟨fun o ho => ?_, fun denom hdenom => ?_⟩
    · obtain ⟨_, _, hstep⟩ := Outcome.exists_of_foldlM hfold ho
      exact exists_encode_of_addFunds hstep
    · rw [← total_coin? hdenom]
      exact (sums_of_addFunds hfold).total_lt (by decide) _
  · rintro ⟨htext, hlt⟩
    cases h : fundsOf native orders with
    | ok funds => exact ⟨funds, rfl⟩
    | error fault =>
        obtain ⟨before, o, after, _, rfl, -, hrefused⟩ := fundsOf_eq_error.1 h
        have hle := baseTotal_upTo_le before o after o.baseToken
        cases hrefused with
        | tokenText hbad =>
            obtain ⟨text, ho⟩ := htext o (List.mem_append_right _ List.mem_cons_self)
            rw [ho, Utf8.decode_encode] at hbad
            cases hbad
        | nativeTooLarge htoken hnative hlarge =>
            rw [baseTotal_append, baseTotal_singleton, if_pos rfl] at hle
            have hall := hlt _ hnative
            rw [← htoken] at hall
            omega
        | fundsOverflow htoken hnative _ hlimit =>
            have hall := hlt _ hnative
            rw [← htoken] at hall
            exact absurd hall (Nat.not_lt.2 (hlimit.trans hle))

/-! ## Transfers -/

section

variable {i : Instruction} {endpoint : Endpoint} {t : Transfer}

theorem ofInstruction_evm_eq_ok_iff : ofInstruction .evm i endpoint native = .ok t ↔
    ∃ requirements, approvalsOf i.orders = .ok requirements ∧
      t = ⟨.evm, i, endpoint, requirements, []⟩ :=
  Outcome.bind_eq_ok.trans (exists_congr fun _ => and_congr_right fun _ =>
    ⟨fun h => (Except.ok.inj h).symm, fun h => congrArg Except.ok h.symm⟩)

theorem ofInstruction_cosmos_eq_ok_iff : ofInstruction .cosmos i endpoint native = .ok t ↔
    ∃ funds, fundsOf native i.orders = .ok funds ∧ t = ⟨.cosmos, i, endpoint, [], funds⟩ :=
  Outcome.bind_eq_ok.trans (exists_congr fun _ => and_congr_right fun _ =>
    ⟨fun h => (Except.ok.inj h).symm, fun h => congrArg Except.ok h.symm⟩)

/-- Of a tree, only the orders count. -/
theorem ofInstruction_of_orders_eq {j : Instruction} (family : ChainFamily)
    (horders : j.orders = i.orders) :
    ofInstruction family j endpoint native =
      (ofInstruction family i endpoint native).map fun t => { t with instruction := j } := by
  cases family with
  | evm =>
      rw [ofInstruction, ofInstruction, horders]
      cases approvalsOf i.orders <;> rfl
  | cosmos =>
      rw [ofInstruction, ofInstruction, horders]
      cases fundsOf native i.orders <;> rfl
  | aptos =>
      rw [ofInstruction, ofInstruction, horders]
      split <;> rfl

end

/-- From an EVM chain a transfer can be made if and only if every base token is an address and no
sum reaches `2 ^ 256`; it has an allowance for each token and no coins. From a Cosmos chain it can
be made if and only if every base token is a text and no sum of a native coin reaches `2 ^ 128`; it
has the native coins that occur and no allowances. On any chain nothing of the tree but its orders
counts. -/
theorem ofInstruction_exact (i : Instruction) (endpoint : Endpoint) (native : List String) :
    ((∃ t, ofInstruction .evm i endpoint native = .ok t) ↔
      (∀ o ∈ i.orders, o.baseToken.length = 20) ∧
        ∀ token, baseTotal i.orders token < 2 ^ 256) ∧
    (∀ t, ofInstruction .evm i endpoint native = .ok t →
      ∃ requirements, t = ⟨.evm, i, endpoint, requirements, []⟩ ∧
        RequiresExactly requirements i.orders) ∧
    ((∃ t, ofInstruction .cosmos i endpoint native = .ok t) ↔
      (∀ o ∈ i.orders, ∃ text, o.baseToken = Utf8.encode text) ∧
        ∀ denom ∈ native, baseTotal i.orders (Utf8.encode denom) < 2 ^ 128) ∧
    (∀ t, ofInstruction .cosmos i endpoint native = .ok t →
      ∃ funds, t = ⟨.cosmos, i, endpoint, [], funds⟩ ∧ CarriesExactly funds native i.orders) ∧
    ∀ family j, j.orders = i.orders → ofInstruction family j endpoint native =
      (ofInstruction family i endpoint native).map fun t => { t with instruction := j } := by
  refine ⟨?_, ?_, ?_, ?_, fun family j => ofInstruction_of_orders_eq family⟩
  · simp only [ofInstruction_evm_eq_ok_iff]
    refine Iff.trans ⟨?_, ?_⟩ exists_approvalsOf
    · rintro ⟨_, requirements, h, -⟩
      exact ⟨requirements, h⟩
    · rintro ⟨requirements, h⟩
      exact ⟨_, requirements, h, rfl⟩
  · intro t ht
    obtain ⟨requirements, h, rfl⟩ := ofInstruction_evm_eq_ok_iff.1 ht
    exact ⟨requirements, rfl, requiresExactly_of_approvalsOf h⟩
  · simp only [ofInstruction_cosmos_eq_ok_iff]
    refine Iff.trans ⟨?_, ?_⟩ exists_fundsOf
    · rintro ⟨_, funds, h, -⟩
      exact ⟨funds, h⟩
    · rintro ⟨funds, h⟩
      exact ⟨_, funds, h, rfl⟩
  · intro t ht
    obtain ⟨funds, h, rfl⟩ := ofInstruction_cosmos_eq_ok_iff.1 ht
    exact ⟨funds, rfl, carriesExactly_of_fundsOf h⟩

/-! ### A sample

Three orders for two tokens. The first token comes back in an inner batch.
-/

def sampleShare (token : UInt8) (amount : Amount) : Order :=
  { BatchRequest.sampleOrder with
    baseToken := List.replicate 20 token, baseAmount := amount }

def sampleTree : Instruction :=
  .batch [.order (sampleShare 97 2), .batch [.order (sampleShare 98 3), .order (sampleShare 97 5)]]

def sampleDenom : String := "bbbbbbbbbbbbbbbbbbbb"

theorem baseTotal_sampleTree_le (token : Bytes) : baseTotal sampleTree.orders token ≤ 10 := by
  have horders : sampleTree.orders =
      [sampleShare 97 2] ++ [sampleShare 98 3] ++ [sampleShare 97 5] := rfl
  rw [horders, baseTotal_append, baseTotal_append]
  simp only [baseTotal_singleton]
  have hamounts : (sampleShare 97 2).baseAmount.toNat = 2 ∧
    (sampleShare 98 3).baseAmount.toNat = 3 ∧ (sampleShare 97 5).baseAmount.toNat = 5 := by decide
  split <;> split <;> split <;> omega

theorem ofInstruction_sampleTree :
    (∃ first second, ofInstruction .evm sampleTree ⟨1, "bridge"⟩ [] =
      .ok ⟨.evm, sampleTree, ⟨1, "bridge"⟩, [first, second], []⟩ ∧
        first.amount = 7 ∧ second.amount = 3) ∧
    ∃ amount, ofInstruction .cosmos sampleTree ⟨1, "bridge"⟩ ["stake", sampleDenom] =
      .ok ⟨.cosmos, sampleTree, ⟨1, "bridge"⟩, [], [⟨sampleDenom, amount⟩]⟩ ∧ amount = 3 := by
  constructor
  · obtain ⟨hok, hexact, -⟩ := ofInstruction_exact sampleTree ⟨1, "bridge"⟩ []
    obtain ⟨t, ht⟩ := hok.2 ⟨by decide, fun token =>
      (baseTotal_sampleTree_le token).trans_lt (by decide)⟩
    obtain ⟨requirements, rfl, hrequires⟩ := hexact t ht
    have htokens : baseTokens sampleTree.orders = [List.replicate 20 97, List.replicate 20 98] := by
      decide
    rw [RequiresExactly, htokens] at hrequires
    obtain ⟨first, _, ⟨-, hfirst⟩, hrest, rfl⟩ := List.forall₂_cons_left_iff.1 hrequires
    obtain ⟨second, _, ⟨-, hsecond⟩, hend, rfl⟩ := List.forall₂_cons_left_iff.1 hrest
    obtain rfl := List.forall₂_nil_left_iff.1 hend
    exact ⟨first, second, ht, BitVec.eq_of_toNat_eq (hfirst.trans (by decide)),
      BitVec.eq_of_toNat_eq (hsecond.trans (by decide))⟩
  · obtain ⟨-, -, hok, hexact, -⟩ :=
      ofInstruction_exact sampleTree ⟨1, "bridge"⟩ ["stake", sampleDenom]
    have htexts : ∀ o ∈ sampleTree.orders, ∃ text, o.baseToken = Utf8.encode text := by
      have hdecode : ∀ o ∈ sampleTree.orders, (Utf8.decode o.baseToken).isOk := by decide +kernel
      intro o ho
      cases htext : Utf8.decode o.baseToken with
      | error _ =>
          have hok := hdecode o ho
          rw [htext] at hok
          cases hok
      | ok text => exact ⟨text, (Utf8.encode_of_decode htext).symm⟩
    obtain ⟨t, ht⟩ := hok.2 ⟨htexts, fun _ _ =>
      (baseTotal_sampleTree_le _).trans_lt (by decide)⟩
    obtain ⟨funds, rfl, hcarries⟩ := hexact t ht
    have hdenoms : (baseTokens sampleTree.orders).filterMap
        (nativeCoin? ["stake", sampleDenom]) = [sampleDenom] := by
      decide +kernel
    rw [CarriesExactly, hdenoms] at hcarries
    obtain ⟨⟨denom, amount⟩, _, ⟨rfl, hamount⟩, hrest, rfl⟩ :=
      List.forall₂_cons_left_iff.1 hcarries
    obtain rfl := List.forall₂_nil_left_iff.1 hrest
    exact ⟨amount, ht, BitVec.eq_of_toNat_eq (hamount.trans (by decide))⟩

end Transfer
end TokenBridge
