import Mathlib.Data.Option.Basic
import TokenBridge.Config
import TokenBridge.Json.Printer
import TokenBridge.Proofs.Outcome

set_option autoImplicit false

/-! # Configurations keep their secrets

What comes of an environment depends on its two secrets only as far as their shape goes. Two
environments that differ in nothing else fail for the same reason, or give configurations that
differ in nothing else and are shown alike (`ofEnvironment_of_agree`). Loading is followed in both
environments at once: a step that looks at no secret is the same step twice.
-/

namespace TokenBridge

/-! ## Two runs at once -/

namespace Outcome

variable {ε α α' β β' : Type} {R : α → α' → Prop} {S : β → β' → Prop}

/-- Both runs fail for the same reason, or both succeed with results that are related. -/
inductive Paired (R : α → α' → Prop) : Except ε α → Except ε α' → Prop
  | ok {a : α} {a' : α'} (h : R a a') : Paired R (.ok a) (.ok a')
  | error (e : ε) : Paired R (.error e) (.error e)

namespace Paired

theorem bind {x : Except ε α} {x' : Except ε α'} {f : α → Except ε β} {f' : α' → Except ε β'}
    (h : Paired R x x') (hf : ∀ a a', R a a' → Paired S (f a) (f' a')) :
    Paired S (x >>= f) (x' >>= f') := by
  cases h with
  | ok h => exact hf _ _ h
  | error e => exact .error e

/-- The same step is taken in both runs. -/
theorem same_bind (x : Except ε α) {f : α → Except ε β} {f' : α → Except ε β'}
    (hf : ∀ a, Paired S (f a) (f' a)) : Paired S (x >>= f) (x >>= f') := by
  cases x with
  | ok a => exact hf a
  | error e => exact .error e

/-- A step is taken where there is something to take it with, which is so in both runs. -/
theorem mapM (o : Option α) {f : α → Except ε β} {f' : α → Except ε β'}
    (hf : ∀ a, Paired S (f a) (f' a)) : Paired (Option.Rel S) (o.mapM f) (o.mapM f') := by
  cases o with
  | none => exact .ok .none
  | some a => exact (hf a).bind fun _ _ h => .ok (.some h)

end Paired

/-! What is there in one run is there in the other. -/

theorem rel_map {f : α → β} {f' : α' → β'} {o : Option α} {o' : Option α'}
    (h : Option.Rel R o o') (hf : ∀ a a', R a a' → S (f a) (f' a')) :
    Option.Rel S (o.map f) (o'.map f') := by
  cases h with
  | none => exact .none
  | some h => exact .some (hf _ _ h)

theorem rel_mono {R' : α → α' → Prop} {o : Option α} {o' : Option α'} (h : Option.Rel R o o')
    (hR : ∀ a a', R a a' → R' a a') : Option.Rel R' o o' := by
  cases h with
  | none => exact .none
  | some h => exact .some (hR _ _ h)

end Outcome

open Outcome

/-! ## What secrets may differ in -/

namespace Secret

/-- A text that can be a key: 66 bytes, the first two of which are the mark. -/
def KeyShaped (text : String) : Prop := text.utf8ByteSize = 66 ∧ "0x".isPrefixOf text = true

/-- A text that can be a mnemonic: at least twelve words. -/
def MnemonicShaped (text : String) : Prop := 12 ≤ (Blank.words text).length

/-- Both secrets are shown as the same text, to a reader, for debugging, and as data. -/
structure ShownAlike (s s' : Secret) : Prop where
  display : s.display = s'.display
  debug : repr s = repr s'
  json : s.toJson.print = s'.toJson.print

theorem shownAlike (s s' : Secret) : s.ShownAlike s' := ⟨rfl, rfl, rfl⟩

end Secret

/-- The environments agree on everything but the values of the two secrets. Each of these is set in
both or in neither, and they agree on whether it has its shape. -/
structure Environment.AgreeButSecrets (e e' : Environment) : Prop where
  others : ∀ name, name ≠ "EVM_PRIVATE_KEY" → name ≠ "COSMOS_MNEMONIC" →
    e.get? name = e'.get? name
  key : Option.Rel (fun k k' => Secret.KeyShaped k ↔ Secret.KeyShaped k')
    (e.get? "EVM_PRIVATE_KEY") (e'.get? "EVM_PRIVATE_KEY")
  mnemonic : Option.Rel (fun m m' => Secret.MnemonicShaped m ↔ Secret.MnemonicShaped m')
    (e.get? "COSMOS_MNEMONIC") (e'.get? "COSMOS_MNEMONIC")

/-! ## Configurations up to their secrets -/

/-- The sections agree on everything but their keys, which are related. -/
structure EvmConfig.UpToKey (R : Secret → Secret → Prop) (c c' : EvmConfig) : Prop where
  others : { c with privateKey := none } = { c' with privateKey := none }
  key : Option.Rel R c.privateKey c'.privateKey

/-- The sections agree on everything but their mnemonics, which are related. -/
structure CosmosConfig.UpToMnemonic (R : Secret → Secret → Prop) (c c' : CosmosConfig) :
    Prop where
  others : { c with mnemonic := none } = { c' with mnemonic := none }
  mnemonic : Option.Rel R c.mnemonic c'.mnemonic

namespace Config

/-- The configurations have the same sections, which agree on everything but the secrets. Each of
these is set in both or in neither, and then they are related. -/
structure UpToSecrets (K M : Secret → Secret → Prop) (c c' : Config) : Prop where
  evm : Option.Rel (EvmConfig.UpToKey K) c.evm c'.evm
  cosmos : Option.Rel (CosmosConfig.UpToMnemonic M) c.cosmos c'.cosmos

/-- The keys have both the right shape, or neither has. -/
def SameKeyShape (k k' : Secret) : Prop :=
  Secret.KeyShaped k.expose ↔ Secret.KeyShaped k'.expose

/-- The mnemonics have both the right shape, or neither has. -/
def SameMnemonicShape (m m' : Secret) : Prop :=
  Secret.MnemonicShaped m.expose ↔ Secret.MnemonicShaped m'.expose

variable {e e' : Environment}

/-! ## Reading -/

theorem readUInt64_congr {name : String} (h : e.get? name = e'.get? name) :
    readUInt64 e name = readUInt64 e' name := by
  rw [readUInt64, readUInt64, h]

theorem readGasPrice_congr (h : e.get? "COSMOS_GAS_PRICE" = e'.get? "COSMOS_GAS_PRICE") :
    readGasPrice e = readGasPrice e' := by
  rw [readGasPrice, readGasPrice, h]

theorem paired_readEvm (h : e.AgreeButSecrets e') (url : String) :
    Paired (EvmConfig.UpToKey SameKeyShape) (readEvm e url) (readEvm e' url) := by
  have hkey : Option.Rel SameKeyShape ((e.get? "EVM_PRIVATE_KEY").map Secret.mk)
      ((e'.get? "EVM_PRIVATE_KEY").map Secret.mk) := rel_map h.key fun _ _ hk => hk
  simp only [readEvm, readUInt64_congr (h.others "EVM_CHAIN_ID" (by decide) (by decide)),
    readUInt64_congr (h.others "EVM_RECEIPT_TIMEOUT_SECS" (by decide) (by decide)),
    readUInt64_congr (h.others "EVM_TIMEOUT_HEIGHT" (by decide) (by decide)),
    readUInt64_congr (h.others "EVM_TIMEOUT_TIMESTAMP" (by decide) (by decide))]
  refine .same_bind _ fun chainId? => .same_bind _ fun chainId => ?_
  refine .same_bind _ fun receiptTimeout => .same_bind _ fun timeoutHeight => ?_
  exact .same_bind _ fun timeoutTimestamp => .ok ⟨rfl, hkey⟩

theorem paired_readCosmos (h : e.AgreeButSecrets e') (url : String) :
    Paired (CosmosConfig.UpToMnemonic SameMnemonicShape) (readCosmos e url)
      (readCosmos e' url) := by
  have hmnemonic : Option.Rel SameMnemonicShape ((e.get? "COSMOS_MNEMONIC").map Secret.mk)
      ((e'.get? "COSMOS_MNEMONIC").map Secret.mk) := rel_map h.mnemonic fun _ _ hm => hm
  simp only [readCosmos, h.others "COSMOS_CHAIN_ID" (by decide) (by decide),
    h.others "COSMOS_BECH32_PREFIX" (by decide) (by decide),
    h.others "COSMOS_DERIVATION_PATH" (by decide) (by decide),
    h.others "COSMOS_FEE_DENOM" (by decide) (by decide),
    h.others "COSMOS_NATIVE_DENOMS" (by decide) (by decide),
    readGasPrice_congr (h.others "COSMOS_GAS_PRICE" (by decide) (by decide)),
    readUInt64_congr (h.others "COSMOS_GAS_LIMIT" (by decide) (by decide)),
    readUInt64_congr (h.others "COSMOS_TIMEOUT_HEIGHT" (by decide) (by decide)),
    readUInt64_congr (h.others "COSMOS_TIMEOUT_TIMESTAMP" (by decide) (by decide)),
    readUInt64_congr (h.others "COSMOS_RECEIPT_TIMEOUT_SECS" (by decide) (by decide))]
  refine .same_bind _ fun chainId => .same_bind _ fun gasPrice => .same_bind _ fun gasLimit => ?_
  refine .same_bind _ fun timeoutHeight => .same_bind _ fun timeoutTimestamp => ?_
  exact .same_bind _ fun receiptTimeout => .ok ⟨rfl, hmnemonic⟩

theorem paired_read (h : e.AgreeButSecrets e') :
    Paired (UpToSecrets SameKeyShape SameMnemonicShape) (read e) (read e') := by
  rw [read, read, h.others "EVM_RPC_URL" (by decide) (by decide),
    h.others "COSMOS_LCD_URL" (by decide) (by decide)]
  refine (Paired.mapM _ (paired_readEvm h)).bind fun evm evm' hevm => ?_
  exact (Paired.mapM _ (paired_readCosmos h)).bind fun cosmos cosmos' hcosmos => .ok ⟨hevm, hcosmos⟩

/-! ## Checking -/

theorem checkKey_congr {k k' : Secret} (h : SameKeyShape k k') : checkKey k = checkKey k' := by
  have hshape : (k.expose.utf8ByteSize = 66 && "0x".isPrefixOf k.expose) =
      (k'.expose.utf8ByteSize = 66 && "0x".isPrefixOf k'.expose) := by
    rw [Bool.eq_iff_iff, Bool.and_eq_true, Bool.and_eq_true, decide_eq_true_iff, decide_eq_true_iff]
    exact h
  rw [checkKey, checkKey, hshape]

theorem checkEvm_congr {c c' : EvmConfig} (h : c.UpToKey SameKeyShape c') :
    checkEvm c = checkEvm c' := by
  obtain ⟨url, chainId, key, receiptTimeout, timeoutHeight, timeoutTimestamp⟩ := c
  obtain ⟨url', chainId', key', receiptTimeout', timeoutHeight', timeoutTimestamp'⟩ := c'
  obtain ⟨hothers, hkey⟩ := h
  cases hothers
  cases hkey with
  | none => rfl
  | some hk => simp only [checkEvm, checkKey_congr hk]

theorem checkCosmos_congr {c c' : CosmosConfig} (h : c.UpToMnemonic SameMnemonicShape c') :
    checkCosmos c = checkCosmos c' := by
  obtain ⟨url, chainId, mnemonic, addressPrefix, path, feeDenom, gasPrice, gasLimit, native,
    timeoutHeight, timeoutTimestamp, receiptTimeout⟩ := c
  obtain ⟨url', chainId', mnemonic', addressPrefix', path', feeDenom', gasPrice', gasLimit',
    native', timeoutHeight', timeoutTimestamp', receiptTimeout'⟩ := c'
  obtain ⟨hothers, hmnemonic⟩ := h
  cases hothers
  cases hmnemonic with
  | none => rfl
  | some hm =>
      have hwords : decide (12 ≤ (Blank.words _).length) = decide (12 ≤ (Blank.words _).length) :=
        decide_eq_decide.2 hm
      simp only [checkCosmos, hwords]

theorem check_congr {c c' : Config} (h : c.UpToSecrets SameKeyShape SameMnemonicShape c') :
    check c = check c' := by
  obtain ⟨evm, cosmos⟩ := c
  obtain ⟨evm', cosmos'⟩ := c'
  obtain ⟨hevm, hcosmos⟩ := h
  cases hevm with
  | none =>
      cases hcosmos with
      | none => rfl
      | some hcosmos => simp only [check, checkCosmos_congr hcosmos]
  | some hevm =>
      cases hcosmos with
      | none => simp only [check, checkEvm_congr hevm]
      | some hcosmos => simp only [check, checkEvm_congr hevm, checkCosmos_congr hcosmos]

/-! ## Showing -/

section

variable {K M : Secret → Secret → Prop} {c c' : Config}

theorem UpToSecrets.shownAlike (h : c.UpToSecrets K M c') :
    c.UpToSecrets Secret.ShownAlike Secret.ShownAlike c' where
  evm := rel_mono h.evm fun _ _ hc =>
    ⟨hc.others, rel_mono hc.key fun k k' _ => k.shownAlike k'⟩
  cosmos := rel_mono h.cosmos fun _ _ hc =>
    ⟨hc.others, rel_mono hc.mnemonic fun m m' _ => m.shownAlike m'⟩

theorem repr_evm_eq {s s' : Option EvmConfig} (h : Option.Rel (EvmConfig.UpToKey K) s s') :
    repr s = repr s' := by
  cases h with
  | none => rfl
  | @some c c' hc =>
      obtain ⟨url, chainId, key, receiptTimeout, timeoutHeight, timeoutTimestamp⟩ := c
      obtain ⟨url', chainId', key', receiptTimeout', timeoutHeight', timeoutTimestamp'⟩ := c'
      obtain ⟨hothers, hkey⟩ := hc
      cases hothers
      cases hkey <;> rfl

theorem repr_cosmos_eq {s s' : Option CosmosConfig}
    (h : Option.Rel (CosmosConfig.UpToMnemonic M) s s') : repr s = repr s' := by
  cases h with
  | none => rfl
  | @some c c' hc =>
      obtain ⟨url, chainId, mnemonic, addressPrefix, path, feeDenom, gasPrice, gasLimit, native,
        timeoutHeight, timeoutTimestamp, receiptTimeout⟩ := c
      obtain ⟨url', chainId', mnemonic', addressPrefix', path', feeDenom', gasPrice', gasLimit',
        native', timeoutHeight', timeoutTimestamp', receiptTimeout'⟩ := c'
      obtain ⟨hothers, hmnemonic⟩ := hc
      cases hothers
      cases hmnemonic <;> rfl

/-- A configuration that is shown as a whole tells nothing of its secrets either. -/
theorem UpToSecrets.repr_eq (h : c.UpToSecrets K M c') : repr c = repr c' := by
  have hfields : ∀ s : Config, repr s = instReprConfig.repr ⟨s.evm, s.cosmos⟩ 0 := fun _ => rfl
  simp only [hfields, instReprConfig.repr]
  rw [repr_evm_eq h.evm, repr_cosmos_eq h.cosmos]

end

/-! ## Loading -/

/-- Two environments that agree on all but the secrets, and on the shape of these, are loaded alike:
either both give configurations, which agree on all but the secrets and are shown alike, part by
part and as a whole, or both are refused for the same reason. -/
theorem ofEnvironment_of_agree {e e' : Environment} (h : e.AgreeButSecrets e') :
    (∃ c c', ofEnvironment e = .ok c ∧ ofEnvironment e' = .ok c' ∧
      c.UpToSecrets Secret.ShownAlike Secret.ShownAlike c' ∧ repr c = repr c') ∨
    ∃ f, ofEnvironment e = .error f ∧ ofEnvironment e' = .error f := by
  have hpaired : Paired (UpToSecrets SameKeyShape SameMnemonicShape) (ofEnvironment e)
      (ofEnvironment e') := by
    refine (paired_read h).bind fun c c' hc => ?_
    rw [check_congr hc]
    exact .same_bind _ fun _ => .ok hc
  generalize ofEnvironment e = x at hpaired
  generalize ofEnvironment e' = x' at hpaired
  cases hpaired with
  | ok hc => exact .inl ⟨_, _, rfl, rfl, hc.shownAlike, hc.repr_eq⟩
  | error f => exact .inr ⟨f, rfl, rfl⟩

/-! ## A sample -/

def sampleEnvironment (key mnemonic : String) : Environment :=
  [("EVM_RPC_URL", "http://[::1]:8545"), ("EVM_CHAIN_ID", "31337"), ("EVM_PRIVATE_KEY", key),
    ("COSMOS_LCD_URL", "http://[::1]:1317"), ("COSMOS_CHAIN_ID", "union-devnet-1"),
    ("COSMOS_MNEMONIC", mnemonic)]

theorem agree_sampleEnvironment {key key' mnemonic mnemonic' : String}
    (hkey : Secret.KeyShaped key ↔ Secret.KeyShaped key')
    (hmnemonic : Secret.MnemonicShaped mnemonic ↔ Secret.MnemonicShaped mnemonic') :
    (sampleEnvironment key mnemonic).AgreeButSecrets (sampleEnvironment key' mnemonic') where
  others name hk hm := by
    have hk : (name == "EVM_PRIVATE_KEY") = false := beq_eq_false_iff_ne.2 hk
    have hm : (name == "COSMOS_MNEMONIC") = false := beq_eq_false_iff_ne.2 hm
    simp only [sampleEnvironment, Environment.get?, List.lookup_cons, hk, hm]
  key := .some hkey
  mnemonic := .some hmnemonic

def sampleKey : String := "0xac0974bec39a17e36ba4a6b4d238ff944bacb478cbed5efcae784d7bf4f2ff80"

def otherKey : String := "0x59c6995e998f97a5a0044966f0945389dc9e86dae88c7a8412f4603b6b78690d"

def sampleMnemonic : String :=
  "abandon abandon abandon abandon abandon abandon abandon abandon abandon abandon abandon about"

def otherMnemonic : String :=
  "test test test test test test test test test test test junk"

theorem ofEnvironment_samples :
    ∃ c c', ofEnvironment (sampleEnvironment sampleKey sampleMnemonic) = .ok c ∧
      ofEnvironment (sampleEnvironment otherKey otherMnemonic) = .ok c' ∧
      c.UpToSecrets Secret.ShownAlike Secret.ShownAlike c' ∧ repr c = repr c' := by
  have hkey : Secret.KeyShaped sampleKey ↔ Secret.KeyShaped otherKey := by
    unfold Secret.KeyShaped
    decide +kernel
  have hmnemonic : Secret.MnemonicShaped sampleMnemonic ↔ Secret.MnemonicShaped otherMnemonic := by
    unfold Secret.MnemonicShaped
    decide +kernel
  have hloads : (ofEnvironment (sampleEnvironment sampleKey sampleMnemonic)).isOk = true := by
    decide +kernel
  refine (ofEnvironment_of_agree (agree_sampleEnvironment hkey hmnemonic)).resolve_right ?_
  rintro ⟨f, hf, -⟩
  rw [hf] at hloads
  cases hloads

end Config
end TokenBridge
