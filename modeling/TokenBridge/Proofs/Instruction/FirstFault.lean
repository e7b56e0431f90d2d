import TokenBridge.Proofs.Instruction.Canonical

set_option autoImplicit false

/-! # Which fault is reported

Envelopes may come under any tags. Reading meets them in the order in which they stand, each before
those in it, and reports the first whose tags are not admitted; what that one contains is not looked
at (`decode_wireTree`). A reader that reports the first of what it meets does so wherever it stands
(`Reports.bind`, `Reports.mapM`), so that the whole follows from what is read under one envelope.
-/

namespace TokenBridge.Instruction

/-! ## Trees under any tags -/

/-- What stands on the wire: under any tags the content of an order, that of a batch, or any
bytes. -/
inductive WireTree
  | order (version opcode : UInt8) (o : Order)
  | batch (version opcode : UInt8) (items : List WireTree)
  | raw (version opcode : UInt8) (operand : Bytes)

/-- An envelope that is met: the number of batches in which it stands, and its tags. -/
structure Visit where
  above : Nat
  version : UInt8
  opcode : UInt8
  deriving DecidableEq, Repr

namespace Visit

def Admissible (v : Visit) : Prop :=
  v.opcode = 3 ∧ v.version ≤ 1 ∨ v.opcode = 2 ∧ v.version = 0 ∧ v.above < 8

instance (v : Visit) : Decidable v.Admissible := inferInstanceAs (Decidable (_ ∨ _))

/-- What is wrong with an envelope that is not admissible. A version that is not known comes before
the depth. -/
def fault (v : Visit) : Fault :=
  if v.opcode ≠ 3 ∧ v.opcode ≠ 2 then .unknownOpcode v.opcode
  else if v.opcode = 2 ∧ v.version = 0 then .tooDeep
  else .unsupportedVersion v.opcode v.version

end Visit

namespace WireTree

mutual

def envelope : WireTree → Envelope
  | order version opcode o => ⟨version, opcode, Abi.encode Order.fields o.toFields⟩
  | batch version opcode items => ⟨version, opcode, Envelope.batchOperand (envelopes items)⟩
  | raw version opcode operand => ⟨version, opcode, operand⟩

def envelopes : List WireTree → List Envelope
  | [] => []
  | w :: rest => envelope w :: envelopes rest

end

def encode (w : WireTree) : Bytes := w.envelope.encode

mutual

/-- The envelopes in the order in which they are met. -/
def visits (above : Nat) : WireTree → List Visit
  | order version opcode _ => [⟨above, version, opcode⟩]
  | batch version opcode items => ⟨above, version, opcode⟩ :: visitsOf (above + 1) items
  | raw version opcode _ => [⟨above, version, opcode⟩]

def visitsOf (above : Nat) : List WireTree → List Visit
  | [] => []
  | w :: rest => visits above w ++ visitsOf above rest

end

mutual

/-- Under tags that are admissible stands what they announce. Nothing is said of what stands under
other tags. -/
def Fits (above : Nat) : WireTree → Prop
  | order version opcode _ => Visit.Admissible ⟨above, version, opcode⟩ → opcode = 3
  | batch version opcode items =>
      Visit.Admissible ⟨above, version, opcode⟩ → opcode = 2 ∧ FitAll (above + 1) items
  | raw version opcode _ => ¬Visit.Admissible ⟨above, version, opcode⟩

def FitAll (above : Nat) : List WireTree → Prop
  | [] => True
  | w :: rest => Fits above w ∧ FitAll above rest

end

/-- What holds of all leaves, and of each batch if it holds of its items, holds of all trees. -/
@[elab_as_elim]
theorem induct {P : WireTree → Prop} (order : ∀ version opcode o, P (order version opcode o))
    (batch : ∀ version opcode items, (∀ w ∈ items, P w) → P (batch version opcode items))
    (raw : ∀ version opcode operand, P (raw version opcode operand)) : ∀ w, P w
  | .order version opcode o => order version opcode o
  | .batch version opcode items =>
      batch version opcode items fun w _ => induct order batch raw w
  | .raw version opcode operand => raw version opcode operand

theorem envelopes_eq_map (items : List WireTree) : envelopes items = items.map envelope := by
  induction items with
  | nil => rfl
  | cons w rest ih => exact congrArg (envelope w :: ·) ih

theorem visitsOf_eq_flatMap (above : Nat) (items : List WireTree) :
    visitsOf above items = items.flatMap (visits above) := by
  induction items with
  | nil => rfl
  | cons w rest ih => rw [visitsOf, List.flatMap_cons, ih]

theorem fits_of_fitAll {above : Nat} {items : List WireTree} (h : FitAll above items) :
    ∀ w ∈ items, w.Fits above := by
  induction items with
  | nil => exact fun w hw => nomatch hw
  | cons w rest ih => exact List.forall_mem_cons.2 ⟨h.1, ih h.2⟩

/-- An item of a batch is no longer than the content of the batch. -/
theorem encode_length_le {items : List WireTree} {w : WireTree} (hw : w ∈ items) :
    w.encode.length ≤ (Envelope.batchOperand (envelopes items)).length := by
  rw [envelopes_eq_map]
  exact length_le_encode_batch (List.mem_map_of_mem (List.mem_map_of_mem hw))

end WireTree

/-! ## Reporting the first fault -/

/-- The outcome of reading what is met: there is one if and only if everything is admissible. -/
inductive Reports {α : Type} : List Visit → Except Fault α → Prop
  | ok {vs : List Visit} {a : α} (h : ∀ v ∈ vs, v.Admissible) : Reports vs (.ok a)
  | error {before after : List Visit} {v : Visit} (hbefore : ∀ u ∈ before, u.Admissible)
      (hv : ¬v.Admissible) : Reports (before ++ v :: after) (.error v.fault)

namespace Reports

variable {α β : Type} {vs vs' : List Visit}

theorem first {v : Visit} (hv : ¬v.Admissible) :
    Reports (v :: vs) (.error v.fault : Except Fault α) := by
  rw [← List.nil_append (v :: vs)]
  exact .error (fun _ hu => nomatch hu) hv

/-- What is met later is reported only if nothing has been before. -/
theorem bind {x : Except Fault α} {f : α → Except Fault β} (hx : Reports vs x)
    (hf : ∀ a, Reports vs' (f a)) : Reports (vs ++ vs') (x >>= f) := by
  cases hx with
  | @error before after v hbefore hv =>
      -- What is met later stands behind what is reported.
      rw [List.append_assoc, List.cons_append]
      exact .error hbefore hv
  | @ok _ a h =>
      have hall := hf a
      show Reports _ (f a)
      generalize f a = y at hall
      cases hall with
      | ok h' => exact .ok (List.forall_mem_append.2 ⟨h, h'⟩)
      | error hbefore hv =>
          rw [← List.append_assoc]
          exact .error (List.forall_mem_append.2 ⟨h, hbefore⟩) hv

theorem map {x : Except Fault α} (hx : Reports vs x) (f : α → β) : Reports vs (x.map f) := by
  cases hx with
  | ok h => exact .ok h
  | error hbefore hv => exact .error hbefore hv

theorem cons {x : Except Fault α} {v : Visit} (hv : v.Admissible) (hx : Reports vs x) :
    Reports (v :: vs) x := by
  cases hx with
  | ok h => exact .ok (List.forall_mem_cons.2 ⟨hv, h⟩)
  | error hbefore hv' => exact .error (List.forall_mem_cons.2 ⟨hv, hbefore⟩) hv'

theorem mapM {γ : Type} {f : γ → Except Fault α} {visits : γ → List Visit} {xs : List γ}
    (h : ∀ x ∈ xs, Reports (visits x) (f x)) : Reports (xs.flatMap visits) (xs.mapM f) := by
  induction xs with
  | nil => exact .ok fun v hv => nomatch hv
  | cons x xs ih =>
      obtain ⟨hx, hxs⟩ := List.forall_mem_cons.1 h
      rw [List.flatMap_cons, List.mapM_cons]
      exact hx.bind fun a => (ih hxs).map (a :: ·)

theorem exists_ok_iff {x : Except Fault α} (hx : Reports vs x) :
    (∃ a, x = .ok a) ↔ ∀ v ∈ vs, v.Admissible := by
  cases hx with
  | @ok _ a h => exact ⟨fun _ => h, fun _ => ⟨a, rfl⟩⟩
  | error _ hv =>
      constructor
      · rintro ⟨_, ⟨⟩⟩
      · exact fun h => absurd (h _ (List.mem_append_right _ List.mem_cons_self)) hv

theorem eq_error {x : Except Fault α} {before after : List Visit} {v : Visit}
    (hx : Reports (before ++ v :: after) x) (hbefore : ∀ u ∈ before, u.Admissible)
    (hv : ¬v.Admissible) : x = .error v.fault := by
  generalize hvs : before ++ v :: after = vs at hx
  cases hx with
  | ok h => exact absurd (h v (hvs ▸ List.mem_append_right _ List.mem_cons_self)) hv
  | error hbefore' hv' => rw [Outcome.eq_of_first hvs hbefore hv hbefore' hv']

end Reports

/-! ## One envelope -/

section

variable {above levels : Nat} {version opcode : UInt8} {operand : Bytes}

/-- Tags that are not admissible are reported, whatever stands under them. -/
theorem ofEnvelope_of_not_admissible (hlevels : above + levels = 8)
    (h : ¬Visit.Admissible ⟨above, version, opcode⟩) :
    ofEnvelope levels ⟨version, opcode, operand⟩ =
      .error (Visit.fault ⟨above, version, opcode⟩) := by
  rw [ofEnvelope.eq_def]
  dsimp only [Visit.fault]
  -- The cases are those in which the tags are looked at: the opcode, the version, the depth.
  by_cases horder : opcode = orderOpcode
  · have hversion : 1 < version := UInt8.not_le.1 fun hv => h (.inl ⟨horder, hv⟩)
    have hknown : ¬(opcode ≠ 3 ∧ opcode ≠ 2) := fun hne => hne.1 horder
    have hbatch : ¬(opcode = 2 ∧ version = 0) := fun hb =>
      batchOpcode_ne_orderOpcode (hb.1.symm.trans horder)
    rw [if_pos horder, if_pos hversion, if_neg hknown, if_neg hbatch]
  · by_cases hbatch : opcode = batchOpcode
    · have hknown : ¬(opcode ≠ 3 ∧ opcode ≠ 2) := fun hne => hne.2 hbatch
      rw [if_neg horder, if_pos hbatch, if_neg hknown]
      by_cases hversion : version = 0
      · -- With a good version it is the depth, and no level is left.
        have habove : ¬above < 8 := fun ha => h (.inr ⟨hbatch, hversion, ha⟩)
        obtain rfl : levels = 0 := by omega
        rw [if_neg (not_not.2 hversion), if_pos ⟨hbatch, hversion⟩]
      · rw [if_pos hversion, if_neg fun hb => hversion hb.2]
    · rw [if_neg horder, if_neg hbatch, if_pos ⟨horder, hbatch⟩]

theorem ofEnvelope_of_order (levels : Nat) (hopcode : opcode = 3)
    (h : Visit.Admissible ⟨above, version, opcode⟩) :
    ofEnvelope levels ⟨version, opcode, operand⟩ = (decodeOrder operand).map order := by
  have hversion : version ≤ 1 := by
    rcases h with ⟨-, hversion⟩ | ⟨hbatch, -⟩
    · exact hversion
    · exact absurd (hbatch.symm.trans hopcode) batchOpcode_ne_orderOpcode
  have hopcode : opcode = orderOpcode := hopcode
  rw [ofEnvelope.eq_def]
  dsimp only
  rw [if_pos hopcode, if_neg (UInt8.not_lt.2 hversion)]

theorem ofEnvelope_of_batch (hlevels : above + levels = 8) (hopcode : opcode = 2)
    (h : Visit.Admissible ⟨above, version, opcode⟩) : ∃ below, above + 1 + below = 8 ∧
      ofEnvelope levels ⟨version, opcode, operand⟩ = decodeBatch operand >>= fun es =>
        es.mapM (ofEnvelope below) >>= fun items => pure (batch items) := by
  obtain ⟨rfl, habove⟩ : version = 0 ∧ above < 8 := by
    rcases h with ⟨horder, -⟩ | ⟨-, h⟩
    · exact absurd (hopcode.symm.trans horder) batchOpcode_ne_orderOpcode
    · exact h
  obtain ⟨below, rfl⟩ : ∃ below, levels = below + 1 := ⟨7 - above, by omega⟩
  obtain rfl : opcode = batchOpcode := hopcode
  exact ⟨below, by omega, ofEnvelope_batch_succ below operand⟩

end

/-! ## Trees -/

/-- Under an envelope the first fault is reported of all that is met there. -/
theorem reports_ofEnvelope {w : WireTree} {above levels : Nat} (hlevels : above + levels = 8)
    (hfits : w.Fits above) (hlength : w.encode.length < 2 ^ 63) :
    Reports (w.visits above) (ofEnvelope levels w.envelope) := by
  -- What is left of the levels goes down as the batches above go up.
  induction w using WireTree.induct generalizing above levels with
  | order version opcode o =>
      rw [WireTree.visits, WireTree.envelope]
      by_cases hv : Visit.Admissible ⟨above, version, opcode⟩
      · have hoperand := (WireTree.order version opcode o).envelope.operand_length_le
        rw [ofEnvelope_of_order levels (hfits hv) hv,
          decodeOrder_encode (hoperand.trans_lt hlength)]
        exact .ok (List.forall_mem_singleton.2 hv)
      · rw [ofEnvelope_of_not_admissible hlevels hv]
        exact .first hv
  | batch version opcode items ih =>
      rw [WireTree.visits, WireTree.envelope]
      by_cases hv : Visit.Admissible ⟨above, version, opcode⟩
      · have hoperand := (WireTree.batch version opcode items).envelope.operand_length_le.trans_lt
          hlength
        obtain ⟨hopcode, hitems⟩ := hfits hv
        -- The items stand under one more batch, with one level less.
        obtain ⟨below, hbelow, hopen⟩ := ofEnvelope_of_batch hlevels hopcode hv
        have hreports : ∀ w ∈ items, Reports (w.visits (above + 1)) (ofEnvelope below w.envelope) :=
          fun w hw => ih w hw hbelow (WireTree.fits_of_fitAll hitems w hw)
            ((WireTree.encode_length_le hw).trans_lt hoperand)
        rw [hopen, decodeBatch_batchOperand hoperand, WireTree.visitsOf_eq_flatMap,
          WireTree.envelopes_eq_map]
        show Reports _ ((items.map WireTree.envelope).mapM (ofEnvelope below) >>= fun items =>
          pure (batch items))
        rw [List.mapM_map]
        exact .cons hv ((Reports.mapM hreports).map batch)
      · rw [ofEnvelope_of_not_admissible hlevels hv]
        exact .first hv
  | raw version opcode operand =>
      rw [WireTree.visits, WireTree.envelope, ofEnvelope_of_not_admissible hlevels hfits]
      exact .first hfits

theorem reports_decode {w : WireTree} (hfits : w.Fits 0) (hlength : w.encode.length < 2 ^ 63) :
    Reports (w.visits 0) (decode w.encode) := by
  show Reports _ (Envelope.decode w.envelope.encode >>= ofEnvelope maxDepth)
  rw [decodeEnvelope_encode hlength]
  exact reports_ofEnvelope rfl hfits hlength

/-- A tree that was written under any tags is read if and only if all its envelopes are admissible:
those of orders have a version up to one; those of batches have version zero and stand in less than
eight batches. Otherwise what is wrong with the first that is not admissible is reported, in the
order in which the envelopes stand, each before those in it. -/
theorem decode_wireTree {w : WireTree} (hfits : w.Fits 0) (hlength : w.encode.length < 2 ^ 60) :
    ((∃ i, decode w.encode = .ok i) ↔ ∀ v ∈ w.visits 0, v.Admissible) ∧
      ∀ before v after, w.visits 0 = before ++ v :: after → (∀ u ∈ before, u.Admissible) →
        ¬v.Admissible → decode w.encode = .error v.fault := by
  have hreports := reports_decode hfits (hlength.trans (by decide))
  refine ⟨hreports.exists_ok_iff, fun before v after hvisits hbefore hv => ?_⟩
  rw [hvisits] at hreports
  exact hreports.eq_error hbefore hv

/-! ### A sample

Behind an order stand two envelopes with bad tags; in the first of them stands another one.
-/

def sampleWireTree : WireTree :=
  .batch 0 2 [.order 0 3 sampleOrder, .batch 9 2 [.raw 0 77 []], .raw 0 5 [1, 2]]

theorem fits_sampleWireTree : sampleWireTree.Fits 0 := by
  have hversion : ¬Visit.Admissible ⟨1, 9, 2⟩ := by decide
  have hopcode : ¬Visit.Admissible ⟨1, 0, 5⟩ := by decide
  exact fun _ => ⟨rfl, fun _ => rfl, fun h => absurd h hversion, hopcode, trivial⟩

theorem decode_sampleWireTree : decode sampleWireTree.encode = .error (.unsupportedVersion 2 9) :=
  (decode_wireTree fits_sampleWireTree (by decide +kernel)).2 [⟨0, 0, 2⟩, ⟨1, 0, 3⟩] ⟨1, 9, 2⟩
    [⟨2, 0, 77⟩, ⟨1, 0, 5⟩] rfl (by decide) (by decide)

end TokenBridge.Instruction
