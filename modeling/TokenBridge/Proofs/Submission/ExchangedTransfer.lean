import Mathlib.Data.List.Nodup
import TokenBridge.Proofs.Submission.SingleSend

set_option autoImplicit false

/-! # When the transfer is exchanged

A caller may pass another transfer each time it advances a submission. The salt is that of the
submission and stays, while what is sent is the transfer that was passed last. So one salt stands
for two transfers if and only if a transfer is exchanged between two attempts to send it
(`exchanged`).
-/

namespace TokenBridge.Submission

open Dialogue

/-! ## What is sent -/

/-- Requests that carry the same salt are the same. -/
def SaltsTellApart (log : Log) : Prop :=
  ∀ x ∈ sendsOf log, ∀ y ∈ sendsOf log, x.1.salt = y.1.salt → x.1 = y.1

/-- The first salt is drawn where there is none, and what is sent is the transfer with the one salt
that was drawn, as long as nothing was accepted. -/
structure Sends (t : Transfer) (h : Log) (e : Event) : Prop where
  drawn : ∀ salt, e = salted salt → saltsOf h = []
  sent : ∀ request answer, e = answered (.submit request) answer →
    ∃ salt, saltsOf h = [salt] ∧ request = t.request salt ∧
      ∀ x ∈ sendsOf h, ∃ report, x.2 = .error report

theorem Sole.sends {t : Transfer} {h : Log} {e : Event} (he : Sole t h e) : Sends t h e :=
  ⟨he.drawn, he.sent⟩

theorem sends_published (t : Transfer) (h : Log) (s : State) : Sends t h (published s) where
  drawn _ heq := nomatch heq
  sent _ _ heq := nomatch heq

/-- The same is known of a submission, whichever transfer of its family is passed. -/
theorem exists_invariant_sends (writer family : ChainFamily) :
    ∃ inv, ∀ t : Transfer, t.source = family → Invariant writer (· = t) (Sends t) inv := by
  by_cases hserved : writer = family ∧ family ≠ .aptos
  · obtain ⟨rfl, haptos⟩ := hserved
    cases writer with
    | evm =>
        exact ⟨_, fun t ht => (evmLane.invariant_single (fun _ => rfl) t ht).mono
          fun _ _ => Sole.sends⟩
    | cosmos =>
        exact ⟨_, fun t ht => (cosmosLane.invariant_single (fun _ => rfl) t ht).mono
          fun _ _ => Sole.sends⟩
    | aptos => exact absurd rfl haptos
  · -- Nothing is served, and so nothing but the end of the submission is published.
    refine ⟨_, fun t ht => (invariant_abandon ?_).mono ?_⟩
    · rintro _ rfl
      rw [ht]
      by_contra hall
      obtain ⟨hwriter, haptos⟩ := not_or.1 hall
      exact hserved ⟨not_not.1 hwriter, haptos⟩
    · rintro h _ rfl
      exact sends_published t h .empty

/-! ## One salt -/

variable {family : ChainFamily} {h new log : Log} {t : Transfer}
  {x : SendRequest × Except Report TxHash}

theorem mem_sendsOf_split (hx : x ∈ sendsOf log) :
    ∃ pre post, log = pre ++ answered (.submit x.1) x.2 :: post :=
  List.append_of_mem (mem_sendsOf.1 hx)

theorem length_saltsOf_of_sends
    (hlog : Lawful (fun h e => ∃ t, t.source = family ∧ Sends t h e) log) :
    (saltsOf log).length ≤ 1 := by
  refine length_saltsOf_le_one hlog ?_
  rintro h salt ⟨t, -, he⟩
  exact he.drawn salt rfl

/-- Whatever is sent carries the one salt. -/
theorem saltsOf_of_mem (hlog : Lawful (fun h e => ∃ t, t.source = family ∧ Sends t h e) log)
    (hx : x ∈ sendsOf log) : saltsOf log = [x.1.salt] := by
  obtain ⟨pre, post, hsplit⟩ := mem_sendsOf_split hx
  obtain ⟨t, -, he⟩ := hlog pre _ post hsplit
  obtain ⟨salt, hsalt, hrequest, -⟩ := he.sent _ _ rfl
  have hmem : x.1.salt ∈ saltsOf log := by
    have hpre : salted salt ∈ pre := mem_saltsOf.1 (hsalt ▸ List.mem_singleton_self salt)
    rw [hrequest, mem_saltsOf, hsplit]
    exact List.mem_append_left _ hpre
  obtain ⟨salt', hone⟩ := List.length_eq_one_iff.1
    (Nat.le_antisymm (length_saltsOf_of_sends hlog) (List.length_pos_of_mem hmem))
  rw [hone] at hmem ⊢
  rw [List.mem_singleton.1 hmem]

/-! ## Two transfers -/

/-- What was sent in `h`, and then in `new` while `t` was passed. -/
structure Exchanged (t : Transfer) (h new : Log) : Prop where
  /-- One salt is drawn at most. -/
  drawn : (saltsOf (h ++ new)).length ≤ 1
  /-- It is the salt of all requests. -/
  carried : ∀ x ∈ sendsOf (h ++ new), saltsOf (h ++ new) = [x.1.salt]
  /-- What is sent is the transfer that is passed. -/
  request : ∀ x ∈ sendsOf new, x.1 = t.request x.1.salt
  /-- It is sent only if what was sent before was refused. -/
  refused : sendsOf new ≠ [] → ∀ x ∈ sendsOf h, ∃ report, x.2 = .error report
  /-- Salts go on telling requests apart if and only if the transfer is the one that was sent
  before, or nothing is sent. -/
  apart : SaltsTellApart (h ++ new) ↔
    SaltsTellApart h ∧ (sendsOf new ≠ [] → ∀ x ∈ sendsOf h, x.1 = t.request x.1.salt)

theorem sendsOf_append (h new : Log) : sendsOf (h ++ new) = sendsOf h ++ sendsOf new :=
  List.filterMap_append

/-- With one salt on all requests, those of `new` are those of `h` if they are the same transfer. -/
theorem saltsTellApart_append
    (hcarried : ∀ x ∈ sendsOf (h ++ new), saltsOf (h ++ new) = [x.1.salt])
    (hrequest : ∀ x ∈ sendsOf new, x.1 = t.request x.1.salt) :
    SaltsTellApart (h ++ new) ↔
      SaltsTellApart h ∧ (sendsOf new ≠ [] → ∀ x ∈ sendsOf h, x.1 = t.request x.1.salt) := by
  have hsalt : ∀ x ∈ sendsOf (h ++ new), ∀ y ∈ sendsOf (h ++ new), x.1.salt = y.1.salt :=
    fun x hx y hy => (List.cons.inj ((hcarried x hx).symm.trans (hcarried y hy))).1
  rw [sendsOf_append] at hsalt
  rw [SaltsTellApart, sendsOf_append]
  constructor
  · intro hall
    refine ⟨fun x hx y hy => hall x (List.mem_append_left _ hx) y (List.mem_append_left _ hy), ?_⟩
    intro hne x hx
    obtain ⟨y, hy⟩ := List.exists_mem_of_ne_nil _ hne
    have hxy := hsalt x (List.mem_append_left _ hx) y (List.mem_append_right _ hy)
    calc x.1
        = y.1 := hall x (List.mem_append_left _ hx) y (List.mem_append_right _ hy) hxy
      _ = t.request y.1.salt := hrequest y hy
      _ = t.request x.1.salt := by rw [hxy]
  · rintro ⟨hbefore, hsame⟩
    -- If anything is sent in `new`, all requests are that of the transfer.
    by_cases hne : sendsOf new = []
    · rwa [hne, List.append_nil]
    · have hall : ∀ x ∈ sendsOf h ++ sendsOf new, x.1 = t.request x.1.salt := by
        intro x hx
        rcases List.mem_append.1 hx with hx | hx
        · exact hsame hne x hx
        · exact hrequest x hx
      intro x hx y hy hxy
      rw [hall x hx, hall y hy, hxy]

/-- However a submission is advanced, with whatever transfers of one family: it draws one salt at
most, which all its requests carry, and what is sent is the transfer that is passed. So the salts
tell the requests apart if and only if no transfer was exchanged for another one between two
attempts to send it. -/
theorem exchanged {writer family : ChainFamily} {t : Transfer} (ht : t.source = family) {s : State}
    {h new : Log} {rest : Talk (Option State)} (hh : History writer (·.source = family) s h)
    (hl : (advance writer t s).Leads new rest) : Exchanged t h new := by
  obtain ⟨inv, hinv⟩ := exists_invariant_sends writer family
  -- Of the past it is known that each event is lawful for some transfer, of the call under way that
  -- it is lawful for `t`.
  have hlog := (Invariant.each ht hinv).lawful hh ht hl
  have hnow : ∀ pre e post, new = pre ++ e :: post → Sends t (h ++ pre) e := by
    intro pre e post hsplit
    obtain ⟨hs, -⟩ := (Invariant.each ht hinv).of_history hh
    exact (((hinv t ht).advance t s h rfl hs).admits hl hsplit).1
  have hsent : ∀ x ∈ sendsOf new, x.1 = t.request x.1.salt ∧
      ∀ y ∈ sendsOf h, ∃ report, y.2 = .error report := by
    intro x hx
    obtain ⟨pre, post, hsplit⟩ := mem_sendsOf_split hx
    obtain ⟨salt, -, hrequest, hrefused⟩ := (hnow pre _ post hsplit).sent _ _ rfl
    refine ⟨by rw [hrequest]; rfl, fun y hy => hrefused y ?_⟩
    rw [sendsOf_append]
    exact List.mem_append_left _ hy
  have hcarried := fun x hx => saltsOf_of_mem (x := x) hlog hx
  have hrequest := fun x hx => (hsent x hx).1
  exact {
    drawn := length_saltsOf_of_sends hlog
    carried := hcarried
    request := hrequest
    refused := fun hne x hx =>
      let ⟨y, hy⟩ := List.exists_mem_of_ne_nil _ hne
      (hsent y hy).2 x hx
    apart := saltsTellApart_append hcarried hrequest }

/-! ## A sample

A transfer is refused when it is sent, and then exchanged for one on another channel.
-/

def firstTransfer : Transfer := ⟨.cosmos, .batch [], ⟨7, "bridge"⟩, [], []⟩

def secondTransfer : Transfer := { firstTransfer with endpoint := ⟨8, "bridge"⟩ }

def refusingWorld : Simulation.World :=
  ⟨(Simulation.Writer.new .cosmos [] false).failNext .submit 1, 0, []⟩

def firstLog : Log := (advance .cosmos firstTransfer .empty).transcript samplePartner refusingWorld

def firstRun : Option State × Simulation.World :=
  (advance .cosmos firstTransfer .empty).run samplePartner refusingWorld

def refusedState : State := firstRun.1.getD .empty

def secondLog : Log :=
  (advance .cosmos secondTransfer refusedState).transcript samplePartner firstRun.2

theorem first_history : History .cosmos (·.source = .cosmos) refusedState firstLog :=
  .returned .start rfl
    (leads_transcript samplePartner refusingWorld (advance .cosmos firstTransfer .empty))

theorem second_leads : ∃ rest, (advance .cosmos secondTransfer refusedState).Leads secondLog rest :=
  ⟨_, leads_transcript samplePartner firstRun.2 (advance .cosmos secondTransfer refusedState)⟩

theorem exchanged_sample : Exchanged secondTransfer firstLog secondLog := by
  obtain ⟨rest, hl⟩ := second_leads
  exact exchanged rfl first_history hl

/-- Both transfers are sent with the one salt. -/
theorem not_forall_saltsTellApart : ¬ ∀ (writer family : ChainFamily) (t : Transfer) (s : State)
    (h new : Log) (rest : Talk (Option State)), t.source = family →
    History writer (·.source = family) s h → (advance writer t s).Leads new rest →
    (saltsOf (h ++ new)).Nodup → SaltsTellApart (h ++ new) := by
  intro hall
  obtain ⟨rest, hl⟩ := second_leads
  have hsalts : saltsOf (firstLog ++ secondLog) = [9] := rfl
  have hrequests : (sendsOf (firstLog ++ secondLog)).map (·.1) =
      [firstTransfer.request 9, secondTransfer.request 9] := rfl
  have hapart := hall .cosmos .cosmos secondTransfer refusedState firstLog secondLog rest rfl
    first_history hl (hsalts ▸ List.nodup_singleton 9)
  have hsent : ∀ r ∈ [firstTransfer.request 9, secondTransfer.request 9],
      ∃ x ∈ sendsOf (firstLog ++ secondLog), x.1 = r :=
    fun r hr => List.mem_map.1 (hrequests ▸ hr)
  obtain ⟨x, hx, hfirst⟩ := hsent _ List.mem_cons_self
  obtain ⟨y, hy, hsecond⟩ := hsent _ (List.mem_cons_of_mem _ List.mem_cons_self)
  have hsame : firstTransfer.request 9 = secondTransfer.request 9 := by
    rw [← hfirst, ← hsecond]
    exact hapart x hx y hy (by rw [hfirst, hsecond]; rfl)
  exact absurd (congrArg SendRequest.endpoint hsame) (by decide)

end TokenBridge.Submission
