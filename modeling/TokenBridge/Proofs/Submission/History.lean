import TokenBridge.Proofs.Conversation
import TokenBridge.Simulation.Writer

set_option autoImplicit false

/-! # Histories of submissions

A caller advances a submission as often as it likes, starting from nothing. It goes on from the
state that came back, or, if it was stopped on the way, from the last state that was published.
`History` collects all that can happen then, with the events in order. `Invariant` is the shape in
which facts on histories are proved: what holds of the state and of the events so far, and a law
for each event.
-/

namespace TokenBridge.Submission

open Dialogue

/-! ## Events -/

/-- What was asked of the surroundings, and the answer. -/
abbrev Event := Exchange Effect.Answer

abbrev Log := List Event

/-- A call of the chain, and its answer. -/
abbrev answered (c : WriterCall) (r : c.Answer) : Event := ⟨.call c, r⟩

abbrev salted (salt : Salt) : Event := ⟨.drawSalt, salt⟩

abbrev published (s : State) : Event := ⟨.publish s, ()⟩

section Questions

variable {law : Law Effect.Answer} {h : Log}

@[simp] theorem obeys_call {c : WriterCall} {post : c.Answer → Log → Prop} :
    (call c).Obeys law post h ↔ ∀ r, law h (answered c r) ∧ post r (h ++ [answered c r]) := Iff.rfl

@[simp] theorem obeys_drawSalt {post : Salt → Log → Prop} :
    drawSalt.Obeys law post h ↔
      ∀ salt, law h (salted salt) ∧ post salt (h ++ [salted salt]) := Iff.rfl

@[simp] theorem obeys_publish {s : State} {post : Unit → Log → Prop} :
    (publish s).Obeys law post h ↔ law h (published s) ∧ post () (h ++ [published s]) :=
  ⟨fun hp => hp (), fun hp _ => hp⟩

end Questions

/-! ## The last call -/

/-- If the last event is a call, `P` holds of it. -/
def LastCall (P : (c : WriterCall) → c.Answer → Prop) (h : Log) : Prop :=
  ∀ c x, h.getLast? = some (answered c x) → P c x

/-- The last event is no call. -/
def Quiet (h : Log) : Prop := LastCall (fun _ _ => False) h

theorem Quiet.lastCall {h : Log} (hh : Quiet h) (P : (c : WriterCall) → c.Answer → Prop) :
    LastCall P h :=
  fun c x heq => (hh c x heq).elim

theorem lastCall_answered {P : (c : WriterCall) → c.Answer → Prop} {h : Log} {c : WriterCall}
    {x : c.Answer} (hx : P c x) : LastCall P (h ++ [answered c x]) := by
  intro c' x' heq
  rw [List.getLast?_concat] at heq
  cases heq
  exact hx

theorem quiet_nil : Quiet [] := fun _ _ heq => nomatch heq

theorem quiet_snoc {h : Log} {e : Event} (he : ∀ c x, e ≠ answered c x) : Quiet (h ++ [e]) := by
  intro c x heq
  rw [List.getLast?_concat] at heq
  exact he c x (Option.some.inj heq)

theorem quiet_published (h : Log) (s : State) : Quiet (h ++ [published s]) :=
  quiet_snoc fun _ _ heq => nomatch heq

theorem quiet_salted (h : Log) (salt : Salt) : Quiet (h ++ [salted salt]) :=
  quiet_snoc fun _ _ heq => nomatch heq

/-! ## What a caller can see -/

/-- The state that a caller holds after the events of a log, if all transfers that it passes are
`passed` ones. -/
inductive History (writer : ChainFamily) (passed : Transfer → Prop) : State → Log → Prop
  | start : History writer passed .empty []
  /-- A call came to its end and returned a state. -/
  | returned {t : Transfer} {s s' : State} {h new : Log} (hs : History writer passed s h)
      (ht : passed t) (hl : (advance writer t s).Leads new (.done (some s'))) :
      History writer passed s' (h ++ new)
  /-- The caller was stopped right after a state was published, and has no other. -/
  | stopped {t : Transfer} {s s' : State} {h new : Log} {rest : Talk (Option State)}
      (hs : History writer passed s h) (ht : passed t)
      (hl : (advance writer t s).Leads (new ++ [published s']) rest) :
      History writer passed s' (h ++ (new ++ [published s']))

/-! ## Invariants -/

/-- The law, with the invariant for each state when it is published. -/
def keeping (inv : State → Log → Prop) (law : Law Effect.Answer) : Law Effect.Answer :=
  fun h e => law h e ∧ ∀ s, e = published s → inv s (h ++ [e])

/-- `inv` holds of all that a caller can hold, and every event is lawful. -/
structure Invariant (writer : ChainFamily) (passed : Transfer → Prop) (law : Law Effect.Answer)
    (inv : State → Log → Prop) : Prop where
  start : inv .empty []
  advance : ∀ (t : Transfer) (s : State) (h : Log), passed t → inv s h →
    (advance writer t s).Obeys (keeping inv law) (fun r h => ∀ s, r = some s → inv s h) h

namespace Invariant

variable {writer : ChainFamily} {passed : Transfer → Prop} {law : Law Effect.Answer}
  {inv : State → Log → Prop} {s : State} {h : Log}

theorem of_history (hi : Invariant writer passed law inv) (hh : History writer passed s h) :
    inv s h ∧ Lawful (keeping inv law) h := by
  induction hh with
  | start => exact ⟨hi.start, lawful_nil _⟩
  | returned _ ht hl ih =>
      obtain ⟨hlaw, hend⟩ := (hi.advance _ _ _ ht ih.1).leads hl ih.2
      exact ⟨hend _ rfl, hlaw⟩
  | @stopped t s s' h new _ _ ht hl ih =>
      obtain ⟨hlaw, -⟩ := (hi.advance _ _ _ ht ih.1).leads hl ih.2
      -- The state was published last, and the law has kept the invariant for it.
      have hpub := (hlaw (h ++ new) (published s') [] (by simp)).2 s' rfl
      exact ⟨by simpa using hpub, hlaw⟩

theorem mono {law' : Law Effect.Answer} (hi : Invariant writer passed law inv)
    (himp : ∀ h e, law h e → law' h e) : Invariant writer passed law' inv where
  start := hi.start
  advance t s h ht hs := (hi.advance t s h ht hs).mono (fun h e he => ⟨himp h e he.1, he.2⟩)
    (fun _ _ hs => hs)

/-- What is kept by each transfer for itself is kept when they take turns. -/
theorem each {law : Transfer → Law Effect.Answer} {t : Transfer} (ht : passed t)
    (hi : ∀ t, passed t → Invariant writer (· = t) (law t) inv) :
    Invariant writer passed (fun h e => ∃ t, passed t ∧ law t h e) inv where
  start := (hi t ht).start
  advance t s h ht hs := ((hi t ht).mono fun _ _ he => ⟨t, ht, he⟩).advance t s h rfl hs

/-- Whatever has happened so far, the call that is under way included, was lawful. -/
theorem lawful (hi : Invariant writer passed law inv) (hh : History writer passed s h)
    {t : Transfer} (ht : passed t) {new : Log} {rest : Talk (Option State)}
    (hl : (Submission.advance writer t s).Leads new rest) : Lawful law (h ++ new) := by
  obtain ⟨hs, hlaw⟩ := hi.of_history hh
  exact ((hi.advance t s h ht hs).leads hl hlaw).1.mono fun _ _ hx => hx.1

end Invariant

/-! ## Chains that cannot be served -/

theorem advance_eq_abandon {writer : ChainFamily} {t : Transfer} (s : State)
    (h : writer ≠ t.source ∨ t.source = .aptos) : advance writer t s = abandon := by
  rw [advance]
  split
  · rfl
  · next hne =>
      have haptos : t.source = .aptos := h.resolve_left hne
      rw [haptos]
      rfl

/-- Where nothing can be served, nothing happens but that submissions are given up. -/
theorem invariant_abandon {writer : ChainFamily} {passed : Transfer → Prop}
    (h : ∀ t, passed t → writer ≠ t.source ∨ t.source = .aptos) :
    Invariant writer passed (fun _ e => e = published .empty) (fun s _ => s = .empty) where
  start := rfl
  advance t s log ht _ := by
    rw [advance_eq_abandon s (h t ht)]
    intro _
    refine ⟨⟨rfl, fun s heq => ?_⟩, fun _ heq => nomatch heq⟩
    cases heq
    rfl

/-! ## A sample

A transfer that needs two approvals of one token, on a simulated writer on which the first receipt
fails to come.
-/

def sample : Transfer := ⟨.evm, .batch [], ⟨7, "bridge"⟩, [⟨"token", 5⟩, ⟨"token", 8⟩], []⟩

def sampleWorld : Simulation.World :=
  ⟨(Simulation.Writer.new .evm [] true).failNext .awaitReceipt 1, 0, []⟩

abbrev samplePartner := Simulation.World.partner fun _ => 9

/-- What is said up to the failure, the state that comes back, and the world then. -/
def sampleLog : Log := (advance .evm sample .empty).transcript samplePartner sampleWorld

def sampleRun : Option State × Simulation.World :=
  (advance .evm sample .empty).run samplePartner sampleWorld

def sampleState : State := sampleRun.1.getD .empty

/-- What is said when the submission is taken up again. -/
def sampleRest : Log := (advance .evm sample sampleState).transcript samplePartner sampleRun.2

theorem sample_history : History .evm (· = sample) sampleState sampleLog :=
  .returned .start rfl (leads_transcript samplePartner sampleWorld (advance .evm sample .empty))

theorem sample_leads : ∃ rest, (advance .evm sample sampleState).Leads sampleRest rest :=
  ⟨_, leads_transcript samplePartner sampleRun.2 (advance .evm sample sampleState)⟩

end TokenBridge.Submission
