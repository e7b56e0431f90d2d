import TokenBridge.Proofs.Submission.Lane

set_option autoImplicit false

/-! # One transfer, one request

A submission draws one salt, when it enters the sending of the transfer, and keeps it through all
failures. So whatever is sent is one and the same request, and once a chain has accepted it nothing
is sent again.
-/

namespace TokenBridge.Submission

open Dialogue

/-! ## What is counted -/

/-- The salt that was drawn, if one was. -/
def Event.salt? : Event → Option Salt
  | ⟨.drawSalt, salt⟩ => some salt
  | _ => none

/-- The request that was sent, and what came of it. -/
def Event.send? : Event → Option (SendRequest × Except Report TxHash)
  | ⟨.call (.submit request), answer⟩ => some (request, answer)
  | _ => none

def saltsOf (h : Log) : List Salt := h.filterMap Event.salt?

def sendsOf (h : Log) : List (SendRequest × Except Report TxHash) := h.filterMap Event.send?

@[simp] theorem saltsOf_snoc (h : Log) (e : Event) :
    saltsOf (h ++ [e]) = saltsOf h ++ (Event.salt? e).toList := by
  cases he : Event.salt? e <;> simp [saltsOf, he]

@[simp] theorem sendsOf_snoc (h : Log) (e : Event) :
    sendsOf (h ++ [e]) = sendsOf h ++ (Event.send? e).toList := by
  cases he : Event.send? e <;> simp [sendsOf, he]

theorem Event.salt?_eq_some {e : Event} {salt : Salt} : e.salt? = some salt ↔ e = salted salt := by
  constructor
  · intro he
    obtain ⟨q, x⟩ := e
    cases q with
    | drawSalt => exact congrArg _ (Option.some.inj he)
    | call c => cases c <;> cases he
    | publish s => cases he
  · rintro rfl
    rfl

theorem Event.send?_eq_some {e : Event} {request : SendRequest} {answer : Except Report TxHash} :
    e.send? = some (request, answer) ↔ e = answered (.submit request) answer := by
  constructor
  · intro he
    obtain ⟨q, x⟩ := e
    cases q with
    | drawSalt | publish s => cases he
    | call c =>
        cases c with
        | submit request' =>
            obtain ⟨rfl, rfl⟩ := Prod.mk.inj (Option.some.inj he)
            rfl
        | switchChain | allowance | approve | awaitReceipt => cases he
  · rintro rfl
    rfl

theorem mem_saltsOf {salt : Salt} {h : Log} : salt ∈ saltsOf h ↔ salted salt ∈ h := by
  simp only [saltsOf, List.mem_filterMap, Event.salt?_eq_some, exists_eq_right]

theorem mem_sendsOf {request : SendRequest} {answer : Except Report TxHash} {h : Log} :
    (request, answer) ∈ sendsOf h ↔ answered (.submit request) answer ∈ h := by
  simp only [sendsOf, List.mem_filterMap, Event.send?_eq_some, exists_eq_right]

/-- The salt that a stage of the transfer carries while it is being sent. -/
def Stage.salt? {A : Type} : Stage A → Option Salt
  | .transferSubmit p => some p.context
  | _ => none

def State.salt? : State → Option Salt
  | .empty => none
  | .evm s => s.salt?
  | .cosmos s => s.salt?

/-! ## The law -/

/-- A salt that was just drawn is published next. A salt is drawn only once, every state that
carries a salt carries that one, and so does what is sent, as long as nothing was accepted. -/
structure Sole (t : Transfer) (h : Log) (e : Event) : Prop where
  entered : ∀ salt, h.getLast? = some (salted salt) → ∃ s, e = published s ∧ s.salt? = some salt
  drawn : ∀ salt, e = salted salt → saltsOf h = []
  carried : ∀ s salt, e = published s → s.salt? = some salt → saltsOf h = [salt]
  sent : ∀ request answer, e = answered (.submit request) answer →
    ∃ salt, saltsOf h = [salt] ∧ request = t.request salt ∧
      ∀ x ∈ sendsOf h, ∃ report, x.2 = .error report

/-! ## The invariant -/

/-- No salt was drawn, and nothing was sent. -/
def Fresh (h : Log) : Prop := saltsOf h = [] ∧ sendsOf h = []

/-- That salt was drawn, and what was sent with it was refused. -/
def Trying (salt : Salt) (h : Log) : Prop :=
  saltsOf h = [salt] ∧ ∀ x ∈ sendsOf h, ∃ report, x.2 = .error report

/-- What is known of salts and requests at each stage. -/
def Stage.Single {A : Type} : Stage A → Log → Prop
  | .filling, h | .switchChain _, h | .before _, h => Fresh h
  | .transferSubmit p, h => p.Holds Trying (fun salt _ h => saltsOf h = [salt]) h
  | .transferReceipt _, h => (saltsOf h).length = 1

/-- The last event drew no salt. -/
def Unsalted (h : Log) : Prop := ∀ salt, h.getLast? ≠ some (salted salt)

theorem unsalted_snoc {h : Log} {e : Event} (he : ∀ salt, e ≠ salted salt) :
    Unsalted (h ++ [e]) := by
  intro salt heq
  rw [List.getLast?_concat] at heq
  exact he salt (Option.some.inj heq)

/-- An event that has to do with neither salts nor sending changes nothing that is counted. -/
theorem Stage.Single.snoc {A : Type} {s : Stage A} {h : Log} {e : Event} (hs : s.Single h)
    (hsalt : Event.salt? e = none) (hsend : Event.send? e = none) : s.Single (h ++ [e]) := by
  have h1 : saltsOf (h ++ [e]) = saltsOf h := by simp [hsalt]
  have h2 : sendsOf (h ++ [e]) = sendsOf h := by simp [hsend]
  cases s with
  | filling | switchChain p | before a => simpa [Single, Fresh, h1, h2] using hs
  | transferSubmit p => cases p <;> simpa [Single, Progress.Holds, Trying, h1, h2] using hs
  | transferReceipt p => simpa [Single, h1] using hs

/-! ## One transition -/

/-- A stage that was reached carries the salt that was just drawn. -/
def Stage.Reached {A : Type} (s : Stage A) (h : Log) : Prop :=
  s.Single h ∧ ∀ salt, h.getLast? = some (salted salt) → s.salt? = some salt

theorem Stage.Single.reached {A : Type} {s : Stage A} {h : Log} (hs : s.Single h)
    (hh : Unsalted h) : s.Reached h :=
  ⟨hs, fun salt heq => absurd heq (hh salt)⟩

/-- A call that sends nothing is lawful, if no salt was drawn right before. -/
theorem sole_of_preparation (t : Transfer) {h : Log} (hh : Unsalted h) {e : Event}
    (he : Preparation e) : Sole t h e := by
  obtain ⟨c, x, rfl, hc⟩ := he
  refine ⟨fun salt heq => absurd heq (hh salt), ?_, ?_, ?_⟩
  · rintro salt ⟨⟩
  · rintro s salt ⟨⟩
  · rintro request answer heq
    cases heq
    exact absurd rfl (hc request)

theorem Preparation.counts {e : Event} (he : Preparation e) :
    Event.salt? e = none ∧ Event.send? e = none ∧ ∀ salt, e ≠ salted salt := by
  obtain ⟨c, x, rfl, hc⟩ := he
  refine ⟨rfl, ?_, fun salt heq => nomatch heq⟩
  cases c with
  | submit request => exact absurd rfl (hc request)
  | switchChain | allowance | approve | awaitReceipt => rfl

/-- A preparation and what is known after it. -/
theorem Stage.Single.prepare {A : Type} {s : Stage A} {h : Log} (hs : s.Single h) {e : Event}
    (he : Preparation e) : s.Reached (h ++ [e]) :=
  (hs.snoc he.counts.1 he.counts.2.1).reached (unsalted_snoc he.counts.2.2)

/-- Entering the transfer draws the salt that its stage carries. -/
theorem obeys_enter_single {A : Type} (t : Transfer) (r : Option A) {h : Log} (hfresh : Fresh h)
    (hh : Unsalted h) :
    (Stage.enter r).Obeys (Sole t) (fun r h => ∃ s', r = some s' ∧ s'.Reached h) h := by
  cases r with
  | some a => exact ⟨_, rfl, Stage.Single.reached (s := .before a) hfresh hh⟩
  | none =>
      refine obeys_bind.2 fun salt => ⟨⟨?_, ?_, ?_, ?_⟩, _, rfl, ⟨?_, ?_⟩, ?_⟩
      · exact fun salt heq => absurd heq (hh salt)
      · exact fun _ _ => hfresh.1
      · rintro s salt ⟨⟩
      · rintro request answer ⟨⟩
      · show saltsOf (h ++ [_]) = [salt]
        rw [saltsOf_snoc, hfresh.1]
        rfl
      · rw [sendsOf_snoc, hfresh.2]
        exact fun y hy => nomatch hy
      · intro salt' heq
        rw [List.getLast?_concat] at heq
        cases heq
        rfl

/-- Sending the transfer is lawful, as long as it was refused. -/
theorem Trying.sole {t : Transfer} {salt : Salt} {h : Log} (hs : Trying salt h) (hh : Unsalted h)
    {request : SendRequest} (hrequest : request = t.request salt) (x : Except Report TxHash) :
    Sole t h (answered (.submit request) x) := by
  refine ⟨fun salt heq => absurd heq (hh salt), ?_, ?_, ?_⟩
  · rintro salt ⟨⟩
  · rintro s salt ⟨⟩
  · rintro _ _ ⟨⟩
    exact ⟨salt, hs.1, hrequest, hs.2⟩

/-- What is known when the transfer was sent and refused. -/
theorem Trying.refuse {salt : Salt} {h : Log} (hs : Trying salt h) (request : SendRequest)
    (report : Report) : Trying salt (h ++ [answered (.submit request) (.error report)]) := by
  refine ⟨by simpa [Event.salt?] using hs.1, fun y hy => ?_⟩
  rw [sendsOf_snoc, List.mem_append] at hy
  rcases hy with hy | hy
  · exact hs.2 y hy
  · obtain rfl : y = (request, .error report) := List.mem_singleton.1 hy
    exact ⟨report, rfl⟩

theorem Lane.obeys_next_single {family : ChainFamily} {A : Type} {flow : Flow A}
    {wrap : Stage A → State} (lane : Lane family flow wrap) (t : Transfer) {s : Stage A} {h : Log}
    (hs : s.Single h) (hh : Unsalted h) (hopen : s.isComplete = false) :
    (s.next flow t).Obeys (Sole t) (fun r h => ∃ s', r = some s' ∧ s'.Reached h) h := by
  cases s with
  | filling => exact ⟨_, rfl, Stage.Single.reached (s := .switchChain _) hs hh⟩
  | switchChain p =>
      cases p with
      | notStarted | failed => exact ⟨_, rfl, Stage.Single.reached (s := .switchChain _) hs hh⟩
      | inProgress c =>
          refine obeys_bind.2 fun x =>
            ⟨sole_of_preparation t hh (preparation_switchChain x), _, rfl, ?_⟩
          exact Stage.Single.prepare (s := .switchChain _) hs (preparation_switchChain x)
      | complete c r => exact obeys_enter_single t _ hs hh
  | before a =>
      -- The calls before the transfer leave everything as it is.
      have hkeep := (lane.before_prepares t a h).keep
        (fun h => (Stage.before a).Single h ∧ Unsalted h) ⟨hs, hh⟩ fun h e he hk =>
          ⟨hk.1.snoc he.counts.1 he.counts.2.1, unsalted_snoc he.counts.2.2⟩
      refine obeys_bind.2 (hkeep.mono ?_ ?_)
      · exact fun h e he => sole_of_preparation t he.2.2 he.1
      · exact fun r h hr => obeys_enter_single t r hr.2.1 hr.2.2
  | transferSubmit p =>
      cases p with
      | notStarted salt | failed salt _ =>
          exact ⟨_, rfl, Stage.Single.reached (s := .transferSubmit _) hs hh⟩
      | inProgress salt =>
          have hs' : Trying salt h := hs
          refine obeys_bind.2 fun x => ⟨hs'.sole hh rfl x, _, rfl, ?_⟩
          refine Stage.Single.reached (s := .transferSubmit _) ?_
            (unsalted_snoc fun _ heq => nomatch heq)
          cases x with
          | ok hash =>
              show saltsOf (h ++ [_]) = [salt]
              rw [saltsOf_snoc, hs'.1]
              rfl
          | error e => exact hs'.refuse _ e
      | complete salt hash =>
          refine ⟨_, rfl, Stage.Single.reached (s := .transferReceipt _) ?_ hh⟩
          have hone : saltsOf h = [salt] := hs
          simp [Stage.Single, hone]
  | transferReceipt p =>
      cases p with
      | notStarted | failed =>
          exact ⟨_, rfl, Stage.Single.reached (s := .transferReceipt _) hs hh⟩
      | complete => cases hopen
      | inProgress hash =>
          refine obeys_bind.2 fun x =>
            ⟨sole_of_preparation t hh (preparation_awaitReceipt hash x), _, rfl, ?_⟩
          exact Stage.Single.prepare (s := .transferReceipt _) hs (preparation_awaitReceipt hash x)

/-! ## Whole histories -/

theorem Lane.invariant_single {family : ChainFamily} {A : Type} {flow : Flow A}
    {wrap : Stage A → State} (lane : Lane family flow wrap)
    (hwrap : ∀ s, (wrap s).salt? = s.salt?) (t : Transfer) (ht : t.source = family) :
    Invariant family (· = t) (Sole t) (Held wrap fun s h => s.Single h ∧ Unsalted h) := by
  refine lane.invariant Stage.Reached (fun _ heq => heq ▸ ht) ?_ ?_ ?_
  · exact ⟨⟨rfl, rfl⟩, fun _ heq => nomatch heq⟩
  · rintro s h ⟨hs, hsalt⟩
    refine ⟨⟨?_, ?_, ?_, ?_⟩, hs.snoc rfl rfl, unsalted_snoc fun _ heq => nomatch heq⟩
    · exact fun salt heq => ⟨wrap s, rfl, (hwrap s).trans (hsalt salt heq)⟩
    · rintro salt ⟨⟩
    · rintro _ salt ⟨⟩ hcarried
      rw [hwrap] at hcarried
      -- Only the sending of the transfer carries a salt.
      cases s with
      | transferSubmit p =>
          cases hcarried
          cases p with
          | complete => exact hs
          | notStarted | inProgress | failed => exact hs.1
      | filling | switchChain | before | transferReceipt => cases hcarried
    · rintro request answer ⟨⟩
  · rintro _ s h rfl ⟨hs, hh⟩ hopen
    exact lane.obeys_next_single _ hs hh hopen

theorem invariant_single (t : Transfer) (served : t.source = .evm ∨ t.source = .cosmos) :
    ∃ inv, Invariant t.source (· = t) (Sole t) inv := by
  rcases served with ht | ht
  · rw [ht]
    exact ⟨_, evmLane.invariant_single (fun _ => rfl) t ht⟩
  · rw [ht]
    exact ⟨_, cosmosLane.invariant_single (fun _ => rfl) t ht⟩

/-- A log in which one transfer is sent with one salt, and not again once it was accepted. -/
structure SingleSend (t : Transfer) (salt : Salt) (log : Log) : Prop where
  /-- No other salt is drawn, and it is drawn once. -/
  drawn : saltsOf log = [] ∨ saltsOf log = [salt]
  /-- It is drawn when the sending of the transfer is entered. -/
  entered : ∀ pre next post, log = pre ++ salted salt :: next :: post →
    ∃ s, next = published s ∧ s.salt? = some salt
  /-- Whatever state is published while the transfer is being sent carries it. -/
  carried : ∀ s x, published s ∈ log → s.salt? = some x → x = salt
  /-- Whatever is sent is the request with that salt, drawn before. -/
  request : ∀ pre request answer post, log = pre ++ answered (.submit request) answer :: post →
    salted salt ∈ pre ∧ request = ⟨t.instruction.encode, t.endpoint, salt, t.funds⟩
  /-- What was accepted is not sent again. -/
  once : ∀ pre request hash post, log = pre ++ answered (.submit request) (.ok hash) :: post →
    sendsOf post = []

/-- If a salt is lawful only where none was drawn before, there is at most one. -/
theorem length_saltsOf_le_one {law : Law Effect.Answer} {log : Log} (hlog : Lawful law log)
    (hdrawn : ∀ h salt, law h (salted salt) → saltsOf h = []) : (saltsOf log).length ≤ 1 := by
  refine hlog.length_filterMap_le_one fun h e he hkind => ?_
  obtain ⟨salt, hsalt⟩ := Option.ne_none_iff_exists'.1 hkind
  rw [Event.salt?_eq_some.1 hsalt] at he
  exact hdrawn h salt he

theorem Sole.singleSend {t : Transfer} {log : Log} (hlog : Lawful (Sole t) log) :
    ∃ salt, SingleSend t salt log := by
  have hle : (saltsOf log).length ≤ 1 :=
    length_saltsOf_le_one hlog fun h salt he => he.drawn salt rfl
  -- A salt that was drawn before some event is the one that was drawn at all.
  obtain ⟨salt, hdrawn, honly⟩ : ∃ salt, (saltsOf log = [] ∨ saltsOf log = [salt]) ∧
      ∀ pre e post x, log = pre ++ e :: post → saltsOf pre = [x] → x = salt := by
    have hpre : ∀ pre e post x, log = pre ++ e :: post → saltsOf pre = [x] → x ∈ saltsOf log := by
      intro pre e post x hsplit hx
      rw [mem_saltsOf, hsplit]
      exact List.mem_append_left _ (mem_saltsOf.1 (by simp [hx]))
    match hsalts : saltsOf log, hle with
    | [], _ => exact ⟨0, .inl rfl, fun pre e post x h1 h2 => by
        simpa [hsalts] using hpre pre e post x h1 h2⟩
    | [salt], _ => exact ⟨salt, .inr rfl, fun pre e post x h1 h2 => by
        simpa [hsalts] using hpre pre e post x h1 h2⟩
  refine ⟨salt, hdrawn, ?_, ?_, ?_, ?_⟩
  · intro pre next post hsplit
    have hnext := hlog (pre ++ [salted salt]) next post (by simp [hsplit])
    exact hnext.entered salt (by simp)
  · intro s x hmem hx
    obtain ⟨pre, post, hsplit⟩ := List.append_of_mem hmem
    exact honly pre _ post x hsplit ((hlog pre _ post hsplit).carried s x rfl hx)
  · intro pre request answer post hsplit
    obtain ⟨x, hx, hrequest, -⟩ := (hlog pre _ post hsplit).sent request answer rfl
    obtain rfl := honly pre _ post x hsplit hx
    exact ⟨mem_saltsOf.1 (by simp [hx]), hrequest⟩
  · intro pre request hash post hsplit
    refine hlog.filterMap_eq_nil hsplit fun mid e he => ?_
    cases hsend : Event.send? e with
    | none => rfl
    | some send =>
        -- What was accepted before would have had to be refused.
        obtain ⟨x, -, -, hrefused⟩ := he.sent _ _ (Event.send?_eq_some.1 hsend)
        have hmem : answered (.submit request) (.ok hash) ∈
            pre ++ answered (.submit request) (.ok hash) :: mid :=
          List.mem_append_right pre List.mem_cons_self
        obtain ⟨report, hreport⟩ := hrefused (request, .ok hash) (mem_sendsOf.2 hmem)
        cases hreport

/-- However a transfer is advanced, stopped and taken up again, and whatever its chain answers, all
that is sent is one and the same request, with the one salt that was drawn when the sending of the
transfer was entered, and nothing is sent after a request was accepted. -/
theorem one_request_accepted_once {t : Transfer} (served : t.source = .evm ∨ t.source = .cosmos)
    {s : State} {h new : Log} {rest : Talk (Option State)} (hh : History t.source (· = t) s h)
    (hl : (advance t.source t s).Leads new rest) : ∃ salt, SingleSend t salt (h ++ new) := by
  obtain ⟨inv, hinv⟩ := invariant_single t served
  exact Sole.singleSend (hinv.lawful hh rfl hl)

/-- The sample is sent with the one salt that its partner has. -/
theorem sample_accepted_once : SingleSend sample 9 (sampleLog ++ sampleRest) := by
  obtain ⟨rest, hl⟩ := sample_leads
  obtain ⟨salt, hsingle⟩ := one_request_accepted_once (t := sample) (.inl rfl) sample_history hl
  have hsalts : saltsOf (sampleLog ++ sampleRest) = [9] := rfl
  have hdrawn := hsingle.drawn
  rw [hsalts] at hdrawn
  obtain rfl : 9 = salt := by simpa using hdrawn
  exact hsingle

end TokenBridge.Submission
