import TokenBridge.Proofs.Order.Build
import TokenBridge.Simulation.Composing

set_option autoImplicit false

/-! # Tasks that are polled build the orders

Polling the tasks whenever an answer comes builds the same orders as waiting for all answers, and
the readers hear each question that is listed once (`compose_eq`). All questions are put when the
tasks are polled for the first time. From then on a task stands for an answer that is waited for
(`OrderTask.Awaits`), and being polled again changes no reader.
-/

namespace TokenBridge

open Outcome

/-! ## Failures that have come -/

/-- The failure of an answer, if it has come by that time. -/
def Pending.failureBy {α : Type} (now : Nat) (p : Pending α) : Option OrderError :=
  match p.result with
  | .error e => if p.delay ≤ now then some e else none
  | .ok _ => none

/-- The failure of the first order that has failed by that time. -/
def failureBy (now : Nat) (started : List (Pending Order)) : Option OrderError :=
  started.findSome? (Pending.failureBy now)

namespace Pending

variable {α : Type} {p : Pending α} {e : OrderError} {now : Nat}

theorem failureBy_of_ok {a : α} (h : p.result = .ok a) : p.failureBy now = none := by
  rw [failureBy, h]

theorem failureBy_of_le (h : p.result = .error e) (hle : p.delay ≤ now) :
    p.failureBy now = some e := by
  rw [failureBy, h]
  exact if_pos hle

theorem failureBy_of_lt (hlt : now < p.delay) : p.failureBy now = none := by
  rw [failureBy]
  split
  · exact if_neg (Nat.not_le.2 hlt)
  · rfl

end Pending

theorem failureBy_cons (now : Nat) (p : Pending Order) (rest : List (Pending Order)) :
    failureBy now (p :: rest) = (p.failureBy now).or (failureBy now rest) := by
  rw [failureBy, List.findSome?_cons]
  cases p.failureBy now <;> rfl

theorem failureBy_of_firstFailure_eq_none {started : List (Pending Order)}
    (h : firstFailure started = none) (now : Nat) : failureBy now started = none := by
  rw [failureBy, List.findSome?_eq_none_iff]
  intro p hp
  obtain ⟨o, -, ho⟩ := exists_of_mem_left (finished_of_firstFailure h) hp
  exact Pending.failureBy_of_ok ho

/-- Before the time of the first failure none has come, and then it is that one that is found. -/
theorem failureBy_of_firstFailure {started : List (Pending Order)} {t : Nat} {e : OrderError}
    (h : firstFailure started = some (t, e)) :
    (∀ now < t, failureBy now started = none) ∧ failureBy t started = some e ∧
      ∃ p ∈ started, p.delay = t ∧ p.result = .error e := by
  induction started generalizing t e with
  | nil => cases h
  | cons p rest ih =>
      rw [firstFailure] at h
      split at h
      · -- `p` does not fail.
        next o ho =>
          obtain ⟨hbefore, hat, p', hmem, hp'⟩ := ih h
          refine ⟨fun now hnow => ?_, ?_, p', List.mem_cons_of_mem _ hmem, hp'⟩
          · rw [failureBy_cons, Pending.failureBy_of_ok ho, hbefore now hnow, Option.none_or]
          · rw [failureBy_cons, Pending.failureBy_of_ok ho, hat, Option.none_or]
      · -- Only `p` fails.
        next hp hrest =>
          cases h
          refine ⟨fun now hnow => ?_, ?_, p, List.mem_cons_self, rfl, hp⟩
          · rw [failureBy_cons, Pending.failureBy_of_lt hnow,
              failureBy_of_firstFailure_eq_none hrest, Option.none_or]
          · rw [failureBy_cons, Pending.failureBy_of_le hp (Nat.le_refl _), Option.some_or]
      · next hp hrest =>
          obtain ⟨hbefore, hat, p', hmem, hp'⟩ := ih hrest
          split at h
          · -- One behind `p` fails before it.
            next hlt =>
              cases h
              refine ⟨fun now hnow => ?_, ?_, p', List.mem_cons_of_mem _ hmem, hp'⟩
              · rw [failureBy_cons, Pending.failureBy_of_lt (Nat.lt_trans hnow hlt),
                  hbefore now hnow, Option.none_or]
              · rw [failureBy_cons, Pending.failureBy_of_lt hlt, hat, Option.none_or]
          · next hle =>
              cases h
              refine ⟨fun now hnow => ?_, ?_, p, List.mem_cons_self, rfl, hp⟩
              · rw [failureBy_cons, Pending.failureBy_of_lt hnow,
                  hbefore now (Nat.lt_of_lt_of_le hnow (Nat.not_lt.1 hle)), Option.none_or]
              · rw [failureBy_cons, Pending.failureBy_of_le hp (Nat.le_refl _), Option.some_or]

/-- A failure that is found is the first one, if none can have come before. -/
theorem finishOrders_of_failureBy {started : List (Pending Order)} {now : Nat} {e : OrderError}
    (h : failureBy now started = some e)
    (hnew : ∀ p ∈ started, ∀ e', p.result = .error e' → now ≤ p.delay) :
    finishOrders started = .error e := by
  cases hfirst : firstFailure started with
  | none =>
      rw [failureBy_of_firstFailure_eq_none hfirst] at h
      cases h
  | some found =>
      obtain ⟨t, e'⟩ := found
      obtain ⟨hbefore, hat, p, hp, rfl, hresult⟩ := failureBy_of_firstFailure hfirst
      have hge : p.delay ≤ now := by
        by_contra hlt
        rw [hbefore now (Nat.lt_of_not_le hlt)] at h
        cases h
      rw [Nat.le_antisymm (hnew p hp e' hresult) hge, hat] at h
      cases h
      rw [finishOrders, hfirst]

/-! ## Orders whose counterpart is told at once -/

namespace AddressedIntent

variable {i : AddressedIntent} {source destination : Reader} {endpoint : Endpoint}
  {baseToken quoteToken : Bytes} {e : OrderError}

theorem start_of_metadata_failure
    (hcheck : i.check source.family destination.family = .ok baseToken)
    (h : (Pending.mk (source.resolveDelay i.baseToken) (source.resolve i.baseToken)).failure? =
      some e) :
    i.start source destination endpoint = (.error e, source.resolveQuestions i.baseToken) := by
  simp only [start, hcheck, h]

variable (hcheck : i.check source.family destination.family = .ok baseToken)
  (hmetadata : (Pending.mk (source.resolveDelay i.baseToken)
    (source.resolve i.baseToken)).failure? = none)
  (hdelay : destination.quoteDelay endpoint baseToken = 0)

include hcheck hmetadata hdelay

theorem start_of_quote_failure (h : destination.predict endpoint baseToken = .error e) :
    i.start source destination endpoint = (.error e,
      source.resolveQuestions i.baseToken ++ [.quote endpoint.channel baseToken]) := by
  simp only [start, hcheck, hmetadata, h, hdelay]
  rfl

/-- When the counterpart is told at once, the order waits for the metadata alone. -/
theorem start_of_quote (h : destination.predict endpoint baseToken = .ok quoteToken) :
    i.start source destination endpoint =
      (.ok ⟨source.resolveDelay i.baseToken,
        (source.resolve i.baseToken).map fun m => i.order baseToken m quoteToken⟩,
          source.resolveQuestions i.baseToken ++ [.quote endpoint.channel baseToken]) := by
  simp only [start, hcheck, hmetadata, h, hdelay]
  cases source.resolve i.baseToken with
  | error e => rfl
  | ok m =>
      simp only [Pending.failure?, Pending.both, Pending.map, Nat.max_zero]
      rfl

end AddressedIntent

namespace Simulation

/-! ## What the readers hear -/

/-- A question about metadata is put to the source, one about a counterpart to the destination. -/
def Readers.hear (w : Readers) : Question → Readers
  | .metadata _ => { w with source := { w.source with calls := w.source.calls + 1 } }
  | .quote channel token =>
      { w with destination := { w.destination with
          calls := w.destination.calls + 1
          predictions := w.destination.predictions ++ [(channel, token)] } }

def Readers.hearAll (w : Readers) (asked : List Question) : Readers := asked.foldl Readers.hear w

namespace Readers

theorem hearAll_append (w : Readers) (asked more : List Question) :
    w.hearAll (asked ++ more) = (w.hearAll asked).hearAll more :=
  List.foldl_append

/-- The source counts the questions about metadata; the destination counts those about counterparts
and keeps them in their order. -/
theorem hearAll_eq (w : Readers) (asked : List Question) :
    w.hearAll asked =
      ⟨⟨w.source.tables, w.source.calls + (asked.filterMap Question.token?).length,
          w.source.predictions⟩,
        ⟨w.destination.tables, w.destination.calls + (asked.filterMap Question.quoted?).length,
          w.destination.predictions ++ asked.filterMap Question.quoted?⟩⟩ := by
  induction asked generalizing w with
  | nil =>
      rw [List.filterMap_nil, List.filterMap_nil, List.append_nil]
      rfl
  | cons q asked ih =>
      refine (ih (w.hear q)).trans ?_
      cases q <;>
        simp only [hear, List.filterMap_cons, Question.token?, Question.quoted?, List.length_cons,
          Nat.add_assoc, Nat.add_comm 1, List.append_assoc, List.singleton_append]

/-- The readers answer as before. -/
theorem reader_hearAll (w : Readers) (asked : List Question) :
    (w.hearAll asked).source.reader = w.source.reader ∧
      (w.hearAll asked).destination.reader = w.destination.reader := by
  rw [hearAll_eq]
  exact ⟨rfl, rfl⟩

end Readers

/-! ## Tasks that have been started -/

variable {endpoint : Endpoint} {now now' : Nat} {p : Pending Order} {task : OrderTask} {w : Readers}
  {started : List (Pending Order)} {tasks : List OrderTask}

/-- At that time the task stands for the answer that is waited for: either it is finished, or the
counterpart is known and the metadata is still to come. -/
inductive OrderTask.Awaits (now : Nat) : Pending Order → OrderTask → Prop
  | finished {due : Nat} {o : Order} (hdue : due ≤ now) : Awaits now ⟨due, .ok o⟩ (.finished o)
  | reading {i : AddressedIntent} {baseToken quoteToken : Bytes} {due : Nat}
      {answer : Except OrderError TokenMetadata} (hdue : now < due) :
      Awaits now ⟨due, answer.map fun m => i.order baseToken m quoteToken⟩
        (.reading i baseToken (.waiting due answer) (.done quoteToken))

namespace OrderTask

theorem lt_delay_of_awaits {e : OrderError} (h : Awaits now p task) (he : p.result = .error e) :
    now < p.delay := by
  cases h with
  | finished => cases he
  | reading hdue => exact hdue

theorem order?_of_awaits (h : Awaits now p task) :
    (∃ o, task.order? = some o ∧ p.result = .ok o) ∨ task.order? = none ∧ now < p.delay := by
  cases h with
  | finished => exact .inl ⟨_, rfl, rfl⟩
  | reading hdue => exact .inr ⟨rfl, hdue⟩

theorem read_waiting (now : Nat) (endpoint : Endpoint) (i : AddressedIntent)
    (baseToken quoteToken : Bytes) (due : Nat) (answer : Except OrderError TokenMetadata)
    (w : Readers) :
    read now endpoint i baseToken (.waiting due answer) (.done quoteToken) w =
      ((Reading.settle now due answer).map fun m => join i baseToken m (.done quoteToken), w) := by
  rw [read, Reading.poll]
  cases Reading.settle now due answer <;> rfl

/-- When a task is polled again, its failure is found if it has come, and no question is put. -/
theorem poll_of_awaits (endpoint : Endpoint) (w : Readers) (h : Awaits now p task)
    (hle : now ≤ now') :
    (∃ e, p.failureBy now' = some e ∧ task.poll now' endpoint w = (.error e, w)) ∨
      p.failureBy now' = none ∧
        ∃ task', task.poll now' endpoint w = (.ok task', w) ∧ Awaits now' p task' := by
  cases h with
  | finished hdue => exact .inr ⟨rfl, _, rfl, .finished (Nat.le_trans hdue hle)⟩
  | @reading i baseToken quoteToken due answer _ =>
      rw [poll, read_waiting, Reading.settle]
      by_cases hdue : due ≤ now'
      · rw [if_pos hdue]
        cases answer with
        | error e => exact .inl ⟨e, Pending.failureBy_of_le rfl hdue, rfl⟩
        | ok m => exact .inr ⟨rfl, _, rfl, .finished hdue⟩
      · rw [if_neg hdue]
        have hlt := Nat.lt_of_not_le hdue
        exact .inr ⟨Pending.failureBy_of_lt hlt, _, rfl, .reading hlt⟩

end OrderTask

open OrderTask (Awaits)

theorem pollAll_cons_of_error {w' : Readers} {e : OrderError} {rest : List OrderTask}
    (h : task.poll now endpoint w = (.error e, w')) :
    pollAll now endpoint (task :: rest) w = (.error e, w') := by
  rw [pollAll, h]

theorem pollAll_cons_of_ok {w' : Readers} {task' : OrderTask} {rest : List OrderTask}
    (h : task.poll now endpoint w = (.ok task', w')) :
    pollAll now endpoint (task :: rest) w =
      ((pollAll now endpoint rest w').1.map (task' :: ·), (pollAll now endpoint rest w').2) := by
  rw [pollAll, h]

theorem pollAll_of_awaits (endpoint : Endpoint) (w : Readers)
    (h : List.Forall₂ (Awaits now) started tasks) (hle : now ≤ now') :
    (∃ e, failureBy now' started = some e ∧ pollAll now' endpoint tasks w = (.error e, w)) ∨
      failureBy now' started = none ∧ ∃ tasks', pollAll now' endpoint tasks w = (.ok tasks', w) ∧
        List.Forall₂ (Awaits now') started tasks' := by
  induction h with
  | nil => exact .inr ⟨rfl, [], rfl, .nil⟩
  | cons hp _ ih =>
      -- Behind a task that fails none is polled, and no failure is looked for.
      rw [failureBy_cons]
      rcases OrderTask.poll_of_awaits endpoint w hp hle with
        ⟨e, he, hpoll⟩ | ⟨hnone, task', hpoll, hp'⟩
      · rw [he, pollAll_cons_of_error hpoll]
        exact .inl ⟨e, rfl, rfl⟩
      · rw [hnone, pollAll_cons_of_ok hpoll, Option.none_or]
        rcases ih with ⟨e, he, hrest⟩ | ⟨hrestNone, tasks', hrest, hall⟩
        · rw [hrest]
          exact .inl ⟨e, he, rfl⟩
        · rw [hrest]
          exact .inr ⟨hrestNone, task' :: tasks', rfl, .cons hp' hall⟩

/-- Either all tasks are finished, with the orders that are waited for, or an answer is still to
come. -/
theorem mapM_order?_of_awaits (h : List.Forall₂ (Awaits now) started tasks) :
    (∃ orders, tasks.mapM OrderTask.order? = some orders ∧ finishOrders started = .ok orders) ∨
      tasks.mapM OrderTask.order? = none ∧ ∃ p ∈ started, now < p.delay := by
  simp only [finishOrders_eq_ok]
  induction h with
  | nil => exact .inl ⟨[], rfl, .nil⟩
  | cons hp _ ih =>
      rw [List.mapM_cons]
      rcases OrderTask.order?_of_awaits hp with ⟨o, ho, hresult⟩ | ⟨hnone, hlt⟩
      · rw [ho]
        rcases ih with ⟨orders, horders, hall⟩ | ⟨hnone, p', hmem, hlt⟩
        · exact .inl ⟨o :: orders, by rw [horders]; rfl, .cons hresult hall⟩
        · exact .inr ⟨by rw [hnone]; rfl, p', List.mem_cons_of_mem _ hmem, hlt⟩
      · exact .inr ⟨by rw [hnone]; rfl, _, List.mem_cons_self, hlt⟩

/-- Tasks that are polled at all times at which an answer comes build what is waited for, and put no
more questions. Between these times they may be polled as often as one likes. -/
theorem await_of_awaits {times : List Nat} (h : List.Forall₂ (Awaits now) started tasks)
    (htimes : (now :: times).Pairwise (· ≤ ·))
    (hwake : ∀ p ∈ started, p.delay ≤ now ∨ p.delay ∈ times) (endpoint : Endpoint) (w : Readers) :
    await endpoint times tasks w = (some (finishOrders started), w) := by
  induction times generalizing now tasks with
  | nil =>
      rcases mapM_order?_of_awaits h with ⟨orders, horders, hfinish⟩ | ⟨-, p, hp, hlt⟩
      · rw [await, horders, hfinish]
        rfl
      · rcases hwake p hp with hle | hmem
        · exact absurd hlt (Nat.not_lt.2 hle)
        · cases hmem
  | cons next later ih =>
      obtain ⟨hnow, hlater⟩ := List.pairwise_cons.1 htimes
      rw [await]
      rcases mapM_order?_of_awaits h with ⟨orders, horders, hfinish⟩ | ⟨hnone, -⟩
      · rw [horders, hfinish]
      · rw [hnone]
        rcases pollAll_of_awaits endpoint w h (hnow next List.mem_cons_self) with
          ⟨e, he, hpoll⟩ | ⟨-, tasks', hpoll, h'⟩
        · rw [hpoll, finishOrders_of_failureBy he fun p hp e' he' => ?_]
          -- A failure that had come before would have ended the task.
          obtain ⟨task, -, htask⟩ := exists_of_mem_left h hp
          have hlt := OrderTask.lt_delay_of_awaits htask he'
          have hmem := (hwake p hp).resolve_left (Nat.not_le.2 hlt)
          rcases List.mem_cons.1 hmem with heq | hmem
          · exact Nat.le_of_eq heq.symm
          · exact (List.pairwise_cons.1 hlater).1 _ hmem
        · rw [hpoll]
          refine ih h' hlater fun p hp => ?_
          rcases hwake p hp with hdue | hmem
          · exact .inl (Nat.le_trans hdue (hnow next List.mem_cons_self))
          · rcases List.mem_cons.1 hmem with heq | hmem
            · exact .inl (Nat.le_of_eq heq)
            · exact .inr hmem

/-! ## Starting -/

/-- What comes of a question that has just been put: it has failed, it is answered, or its answer is
still to come. -/
theorem Reading.settle_zero {α : Type} (delay : Nat) (result : Except OrderError α) :
    (∃ e, (Pending.mk delay result).failure? = some e ∧ settle 0 (0 + delay) result = .error e) ∨
      (Pending.mk delay result).failure? = none ∧ ∃ reading,
        settle 0 (0 + delay) result = .ok reading ∧
          ((∃ a, delay = 0 ∧ result = .ok a ∧ reading = .done a) ∨
            0 < delay ∧ reading = .waiting delay result) := by
  rcases delay with _ | delay
  · rcases result with e | a
    · exact .inl ⟨e, rfl, rfl⟩
    · exact .inr ⟨rfl, _, rfl, .inl ⟨a, rfl, rfl, rfl⟩⟩
  · refine .inr ⟨rfl, .waiting (delay + 1) result, ?_, .inr ⟨Nat.succ_pos _, rfl⟩⟩
    rw [settle, Nat.zero_add, if_neg (Nat.not_succ_le_zero delay)]

namespace RecordingReader

/-- The first poll of the question about metadata. -/
theorem poll_resolve (token : String) (r : RecordingReader) :
    Reading.idle.poll (resolve token) 0 r =
      (Reading.settle 0 (0 + r.reader.resolveDelay token) (r.reader.resolve token),
        (resolve token r).2) := by
  have hresolve : (resolve token r).1 = ⟨r.reader.resolveDelay token, r.reader.resolve token⟩ := by
    rw [resolve, Reader.resolveDelay, Reader.resolve]
    cases r.reader.native? token <;> rfl
  show (Reading.settle 0 (0 + (resolve token r).1.delay) (resolve token r).1.result,
    (resolve token r).2) = _
  rw [hresolve]

theorem hearAll_resolveQuestions (w : Readers) (token : String) :
    w.hearAll (w.source.reader.resolveQuestions token) =
      ⟨(resolve token w.source).2, w.destination⟩ := by
  rw [Reader.resolveQuestions, resolve]
  cases w.source.reader.native? token <;> rfl

theorem hearAll_quote (w : Readers) (token : String) (endpoint : Endpoint) (baseToken : Bytes) :
    w.hearAll
        (w.source.reader.resolveQuestions token ++ [.quote endpoint.channel baseToken]) =
      ⟨(resolve token w.source).2, (predict endpoint baseToken w.destination).2⟩ := by
  rw [Readers.hearAll_append, hearAll_resolveQuestions]
  rfl

end RecordingReader

namespace OrderTask

variable {i : AddressedIntent} {baseToken quoteToken : Bytes} {e : OrderError}
  {metadata : Reading TokenMetadata}

theorem read_of_metadata_failure (endpoint : Endpoint) (baseToken : Bytes)
    (h : Reading.settle 0 (0 + w.source.reader.resolveDelay i.baseToken)
      (w.source.reader.resolve i.baseToken) = .error e) :
    read 0 endpoint i baseToken .idle .idle w =
      (.error e, w.hearAll (w.source.reader.resolveQuestions i.baseToken)) := by
  rw [read, RecordingReader.poll_resolve, h, RecordingReader.hearAll_resolveQuestions]

variable (h : Reading.settle 0 (0 + w.source.reader.resolveDelay i.baseToken)
  (w.source.reader.resolve i.baseToken) = .ok metadata)

include h

theorem read_of_quote_failure
    (hquote : w.destination.reader.predict endpoint baseToken = .error e) :
    read 0 endpoint i baseToken .idle .idle w = (.error e, w.hearAll
      (w.source.reader.resolveQuestions i.baseToken ++ [.quote endpoint.channel baseToken])) := by
  have hpoll : Reading.idle.poll (RecordingReader.predict endpoint baseToken) 0 w.destination =
      (.error e, (RecordingReader.predict endpoint baseToken w.destination).2) :=
    congrArg (fun result => (Reading.settle 0 0 result, _)) hquote
  rw [read, RecordingReader.poll_resolve, h, RecordingReader.hearAll_quote]
  dsimp only
  rw [hpoll]

theorem read_of_quote (hquote : w.destination.reader.predict endpoint baseToken = .ok quoteToken) :
    read 0 endpoint i baseToken .idle .idle w = (.ok (join i baseToken metadata (.done quoteToken)),
      w.hearAll
        (w.source.reader.resolveQuestions i.baseToken ++ [.quote endpoint.channel baseToken])) := by
  have hpoll : Reading.idle.poll (RecordingReader.predict endpoint baseToken) 0 w.destination =
      (.ok (.done quoteToken), (RecordingReader.predict endpoint baseToken w.destination).2) :=
    congrArg (fun result => (Reading.settle 0 0 result, _)) hquote
  rw [read, RecordingReader.poll_resolve, h, RecordingReader.hearAll_quote]
  dsimp only
  rw [hpoll]

omit h

/-- When a task is polled for the first time, what is asked is what is asked to start its order; and
if that does not fail at once, the task stands for what the order waits for. -/
theorem poll_idle (i : AddressedIntent) (endpoint : Endpoint) (w : Readers) :
    (∃ e asked, i.start w.source.reader w.destination.reader endpoint = (.error e, asked) ∧
      (idle i).poll 0 endpoint w = (.error e, w.hearAll asked)) ∨
    ∃ p asked task, i.start w.source.reader w.destination.reader endpoint = (.ok p, asked) ∧
      (idle i).poll 0 endpoint w = (.ok task, w.hearAll asked) ∧ Awaits 0 p task ∧
      p.delay = w.source.reader.resolveDelay i.baseToken := by
  rw [poll]
  cases hcheck : i.check w.source.reader.family w.destination.reader.family with
  | error e => exact .inl ⟨e, [], AddressedIntent.start_of_check_error hcheck, rfl⟩
  | ok baseToken =>
      -- Metadata that fails at once leaves the counterpart unasked.
      rcases Reading.settle_zero (w.source.reader.resolveDelay i.baseToken)
        (w.source.reader.resolve i.baseToken) with
        ⟨e, hfails, hsettle⟩ | ⟨hmetadata, metadata, hsettle, hcases⟩
      · exact .inl ⟨e, _, AddressedIntent.start_of_metadata_failure hcheck hfails,
          read_of_metadata_failure endpoint baseToken hsettle⟩
      · cases hquote : w.destination.reader.predict endpoint baseToken with
        | error e =>
            exact .inl ⟨e, _, AddressedIntent.start_of_quote_failure hcheck hmetadata rfl hquote,
              read_of_quote_failure hsettle hquote⟩
        | ok quoteToken =>
            refine .inr ⟨_, _, _, AddressedIntent.start_of_quote hcheck hmetadata rfl hquote,
              read_of_quote hsettle hquote, ?_, rfl⟩
            rcases hcases with ⟨m, hdelay, hresolve, rfl⟩ | ⟨hpos, rfl⟩
            · rw [hdelay, hresolve]
              exact .finished (Nat.le_refl 0)
            · exact .reading hpos

end OrderTask

/-- When all tasks are polled for the first time, what is asked is what is asked to start the
orders. To readers that never change their minds the place of the first makes no difference. -/
theorem pollAll_idle (intents : List AddressedIntent) (endpoint : Endpoint) (k : Nat)
    (w : Readers) :
    (∃ e asked, startOrders w.source.reader w.destination.reader endpoint k intents =
        (.error e, asked) ∧
      pollAll 0 endpoint (intents.map .idle) w = (.error e, w.hearAll asked)) ∨
    ∃ started asked tasks, startOrders w.source.reader w.destination.reader endpoint k intents =
        (.ok started, asked) ∧
      pollAll 0 endpoint (intents.map .idle) w = (.ok tasks, w.hearAll asked) ∧
      List.Forall₂ (Awaits 0) started tasks ∧
      ∀ p ∈ started, ∃ i ∈ intents, p.delay = w.source.reader.resolveDelay i.baseToken := by
  induction intents generalizing k w with
  | nil => exact .inr ⟨[], [], [], rfl, rfl, .nil, fun _ hp => nomatch hp⟩
  | cons i rest ih =>
      rw [startOrders, List.map_cons, Reader.view_live, Reader.view_live]
      rcases OrderTask.poll_idle i endpoint w with
        ⟨e, asked, hstart, hpoll⟩ | ⟨p, asked, task, hstart, hpoll, hp, hdelay⟩
      · rw [hstart, pollAll_cons_of_error hpoll]
        exact .inl ⟨e, asked, rfl, rfl⟩
      · rw [hstart, pollAll_cons_of_ok hpoll]
        -- The readers that the next task asks answer as they did.
        obtain ⟨hsource, hdestination⟩ := w.reader_hearAll asked
        have hrest := ih (k + 1) (w.hearAll asked)
        simp only [hsource, hdestination] at hrest
        rcases hrest with
          ⟨e, more, hrest, hpolls⟩ | ⟨started, more, tasks, hrest, hpolls, hall, hdelays⟩
        · rw [hrest, hpolls, ← Readers.hearAll_append]
          exact .inl ⟨e, _, rfl, rfl⟩
        · rw [hrest, hpolls, ← Readers.hearAll_append]
          refine .inr ⟨p :: started, _, task :: tasks, rfl, rfl, .cons hp hall, ?_⟩
          refine List.forall_mem_cons.2 ⟨⟨i, List.mem_cons_self, hdelay⟩, fun p' hp' => ?_⟩
          obtain ⟨i', hi', hdelay'⟩ := hdelays p' hp'
          exact ⟨i', List.mem_cons_of_mem _ hi', hdelay'⟩

/-! ## The whole -/

namespace Readers

theorem wakeTimes_sorted (w : Readers) (intents : List AddressedIntent) :
    (w.wakeTimes intents).Pairwise (· ≤ ·) := by
  refine List.pairwise_cons.2 ⟨fun _ _ => Nat.zero_le _, ?_⟩
  have htrans : ∀ k m n : Nat, decide (k ≤ m) → decide (m ≤ n) → decide (k ≤ n) := by
    simp only [decide_eq_true_iff]
    exact fun _ _ _ => Nat.le_trans
  have htotal : ∀ m n : Nat, decide (m ≤ n) || decide (n ≤ m) := by
    simp only [Bool.or_eq_true, decide_eq_true_iff]
    exact Nat.le_total
  exact (List.pairwise_mergeSort htrans htotal _).imp fun h => of_decide_eq_true h

theorem mem_wakeTimes (w : Readers) {intents : List AddressedIntent} {i : AddressedIntent}
    (hi : i ∈ intents) : w.source.reader.resolveDelay i.baseToken ∈ w.wakeTimes intents := by
  rw [Reader.resolveDelay]
  split
  · exact List.mem_cons_self
  · exact List.mem_cons_of_mem _ (List.mem_mergeSort.2 (List.mem_map_of_mem hi))

/-- The tasks build what is built by waiting for all answers, and what they ask is what is listed as
asked then. -/
theorem buildOrders_eq (w : Readers) (endpoint : Endpoint) (intents : List AddressedIntent) :
    w.buildOrders endpoint intents =
      (some (TokenBridge.buildOrders w.source.reader w.destination.reader endpoint intents).1,
        w.hearAll
          (TokenBridge.buildOrders w.source.reader w.destination.reader endpoint intents).2) := by
  rw [buildOrders, TokenBridge.buildOrders]
  rcases intents with _ | ⟨i, rest⟩
  · rfl
  · have hidle : ((i :: rest).map OrderTask.idle).mapM OrderTask.order? = none := by
      rw [List.map_cons, List.mapM_cons]
      rfl
    rw [wakeTimes, await, hidle]
    rcases pollAll_idle (i :: rest) endpoint 0 w with
      ⟨e, asked, hstart, hpoll⟩ | ⟨started, asked, tasks, hstart, hpoll, hall, hdelays⟩
    · rw [hstart, hpoll]
      rfl
    · rw [hstart, hpoll]
      refine await_of_awaits hall (w.wakeTimes_sorted _) (fun p hp => ?_) endpoint _
      obtain ⟨i', hi', hdelay⟩ := hdelays p hp
      rcases List.mem_cons.1 (hdelay ▸ w.mem_wakeTimes hi') with hzero | hmem
      · exact .inl (Nat.le_of_eq hzero)
      · exact .inr hmem

/-- Composing with readers that record comes to what composing comes to, and the readers hear the
questions that are listed there. -/
theorem compose_eq (w : Readers) (r : BatchRequest) :
    w.compose r =
      (some (r.compose w.source.reader w.destination.reader).1,
        w.hearAll (r.compose w.source.reader w.destination.reader).2) := by
  rw [compose, BatchRequest.compose]
  cases r.complete? with
  | none => rfl
  | some c =>
      dsimp only
      rw [CompleteRequest.orders]
      cases c.plan with
      | error e => rfl
      | ok plan =>
          obtain ⟨endpoint, intents⟩ := plan
          dsimp only
          rw [buildOrders_eq]
          rfl

end Readers

end Simulation
end TokenBridge
