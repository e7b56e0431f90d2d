import TokenBridge.Proofs.Submission.Turn

set_option autoImplicit false

/-! # Nothing is called that was not published

Before a chain is called, the step that makes the call was published as being in progress, with what
the call is about, and what came of it is published before the next step makes a call. So whoever
keeps the last published state knows what may have been done since.
-/

namespace TokenBridge.Submission

open Dialogue

/-! ## The law -/

/-- A call was announced by the state that was published last. After a call comes another one, or a
state that records what came of it. -/
structure Ahead (t : Transfer) (h : Log) (e : Event) : Prop where
  announced : ∀ c x, e = answered c x → (lastState h).standing.Announces t c
  recorded : LastCall (fun c x => (∃ c' x', e = answered c' x') ∨
    ∃ s, e = published s ∧ (lastState h).standing.Records t c x s.standing) h

/-- Every call was announced before it is made, and its outcome is recorded behind it, at the latest
when nothing else is left to be said. -/
structure WriteAhead (t : Transfer) (log : Log) (rest : Talk (Option State)) : Prop where
  announced : ∀ pre c x post, log = pre ++ answered c x :: post →
    (lastState pre).standing.Announces t c
  /-- Up to the state that records the outcome there are only calls, and so only those that the same
  state has announced. -/
  recorded : ∀ pre c x e post, log = pre ++ answered c x :: e :: post →
    (∃ c' x', e = answered c' x') ∨
      ∃ s, e = published s ∧ (lastState pre).standing.Records t c x s.standing
  settled : ∀ r, rest = .done r → Quiet log

theorem Ahead.writeAhead {t : Transfer} {log : Log} {rest : Talk (Option State)}
    (hlog : Lawful (Ahead t) log) (hrest : rest.Obeys (Ahead t) (fun _ h => Quiet h) log) :
    WriteAhead t log rest where
  announced pre c x post hsplit := (hlog pre _ post hsplit).announced c x rfl
  recorded pre c x e post hsplit := by
    have he := hlog (pre ++ [answered c x]) e post (by simp [hsplit])
    have hlast : lastState (pre ++ [answered c x]) = lastState pre :=
      lastState_snoc_of_ne fun s heq => nomatch heq
    rw [← hlast]
    exact he.recorded c x List.getLast?_concat
  settled := by
    rintro r rfl
    exact hrest

/-! ## One advance -/

section Loop

variable {family : ChainFamily} {A : Type} {flow : Flow A} {wrap : Stage A → State}
  {before : A → Standing} {t : Transfer} {s : Stage A} {h : Log}

/-- If the stage is in progress, it was published. -/
def Known (before : A → Standing) (s : Stage A) (h : Log) : Prop :=
  ∀ d, (s.standing before).progress = .inProgress d → (lastState h).standing = s.standing before

/-- A stage that was reached records what came of the last call, if one was made to get there. -/
def Recording (t : Transfer) (before : A → Standing) (s : Stage A) (h : Log) : Prop :=
  LastCall (fun c x => (lastState h).standing.Records t c x (s.standing before)) h

/-- What is asked from a stage that was published is announced by the state that was published
last. -/
theorem Announced.ahead {h' : Log} {e : Event} (hs : Known before s h)
    (he : Announced t (s.standing before) h' e) (hkept : lastState h' = lastState h) :
    Ahead t h' e := by
  rcases he with ⟨c, x, rfl, hc⟩ | ⟨⟨salt, rfl⟩, hh⟩
  · obtain ⟨d, hd⟩ := hc.inProgress
    refine ⟨?_, fun _ _ _ => .inl ⟨c, x, rfl⟩⟩
    rintro _ _ ⟨⟩
    rwa [hkept, hs d hd]
  · refine ⟨?_, hh.lastCall _⟩
    rintro c x ⟨⟩

theorem Recording.ahead (hstanding : ∀ s, (wrap s).standing = s.standing before)
    (hs : Recording t before s h) : Ahead t h (published (wrap s)) where
  announced := by
    rintro c x ⟨⟩
  recorded c x heq := by
    refine .inr ⟨wrap s, rfl, ?_⟩
    rw [hstanding]
    exact hs c x heq

theorem Lane.obeys_next_ahead (lane : Lane family flow wrap) (hflow : flow.Stands t before)
    (hopen : s.isComplete = false) (hh : Quiet h) (hs : Known before s h) :
    (s.next flow t).Obeys (Ahead t) (fun r h => ∃ s', r = some s' ∧ Recording t before s' h) h := by
  refine (lane.obeys_next_turn hflow s hopen hh).mono ?_ ?_
  · exact fun h' e he => he.1.1.ahead hs he.2
  · rintro r h' ⟨s', rfl, hturn, hkept⟩
    refine ⟨s', rfl, fun c x heq => ?_⟩
    -- Only a stage that was in progress, and so was published, makes a call.
    have hrecords := hturn.recorded c x heq
    obtain ⟨d, hd⟩ := hrecords.inProgress
    rwa [hkept, hs d hd]

theorem Lane.obeys_advance_ahead (lane : Lane family flow wrap) (hflow : flow.Stands t before)
    (hstanding : ∀ s, (wrap s).standing = s.standing before) (ht : t.source = family) {s : State}
    {stage : Stage A} (hs : s.enter family = some (wrap stage))
    (hidle : ∀ d, (stage.standing before).progress ≠ .inProgress d) :
    (advance family t s).Obeys (Ahead t) (fun _ h => Quiet h) [] := by
  have hannounce : ∀ s h, Recording t before s h → Ahead t h (published (wrap s)) ∧
      Quiet (h ++ [published (wrap s)]) ∧ Known before s (h ++ [published (wrap s)]) := by
    intro s h hs
    refine ⟨hs.ahead hstanding, quiet_published h (wrap s), ?_⟩
    intro d _
    rw [lastState_published, hstanding]
  have hnext : ∀ s h, Quiet h ∧ Known before s h → s.isComplete = false →
      (s.next flow t).Obeys (Ahead t) (fun r h => ∃ s', r = some s' ∧ Recording t before s' h)
        h := by
    rintro s h ⟨hh, hs⟩ hopen
    exact lane.obeys_next_ahead hflow hopen hh hs
  have hstart : Known before stage [] := by
    intro d hd
    exact absurd hd (hidle d)
  refine (lane.obeys_advance _ _ ht hannounce hnext hs ⟨quiet_nil, hstart⟩).mono
    (fun _ _ hx => hx.1) ?_
  rintro r h ⟨s', -, hh, -⟩
  exact hh

end Loop

/-! ## All chains -/

theorem obeys_abandon_ahead (t : Transfer) :
    abandon.Obeys (Ahead t) (fun _ h => Quiet h) [] := by
  have hlaw : Ahead t [] (published .empty) := by
    refine ⟨?_, quiet_nil.lastCall _⟩
    rintro c x ⟨⟩
  intro _
  exact ⟨hlaw, quiet_published [] .empty⟩

theorem obeys_advance_ahead {writer : ChainFamily} {t : Transfer} {s : State}
    (hidle : ∀ d, s.standing.progress ≠ .inProgress d) :
    (advance writer t s).Obeys (Ahead t) (fun _ h => Quiet h) [] := by
  by_cases habandon : writer ≠ t.source ∨ t.source = .aptos
  · rw [advance_eq_abandon s habandon]
    exact obeys_abandon_ahead t
  · obtain ⟨hwriter, hserved⟩ := not_or.1 habandon
    obtain rfl := not_not.1 hwriter
    -- A state of another family is given up, and nothing is in progress at the start.
    have hfilling : ∀ d, Standing.unbegun.progress ≠ .inProgress d := fun _ heq => nomatch heq
    cases hsource : t.source with
    | evm =>
        cases s with
        | evm stage =>
            exact evmLane.obeys_advance_ahead (evmFlow_stands t) (fun _ => rfl) hsource rfl hidle
        | empty | cosmos =>
            exact evmLane.obeys_advance_ahead (evmFlow_stands t) (fun _ => rfl) hsource rfl hfilling
    | cosmos =>
        cases s with
        | cosmos stage =>
            exact cosmosLane.obeys_advance_ahead (cosmosFlow_stands t) (fun _ => rfl) hsource rfl
              hidle
        | empty | evm =>
            exact cosmosLane.obeys_advance_ahead (cosmosFlow_stands t) (fun _ => rfl) hsource rfl
              hfilling
    | aptos => exact absurd hsource hserved

/-- Whatever a submission that is not in progress is advanced from, on whatever chain and with
whatever answers: each call is made while the state that was published last is that of its step, in
progress and with what the call is about, and what came of the step is in the state that is
published next. -/
theorem writeAhead_of_advance {writer : ChainFamily} {t : Transfer} {s : State}
    (hidle : ∀ d, s.standing.progress ≠ .inProgress d) {log : Log} {rest : Talk (Option State)}
    (hl : (advance writer t s).Leads log rest) : WriteAhead t log rest := by
  obtain ⟨hlaw, hrest⟩ := (obeys_advance_ahead hidle).leads hl (lawful_nil _)
  exact Ahead.writeAhead hlaw hrest

/-- The sample is taken up from a failure, and is sent with the salt that was published before. -/
theorem sample_writeAhead : (∀ d, sampleState.standing.progress ≠ .inProgress d) ∧
    ∃ pre hash post, sampleRest = pre ++ answered (.submit (sample.request 9)) (.ok hash) :: post ∧
      (lastState pre).standing.Announces sample (.submit (sample.request 9)) := by
  have hidle : ∀ d, sampleState.standing.progress ≠ .inProgress d := fun _ heq => nomatch heq
  obtain ⟨rest, hl⟩ := sample_leads
  have hsent : ∃ hash, sampleRest[18]? = some (answered (.submit (sample.request 9)) (.ok hash)) :=
    ⟨_, rfl⟩
  obtain ⟨hash, hsent⟩ := hsent
  obtain ⟨pre, post, hsplit⟩ := List.append_of_mem (List.mem_of_getElem? hsent)
  exact ⟨hidle, pre, hash, post, hsplit,
    (writeAhead_of_advance hidle hl).announced pre _ _ post hsplit⟩

end TokenBridge.Submission
