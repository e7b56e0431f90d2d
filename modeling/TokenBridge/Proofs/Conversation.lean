import Mathlib.Data.List.Induction
import TokenBridge.Dialogue

set_option autoImplicit false

/-! # Conversations

What is said in a dialogue: the questions in order, each with the answer that it got. `Leads` says
which conversations are possible at all, under any answers; `Obeys` says that all of them keep to a
law and end well, and is proved along the way in which a dialogue is put together (`obeys_bind`).
The law may look at everything that was said before. `transcript` is the one conversation with a
given partner.
-/

namespace TokenBridge.Dialogue

variable {Q : Type} {Answer : Q → Type} {α β σ : Type}

/-- A question, and the answer that it got. -/
abbrev Exchange (Answer : Q → Type) := (q : Q) × Answer q

/-! ## Possible conversations -/

/-- After the exchanges of `log`, what is left of the dialogue is `rest`. -/
inductive Leads : Dialogue Answer α → List (Exchange Answer) → Dialogue Answer α → Prop
  | refl (d : Dialogue Answer α) : Leads d [] d
  | ask (q : Q) (next : Answer q → Dialogue Answer α) (r : Answer q)
      {log : List (Exchange Answer)} {rest : Dialogue Answer α} (h : Leads (next r) log rest) :
      Leads (.ask q next) (⟨q, r⟩ :: log) rest

theorem leads_done_iff {a : α} {log : List (Exchange Answer)} {rest : Dialogue Answer α} :
    Leads (done a) log rest ↔ log = [] ∧ rest = done a := by
  constructor
  · intro h
    cases h
    exact ⟨rfl, rfl⟩
  · rintro ⟨rfl, rfl⟩
    exact .refl _

theorem leads_nil_iff {d rest : Dialogue Answer α} : Leads d [] rest ↔ rest = d := by
  constructor
  · intro h
    cases h
    rfl
  · rintro rfl
    exact .refl _

/-- Either the question has not been answered yet, or the dialogue has gone on with the answer. -/
theorem leads_ask_iff {q : Q} {next : Answer q → Dialogue Answer α}
    {log : List (Exchange Answer)} {rest : Dialogue Answer α} :
    Leads (.ask q next) log rest ↔ (log = [] ∧ rest = .ask q next) ∨
      ∃ r more, log = ⟨q, r⟩ :: more ∧ Leads (next r) more rest := by
  constructor
  · intro h
    cases h with
    | refl => exact .inl ⟨rfl, rfl⟩
    | ask _ _ r h => exact .inr ⟨r, _, rfl, h⟩
  · rintro (⟨rfl, rfl⟩ | ⟨r, more, rfl, h⟩)
    · exact .refl _
    · exact .ask q next r h

theorem leads_ask_cons_iff {q : Q} {next : Answer q → Dialogue Answer α} {r : Answer q}
    {log : List (Exchange Answer)} {rest : Dialogue Answer α} :
    Leads (.ask q next) (⟨q, r⟩ :: log) rest ↔ Leads (next r) log rest := by
  constructor
  · intro h
    cases h with
    | ask _ _ _ h => exact h
  · exact .ask q next r

/-- A dialogue goes on after another one as it would on its own. -/
theorem Leads.bind {d : Dialogue Answer β} {f : β → Dialogue Answer α} {rest : Dialogue Answer α}
    {log more : List (Exchange Answer)} {b : β} (hd : Leads d log (done b))
    (hf : Leads (f b) more rest) : Leads (d >>= f) (log ++ more) rest := by
  show Leads (d.bind f) (log ++ more) rest
  generalize hend : (done b : Dialogue Answer β) = last at hd
  induction hd with
  | refl d =>
      subst hend
      exact hf
  | ask q next r _ ih => exact .ask q _ r (ih hend)

/-- After a success a dialogue goes on with its result. -/
theorem Leads.bind_run {ε : Type} {d : ExceptT ε (Dialogue Answer) β}
    {f : β → ExceptT ε (Dialogue Answer) α} {rest : Dialogue Answer (Except ε α)}
    {log more : List (Exchange Answer)} {b : β} (hd : Leads d.run log (done (.ok b)))
    (hf : Leads (f b).run more rest) : Leads (d >>= f).run (log ++ more) rest :=
  hd.bind hf

/-- A success stays one when failures are told in another way. -/
theorem Leads.adapt {ε ε' : Type} {d : ExceptT ε (Dialogue Answer) α}
    {log : List (Exchange Answer)} {a : α} (hd : d.run.Leads log (done (.ok a))) (f : ε → ε') :
    (d.adapt f).run.Leads log (done (.ok a)) := by
  have hlast : Leads (pure ((Except.ok a).mapError f) : Dialogue Answer (Except ε' α)) []
      (done (.ok a)) := .refl _
  have hall := hd.bind (f := fun r => pure (r.mapError f)) hlast
  rwa [List.append_nil] at hall

/-! ## Laws -/

/-- What may be said, given what was said before. -/
abbrev Law (Answer : Q → Type) := List (Exchange Answer) → Exchange Answer → Prop

/-- Every exchange is one that the law admits after those before it. -/
def Lawful (law : Law Answer) (log : List (Exchange Answer)) : Prop :=
  ∀ pre x post, log = pre ++ x :: post → law pre x

theorem lawful_nil (law : Law Answer) : Lawful law [] := by
  intro pre x post h
  simp at h

theorem lawful_snoc {law : Law Answer} {log : List (Exchange Answer)} {x : Exchange Answer} :
    Lawful law (log ++ [x]) ↔ Lawful law log ∧ law log x := by
  constructor
  · intro h
    refine ⟨fun pre y post hlog => ?_, h log x [] rfl⟩
    exact h pre y (post ++ [x]) (by simp [hlog])
  · rintro ⟨hlog, hx⟩ pre y post h
    -- The exchange in question is the last one, or it stands in `log`.
    rcases List.eq_nil_or_concat post with rfl | ⟨post, z, rfl⟩
    · obtain ⟨hpre, hlast⟩ := List.append_inj' h rfl
      rw [← hpre, ← List.head_eq_of_cons_eq hlast]
      exact hx
    · have h' : log ++ [x] = (pre ++ y :: post) ++ [z] := by simpa using h
      exact hlog pre y post (List.append_inj' h' rfl).1

theorem Lawful.mono {law law' : Law Answer} {log : List (Exchange Answer)}
    (hlog : Lawful law log) (himp : ∀ pre x, law pre x → law' pre x) : Lawful law' log :=
  fun pre x post h => himp pre x (hlog pre x post h)

/-- What was lawful as a whole was so up to any point. -/
theorem Lawful.of_append {law : Law Answer} {log new : List (Exchange Answer)}
    (hlog : Lawful law (log ++ new)) : Lawful law log :=
  fun pre x post h => hlog pre x (post ++ new) (by simp [h])

section Kinds

variable {law : Law Answer} {log : List (Exchange Answer)} {γ : Type}
  {kind : Exchange Answer → Option γ}

/-- If the law admits an exchange of a kind only where there was none before, there is at most
one. -/
theorem Lawful.length_filterMap_le_one (hlog : Lawful law log)
    (honce : ∀ h x, law h x → kind x ≠ none → h.filterMap kind = []) :
    (log.filterMap kind).length ≤ 1 := by
  induction log using List.reverseRecOn with
  | nil => simp
  | append_singleton log x ih =>
      obtain ⟨hlog, hx⟩ := lawful_snoc.1 hlog
      rw [List.filterMap_append]
      cases hkind : kind x with
      | none => simpa [hkind] using ih hlog
      | some c => simp [hkind, honce log x hx (by simp [hkind])]

/-- If the law admits no exchange of a kind any more after `x`, there is none. -/
theorem Lawful.filterMap_eq_nil {pre post : List (Exchange Answer)} {x : Exchange Answer}
    (hlog : Lawful law log) (hsplit : log = pre ++ x :: post)
    (hnone : ∀ mid y, law (pre ++ x :: mid) y → kind y = none) : post.filterMap kind = [] := by
  rw [List.filterMap_eq_nil_iff]
  intro y hy
  obtain ⟨mid, rest, rfl⟩ := List.append_of_mem hy
  exact hnone mid y (hlog (pre ++ x :: mid) y rest (by simp [hsplit]))

end Kinds

/-! ## Dialogues that keep to a law -/

/-- After `h` was said, the dialogue keeps to the law whatever is answered, and what it ends with
satisfies `post`, together with all that was said by then. -/
def Obeys (law : Law Answer) (post : α → List (Exchange Answer) → Prop) :
    Dialogue Answer α → List (Exchange Answer) → Prop
  | done a, h => post a h
  | ask q next, h => ∀ r, law h ⟨q, r⟩ ∧ Obeys law post (next r) (h ++ [⟨q, r⟩])

section Obeys

variable {law law' : Law Answer} {post post' : α → List (Exchange Answer) → Prop}
  {h : List (Exchange Answer)}

@[simp] theorem obeys_pure (a : α) :
    Obeys law post (pure a : Dialogue Answer α) h ↔ post a h := Iff.rfl

/-- What follows a dialogue has to keep to the law after whatever was said in it. -/
@[simp] theorem obeys_bind {d : Dialogue Answer β} {f : β → Dialogue Answer α} :
    Obeys law post (d >>= f) h ↔ Obeys law (fun b h => Obeys law post (f b) h) d h := by
  show Obeys law post (d.bind f) h ↔ _
  -- What is said in `d` moves into `h`, which is why the induction is over all `h`.
  induction d generalizing h with
  | done b => exact Iff.rfl
  | ask q next ih =>
      show (∀ r, law h ⟨q, r⟩ ∧ Obeys law post ((next r).bind f) (h ++ [⟨q, r⟩])) ↔
        ∀ r, law h ⟨q, r⟩ ∧ Obeys law _ (next r) (h ++ [⟨q, r⟩])
      simp only [ih]

/-- What follows a dialogue that may fail follows only its result; a failure ends the whole. -/
theorem obeys_bind_run {ε : Type} {d : ExceptT ε (Dialogue Answer) β}
    {f : β → ExceptT ε (Dialogue Answer) α} {post : Except ε α → List (Exchange Answer) → Prop} :
    Obeys law post (d >>= f).run h ↔
      Obeys law (fun r h =>
        match r with
        | .ok b => Obeys law post (f b).run h
        | .error e => post (.error e) h) d.run h := by
  have hcont : (fun r h => Obeys law post (ExceptT.bindCont f r) h) = fun r h =>
      match r with
      | .ok b => Obeys law post (f b).run h
      | .error e => post (.error e) h := by
    funext r h
    cases r <;> rfl
  rw [← hcont]
  exact obeys_bind

/-- Failures may be told in another way. -/
theorem obeys_adapt {ε ε' : Type} {d : ExceptT ε (Dialogue Answer) α} {f : ε → ε'}
    {post : Except ε' α → List (Exchange Answer) → Prop} :
    Obeys law post (d.adapt f).run h ↔ Obeys law (fun r h => post (r.mapError f) h) d.run h :=
  obeys_bind

theorem Obeys.mono {d : Dialogue Answer α} (hd : Obeys law post d h)
    (hlaw : ∀ h x, law h x → law' h x) (hpost : ∀ a h, post a h → post' a h) :
    Obeys law' post' d h := by
  induction d generalizing h with
  | done a => exact hpost a h hd
  | ask q next ih =>
      intro r
      exact ⟨hlaw _ _ (hd r).1, ih r (hd r).2⟩

theorem Obeys.and {d : Dialogue Answer α} (hd : Obeys law post d h) (hd' : Obeys law' post' d h) :
    Obeys (fun h x => law h x ∧ law' h x) (fun a h => post a h ∧ post' a h) d h := by
  induction d generalizing h with
  | done a => exact ⟨hd, hd'⟩
  | ask q next ih =>
      intro r
      exact ⟨⟨(hd r).1, (hd' r).1⟩, ih r (hd r).2 (hd' r).2⟩

/-- What every lawful exchange keeps holds all along. -/
theorem Obeys.keep {d : Dialogue Answer α} (hd : Obeys law post d h)
    (kept : List (Exchange Answer) → Prop) (hh : kept h)
    (hkeep : ∀ h x, law h x → kept h → kept (h ++ [x])) :
    Obeys (fun h x => law h x ∧ kept h) (fun a h => post a h ∧ kept h) d h := by
  induction d generalizing h with
  | done a => exact ⟨hd, hh⟩
  | ask q next ih =>
      intro r
      obtain ⟨hx, hrest⟩ := hd r
      exact ⟨⟨hx, hh⟩, ih r hrest (hkeep _ _ hx hh)⟩

/-- What was said stays said. -/
theorem Obeys.grows {d : Dialogue Answer α} (hd : Obeys law post d h) :
    Obeys law (fun a h' => (∃ new, h' = h ++ new) ∧ post a h') d h := by
  induction d generalizing h with
  | done a => exact ⟨⟨[], (List.append_nil h).symm⟩, hd⟩
  | ask q next ih =>
      intro r
      refine ⟨(hd r).1, (ih r (hd r).2).mono (fun _ _ hx => hx) ?_⟩
      rintro a h' ⟨⟨new, rfl⟩, ha⟩
      exact ⟨⟨⟨q, r⟩ :: new, by simp⟩, ha⟩

/-- What follows a dialogue matters only for what it can end with. -/
theorem Obeys.bind_congr {d : Dialogue Answer β} {post : β → List (Exchange Answer) → Prop}
    {f g : β → Dialogue Answer α} (hd : d.Obeys law post h) (hfg : ∀ b h, post b h → f b = g b) :
    d >>= f = d >>= g := by
  show d.bind f = d.bind g
  induction d generalizing h with
  | done b => exact hfg b h hd
  | ask q next ih => exact congrArg (ask q) (funext fun r => ih r (hd r).2)

/-- What is said in a dialogue that keeps to the law is admitted, even where the law did not hold
before. -/
theorem Obeys.admits {d rest : Dialogue Answer α} {log : List (Exchange Answer)}
    (hd : Obeys law post d h) (hl : Leads d log rest) {pre after : List (Exchange Answer)}
    {x : Exchange Answer} (hlog : log = pre ++ x :: after) : law (h ++ pre) x := by
  induction hl generalizing h pre with
  | refl d => exact absurd hlog.symm (by simp)
  | ask q next r _ ih =>
      obtain ⟨hx, hrest⟩ := hd r
      cases pre with
      | nil =>
          obtain ⟨rfl, -⟩ := List.cons.inj hlog
          rwa [List.append_nil]
      | cons y pre =>
          obtain ⟨rfl, htail⟩ := List.cons.inj hlog
          rw [List.append_cons]
          exact ih hrest htail

/-- What is said in a dialogue that keeps to the law is lawful, and what is left of it keeps to the
law as well. -/
theorem Obeys.leads {d rest : Dialogue Answer α} {log : List (Exchange Answer)}
    (hd : Obeys law post d h) (hl : Leads d log rest) (hh : Lawful law h) :
    Lawful law (h ++ log) ∧ Obeys law post rest (h ++ log) := by
  induction hl generalizing h with
  | refl d => simpa using ⟨hh, hd⟩
  | ask q next r _ ih =>
      obtain ⟨hx, hrest⟩ := hd r
      simpa using ih hrest (lawful_snoc.2 ⟨hh, hx⟩)

end Obeys

/-! ## Laws that do not look back -/

/-- The dialogue keeps to the law whatever was said before it, whatever is answered, and whatever it
ends with. -/
structure Keeps (law : Law Answer) (d : Dialogue Answer α) : Prop where
  obeys : ∀ h, Obeys law (fun _ _ => True) d h

section Keeps

variable {law : Law Answer} {ε ε' : Type}

theorem Keeps.mono {law' : Law Answer} {d : Dialogue Answer α} (hd : Keeps law d)
    (hlaw : ∀ h x, law h x → law' h x) : Keeps law' d :=
  ⟨fun h => (hd.obeys h).mono hlaw fun _ _ _ => trivial⟩

theorem keeps_ofExcept (law : Law Answer) (x : Except ε α) :
    Keeps law (liftM x : ExceptT ε (Dialogue Answer) α).run := ⟨fun _ => trivial⟩

theorem Keeps.bind_run {d : ExceptT ε (Dialogue Answer) β}
    {f : β → ExceptT ε (Dialogue Answer) α} (hd : Keeps law d.run)
    (hf : ∀ b, Keeps law (f b).run) : Keeps law (d >>= f).run := by
  constructor
  intro h
  rw [obeys_bind_run]
  refine (hd.obeys h).mono (fun _ _ hx => hx) ?_
  rintro (e | b) h -
  · exact trivial
  · exact (hf b).obeys h

/-- After something that has nothing to ask, one goes on with what it has come to. -/
theorem keeps_ofExcept_bind {x : Except ε β} {f : β → ExceptT ε (Dialogue Answer) α}
    (hf : ∀ b, x = .ok b → Keeps law (f b).run) :
    Keeps law ((liftM x : ExceptT ε (Dialogue Answer) β) >>= f).run := by
  cases x with
  | error e => exact ⟨fun _ => trivial⟩
  | ok b => exact hf b rfl

theorem Keeps.adapt {d : ExceptT ε (Dialogue Answer) α} (hd : Keeps law d.run) (f : ε → ε') :
    Keeps law (d.adapt f).run := ⟨fun h => obeys_adapt.2 (hd.obeys h)⟩

end Keeps

/-! ## The conversation with a partner -/

/-- What is said when the partner answers. -/
def transcript (partner : σ → (q : Q) → Answer q × σ) :
    σ → Dialogue Answer α → List (Exchange Answer)
  | _, done _ => []
  | s, ask q next =>
      ⟨q, (partner s q).1⟩ :: transcript partner (partner s q).2 (next (partner s q).1)

variable (partner : σ → (q : Q) → Answer q × σ) (s : σ)

/-- The partner after it was asked all that. -/
def replay (log : List (Exchange Answer)) : σ := log.foldl (fun s x => (partner s x.1).2) s

@[simp] theorem replay_snoc (log : List (Exchange Answer)) (x : Exchange Answer) :
    replay partner s (log ++ [x]) = (partner (replay partner s log) x.1).2 := by
  simp [replay]

theorem replay_append (log new : List (Exchange Answer)) :
    replay partner s (log ++ new) = replay partner (replay partner s log) new :=
  List.foldl_append

/-- All answers are those of the partner. -/
def AnsweredBy (log : List (Exchange Answer)) : Prop :=
  Lawful (fun pre x => x.2 = (partner (replay partner s pre) x.1).1) log

/-- If all answers are those of the partner, what the dialogue ends with satisfies `post`, together
with all that was said by then. -/
def Plays (post : α → List (Exchange Answer) → Prop) (d : Dialogue Answer α)
    (h : List (Exchange Answer)) : Prop :=
  Obeys (fun _ _ => True) (fun a h => AnsweredBy partner s h → post a h) d h

section Plays

variable {partner : σ → (q : Q) → Answer q × σ} {s : σ} {h : List (Exchange Answer)}
  {post : α → List (Exchange Answer) → Prop} {d : Dialogue Answer α}

theorem plays_pure {a : α} (ha : post a h) : (pure a : Dialogue Answer α).Plays partner s post h :=
  fun _ => ha

/-- Nothing has to be shown after answers of somebody else. -/
theorem plays_of_answeredBy (hd : AnsweredBy partner s h → d.Plays partner s post h) :
    d.Plays partner s post h := by
  induction d generalizing h with
  | done a => exact fun hh => hd hh hh
  | ask q next ih => exact fun r => ⟨trivial, ih r fun hh => (hd (lawful_snoc.1 hh).1 r).2⟩

theorem plays_bind {d : Dialogue Answer β} {f : β → Dialogue Answer α}
    (hd : d.Plays partner s (fun b h => (f b).Plays partner s post h) h) :
    (d >>= f).Plays partner s post h :=
  obeys_bind.2 (Obeys.mono hd (fun _ _ hx => hx) fun _ _ hb => plays_of_answeredBy hb)

theorem Plays.mono {post' : α → List (Exchange Answer) → Prop} (hd : d.Plays partner s post h)
    (hpost : ∀ a h, post a h → post' a h) : d.Plays partner s post' h :=
  Obeys.mono hd (fun _ _ hx => hx) fun a h ha hh => hpost a h (ha hh)

/-- What is shown of all answers of the partner holds of the conversation with it. -/
theorem Plays.run (hd : d.Plays partner s post h) (hh : AnsweredBy partner s h) :
    post (d.run partner (replay partner s h)).1
      (h ++ d.transcript partner (replay partner s h)) := by
  induction d generalizing h with
  | done a =>
      rw [transcript, List.append_nil]
      exact hd hh
  | ask q next ih =>
      have hnext := ih _ (hd (partner (replay partner s h) q).1).2 (lawful_snoc.2 ⟨hh, rfl⟩)
      rw [replay_snoc, List.append_assoc] at hnext
      exact hnext

end Plays

/-- The conversation with a partner is a possible one, and ends with the result. -/
theorem leads_transcript (d : Dialogue Answer α) :
    Leads d (transcript partner s d) (done (run partner s d).1) := by
  induction d generalizing s with
  | done a => exact .refl _
  | ask q next ih => exact .ask q next _ (ih _ _)

/-- What is said further with a partner is answered by it as well. -/
theorem AnsweredBy.transcript {partner : σ → (q : Q) → Answer q × σ} {s : σ}
    {h : List (Exchange Answer)} (hh : AnsweredBy partner s h) (d : Dialogue Answer α) :
    AnsweredBy partner s (h ++ d.transcript partner (replay partner s h)) := by
  induction d generalizing h with
  | done a => rwa [Dialogue.transcript, List.append_nil]
  | ask q next ih =>
      have hfirst : AnsweredBy partner s (h ++ [⟨q, (partner (replay partner s h) q).1⟩]) :=
        lawful_snoc.2 ⟨hh, rfl⟩
      have hnext := ih (partner (replay partner s h) q).1 hfirst
      rwa [replay_snoc, List.append_assoc] at hnext

end TokenBridge.Dialogue
