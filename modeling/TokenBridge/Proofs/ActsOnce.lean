import TokenBridge.Proofs.Conversation

set_option autoImplicit false

/-! # Dialogues with one deed

Some questions do a deed: it is done once they are put, whatever is answered. A dialogue that puts
at most one of them, and nothing after it, cannot do the deed twice, and its success can only stand
on the one answer (`ActsOnce`). To show this of a dialogue, one shows that it keeps to a law
(`firstDeed`) and that every answer which stands for a result leads to it (`actsOnce_of_obeys`).
What comes to nothing before the first question does no deed (`actsOnce_ofExcept_bind`).
-/

namespace TokenBridge.Dialogue

variable {Q : Type} {Answer : Q → Type} {α β γ ε : Type}

/-- Some of the questions do a deed. Whatever is answered, the dialogue puts at most one of them,
puts it last, and is `Ready` for it then. It succeeds if and only if it has put one in this way and
the answer to it stands for the result. -/
structure ActsOnce (deed? : Q → Option γ) (Ready : List (Exchange Answer) → γ → Prop)
    (Stands : Exchange Answer → α → Prop) (d : Dialogue Answer (Except ε α)) : Prop where
  atMostOne : ∀ {log rest}, d.Leads log rest → (log.filterMap fun x => deed? x.1).length ≤ 1
  last : ∀ {before x after rest c}, d.Leads (before ++ x :: after) rest → deed? x.1 = some c →
    after = [] ∧ ∃ result, rest = done result
  ready : ∀ {before x after rest c}, d.Leads (before ++ x :: after) rest → deed? x.1 = some c →
    Ready before c
  succeeds : ∀ {log a}, d.Leads log (done (.ok a)) ↔
    ∃ before x c, log = before ++ [x] ∧ deed? x.1 = some c ∧ Ready before c ∧ Stands x a

/-- No deed has been done before, and a deed is done only when all is ready. -/
def firstDeed (deed? : Q → Option γ) (Ready : List (Exchange Answer) → γ → Prop) : Law Answer :=
  fun h x => (∀ y ∈ h, deed? y.1 = none) ∧ ∀ c, deed? x.1 = some c → Ready h c

/-- As long as no deed has been done, one may ask what does none. -/
theorem firstDeed_of_eq_none {deed? : Q → Option γ} {Ready : List (Exchange Answer) → γ → Prop}
    {h : List (Exchange Answer)} {x : Exchange Answer} (hx : deed? x.1 = none)
    (hh : ∀ y ∈ h, deed? y.1 = none) : firstDeed deed? Ready h x := by
  refine ⟨hh, ?_⟩
  intro c hc
  rw [hx] at hc
  cases hc

/-- A success stands on the answer to a deed, which came last. -/
def StandsOnDeed (deed? : Q → Option γ) (Stands : Exchange Answer → α → Prop) :
    Except ε α → List (Exchange Answer) → Prop
  | .ok a, h => ∃ before x c, h = before ++ [x] ∧ deed? x.1 = some c ∧ Stands x a
  | .error _, _ => True

section ActsOnce

variable {deed? : Q → Option γ} {Ready Ready' : List (Exchange Answer) → γ → Prop}
  {Stands : Exchange Answer → α → Prop} {d : Dialogue Answer (Except ε α)}

/-- A dialogue acts once if it keeps to the law of the first deed, its successes stand on a deed,
and every deed with an answer that stands for a result leads to it. -/
theorem actsOnce_of_obeys (hanswer : ∀ q, Nonempty (Answer q))
    (hd : d.Obeys (firstDeed deed? Ready) (StandsOnDeed deed? Stands) [])
    (hdone : ∀ {before x c a}, deed? x.1 = some c → Ready before c → Stands x a →
      d.Leads (before ++ [x]) (done (.ok a))) : ActsOnce deed? Ready Stands d where
  atMostOne h := by
    refine (hd.leads h (lawful_nil _)).1.length_filterMap_le_one ?_
    intro before x hx _
    exact List.filterMap_eq_nil_iff.2 hx.1
  last {before x after rest c} h hx := by
    obtain ⟨hlaw, hrest⟩ := hd.leads h (lawful_nil _)
    have hnone : ¬deed? x.1 = none := by
      rw [hx]
      exact Option.some_ne_none c
    constructor
    · cases after with
      | nil => rfl
      | cons y after =>
          -- The deed would stand before `y`.
          have hy := hlaw (before ++ [x]) y after (by simp)
          exact absurd (hy.1 x (List.mem_append_right _ List.mem_cons_self)) hnone
    · cases rest with
      | done result => exact ⟨result, rfl⟩
      | ask q next =>
          obtain ⟨r⟩ := hanswer q
          have hq := (hrest r).1
          exact absurd (hq.1 x (by simp)) hnone
  ready {before x after rest c} h hx := by
    have hlaw := (hd.leads h (lawful_nil _)).1
    exact (hlaw before x after rfl).2 c hx
  succeeds {log a} := by
    constructor
    · intro h
      obtain ⟨hlaw, before, x, c, rfl, hx, hstands⟩ := hd.leads h (lawful_nil _)
      exact ⟨before, x, c, rfl, hx, (hlaw before x [] rfl).2 c hx, hstands⟩
    · rintro ⟨before, x, c, rfl, hx, hready, hstands⟩
      exact hdone hx hready hstands

theorem ActsOnce.congr (hd : ActsOnce deed? Ready Stands d)
    (hready : ∀ h c, Ready h c ↔ Ready' h c) : ActsOnce deed? Ready' Stands d := by
  have heq : Ready = Ready' := funext fun h => funext fun c => propext (hready h c)
  exact heq ▸ hd

/-- A dialogue that fails at once does nothing. -/
theorem actsOnce_error (e : ε) (hready : ∀ h c, ¬Ready h c) :
    ActsOnce deed? Ready Stands (done (.error e) : Dialogue Answer (Except ε α)) := by
  have hnothing {log : List (Exchange Answer)} {rest : Dialogue Answer (Except ε α)}
      (h : Leads (done (.error e)) log rest) : log = [] ∧ rest = done (.error e) := by
    cases h
    exact ⟨rfl, rfl⟩
  have hdeedless {before after : List (Exchange Answer)} {x : Exchange Answer}
      {rest : Dialogue Answer (Except ε α)}
      (h : Leads (done (.error e)) (before ++ x :: after) rest) : False := by
    have hnil := (hnothing h).1
    simp at hnil
  exact {
    atMostOne := fun h => by
      rw [(hnothing h).1]
      exact Nat.zero_le 1
    last := fun h _ => (hdeedless h).elim
    ready := fun h _ => (hdeedless h).elim
    succeeds := by
      intro log a
      constructor
      · intro h
        cases (hnothing h).2
      · rintro ⟨before, x, c, -, -, hc, -⟩
        exact absurd hc (hready before c) }

/-- What is found out before anything is asked belongs to what has to be ready. -/
theorem actsOnce_ofExcept_bind {x : Except ε β} {f : β → ExceptT ε (Dialogue Answer) α}
    {Ready : β → List (Exchange Answer) → γ → Prop}
    (hf : ∀ b, x = .ok b → ActsOnce deed? (Ready b) Stands (f b).run) :
    ActsOnce deed? (fun h c => ∃ b, x = .ok b ∧ Ready b h c) Stands
      ((liftM x : ExceptT ε (Dialogue Answer) β) >>= f).run := by
  cases x with
  | error e =>
      refine actsOnce_error e ?_
      rintro h c ⟨b, hb, -⟩
      cases hb
  | ok b =>
      refine (hf b rfl).congr fun h c => ?_
      constructor
      · intro hready
        exact ⟨b, rfl, hready⟩
      · rintro ⟨_, ⟨⟩, hready⟩
        exact hready

end ActsOnce

end TokenBridge.Dialogue
