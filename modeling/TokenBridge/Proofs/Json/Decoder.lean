import TokenBridge.Json.Decoder
import TokenBridge.Proofs.Outcome

set_option autoImplicit false

/-! # Texts of values that may be absent

Where a value may be absent, its text is read as none if and only if it is the word `null`, with any
blanks around it (`parse_optional_eq_none`).
-/

namespace TokenBridge.Json

variable {s rest : List Char}

/-! ## Blanks and words -/

def IsBlank (c : Char) : Prop := c ∈ [' ', '\n', '\t', '\r']

theorem skipBlanks_append {before : List Char} (h : ∀ c ∈ before, IsBlank c) :
    skipBlanks (before ++ rest) = skipBlanks rest := by
  rw [skipBlanks, List.dropWhile_append_of_pos]
  · rfl
  · intro c hc
    simpa [IsBlank, or_assoc] using h c hc

theorem exists_blanks_append (s : List Char) :
    ∃ before, (∀ c ∈ before, IsBlank c) ∧ s = before ++ skipBlanks s := by
  refine ⟨s.takeWhile fun c => c = ' ' || c = '\n' || c = '\t' || c = '\r', ?_, ?_⟩
  · intro c hc
    simpa [IsBlank, or_assoc] using List.all_eq_true.1 List.all_takeWhile c hc
  · exact List.takeWhile_append_dropWhile.symm

theorem atEnd_eq_ok_iff {u : Unit} : atEnd s = .ok u ↔ ∀ c ∈ s, IsBlank c := by
  constructor
  · intro h
    obtain ⟨before, hbefore, hs⟩ := exists_blanks_append s
    rw [atEnd] at h
    split at h
    · next hnil =>
        rw [hnil, List.append_nil] at hs
        rw [hs]
        exact hbefore
    · cases h
  · intro h
    have hnil : skipBlanks s = [] := by
      have hskip : skipBlanks (s ++ []) = [] := skipBlanks_append h
      rwa [List.append_nil] at hskip
    rw [atEnd, hnil]

theorem afterWord_eq_ok_iff {word : List Char} :
    afterWord word s = .ok rest ↔ s = word ++ rest := by
  induction word generalizing s with
  | nil => simp [afterWord]
  | cons w word ih =>
      cases s with
      | nil => simp [afterWord, stopAfter]
      | cons c s =>
          rw [afterWord]
          by_cases hw : w = c
          · subst hw
            simp [ih]
          · simp [hw, stopAt, Ne.symm hw]

/-! ## Absent values -/

/-- The text is the word that stands for no value. -/
def IsNull (text : String) : Prop :=
  ∃ before after, text.toList = before ++ ("null".toList ++ after) ∧
    (∀ c ∈ before, IsBlank c) ∧ ∀ c ∈ after, IsBlank c

namespace Decoder

variable {α : Type} {d : Decoder α} {text : String}

/-- Nothing but the word is taken for none. -/
theorem optional_eq_none_iff :
    d.optional s = .ok (none, rest) ↔ skipBlanks s = "null".toList ++ rest := by
  rw [optional]
  split
  · next more heq =>
      rw [heq]
      show (afterWord "ull".toList more >>= _) = _ ↔ _
      rw [Outcome.bind_eq_ok]
      constructor
      · rintro ⟨rest', hword, ⟨⟩⟩
        rw [afterWord_eq_ok_iff.1 hword]
        rfl
      · intro hmore
        exact ⟨rest, afterWord_eq_ok_iff.2 (List.cons.inj hmore).2, rfl⟩
  · next hother =>
      constructor
      · intro h
        obtain ⟨⟨a, rest'⟩, -, hnone⟩ := Outcome.bind_eq_ok.1 h
        cases hnone
      · intro hnull
        exact absurd hnull (hother _)

theorem parse_eq_ok_iff {a : α} :
    d.parse text = .ok a ↔ ∃ rest, d text.toList = .ok (a, rest) ∧ ∀ c ∈ rest, IsBlank c := by
  rw [parse, Outcome.mapError_eq_ok, Outcome.bind_eq_ok]
  constructor
  · rintro ⟨⟨a', rest⟩, hd, h⟩
    obtain ⟨u, hend, ⟨⟩⟩ := Outcome.bind_eq_ok.1 h
    exact ⟨rest, hd, atEnd_eq_ok_iff.1 hend⟩
  · rintro ⟨rest, hd, hrest⟩
    exact ⟨(a, rest), hd, Outcome.bind_eq_ok.2 ⟨(), atEnd_eq_ok_iff.2 hrest, rfl⟩⟩

theorem parse_optional_eq_none : d.optional.parse text = .ok none ↔ IsNull text := by
  rw [parse_eq_ok_iff]
  simp only [optional_eq_none_iff]
  constructor
  · rintro ⟨after, hword, hafter⟩
    obtain ⟨before, hbefore, hs⟩ := exists_blanks_append text.toList
    exact ⟨before, after, hword ▸ hs, hbefore, hafter⟩
  · rintro ⟨before, after, hs, hbefore, hafter⟩
    refine ⟨after, ?_, hafter⟩
    rw [hs, skipBlanks_append hbefore]
    rfl

end Decoder

end TokenBridge.Json
