set_option autoImplicit false

/-! # Pieces of a text

A text is cut at every character of some kind. There is always one piece more than there are such
characters, and pieces may be empty.
-/

namespace TokenBridge.Pieces

/-- The pieces between the characters that are marks. -/
def cut (isMark : Char → Bool) : List Char → List (List Char)
  | [] => [[]]
  | c :: rest =>
      if isMark c then [] :: cut isMark rest
      else
        match cut isMark rest with
        | piece :: pieces => (c :: piece) :: pieces
        | [] => [[c]]

theorem length_cut (isMark : Char → Bool) (cs : List Char) :
    (cut isMark cs).length = cs.countP isMark + 1 := by
  induction cs with
  | nil => rfl
  | cons c rest ih =>
      by_cases h : isMark c
      · simp [cut, h, ih]
      · cases hc : cut isMark rest with
        | nil => simp [hc] at ih
        | cons piece pieces => simp [cut, h, hc] at ih ⊢; omega

end TokenBridge.Pieces
