set_option autoImplicit false

/-! # White space

The characters with the property White_Space, and what is done with them: taking them off both
ends of a text, and cutting a text into the words between them.
-/

namespace TokenBridge.Blank

/-- The ranges of characters that are white space. -/
def ranges : List (Nat × Nat) :=
  [(0x09, 0x0D), (0x20, 0x20), (0x85, 0x85), (0xA0, 0xA0), (0x1680, 0x1680), (0x2000, 0x200A),
    (0x2028, 0x2029), (0x202F, 0x202F), (0x205F, 0x205F), (0x3000, 0x3000)]

def isBlank (c : Char) : Bool := ranges.any fun (lo, hi) => lo ≤ c.toNat && c.toNat ≤ hi

/-- The text without the white space at its two ends. -/
def trim (s : String) : String :=
  String.ofList ((s.toList.dropWhile isBlank).reverse.dropWhile isBlank).reverse

/-- Cuts characters into runs that hold no white space; `word` is the run so far, in reverse. -/
def wordsFrom (word : List Char) : List Char → List (List Char)
  | [] => if word.isEmpty then [] else [word.reverse]
  | c :: cs =>
      if isBlank c then (if word.isEmpty then [] else [word.reverse]) ++ wordsFrom [] cs
      else wordsFrom (c :: word) cs

/-- The non-empty pieces between white space. -/
def words (s : String) : List String := (wordsFrom [] s.toList).map String.ofList

theorem isBlank_of_isWhitespace (c : Char) (h : c.isWhitespace = true) : isBlank c = true := by
  simp only [Char.isWhitespace, Bool.or_eq_true, decide_eq_true_eq] at h
  rcases h with ((rfl | rfl) | rfl) | rfl <;> decide

end TokenBridge.Blank
