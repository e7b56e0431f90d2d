set_option autoImplicit false

/-! # Letters in other shapes

Small letters also come in other widths, in circles, in mathematical alphabets, above or below the
line, and several in one character; and there are characters that stand for a blank with a mark on
it. Here they are taken apart. All other characters stay as they are: none of them stands for small
letters and blanks alone.
-/

namespace TokenBridge.LetterShape

/-- Runs of characters for letters in a row: the first and the last character, and the letter of the
first. -/
def runs : List (Nat × Nat × Char) := [
    (0xAA, 0xAA, 'a'), (0xBA, 0xBA, 'o'), (0x17F, 0x17F, 's'), (0x2B0, 0x2B0, 'h'),
    (0x2B2, 0x2B2, 'j'), (0x2B3, 0x2B3, 'r'), (0x2B7, 0x2B7, 'w'), (0x2B8, 0x2B8, 'y'),
    (0x2E1, 0x2E1, 'l'), (0x2E2, 0x2E2, 's'), (0x2E3, 0x2E3, 'x'), (0x1D43, 0x1D43, 'a'),
    (0x1D47, 0x1D47, 'b'), (0x1D48, 0x1D49, 'd'), (0x1D4D, 0x1D4D, 'g'), (0x1D4F, 0x1D4F, 'k'),
    (0x1D50, 0x1D50, 'm'), (0x1D52, 0x1D52, 'o'), (0x1D56, 0x1D56, 'p'), (0x1D57, 0x1D58, 't'),
    (0x1D5B, 0x1D5B, 'v'), (0x1D62, 0x1D62, 'i'), (0x1D63, 0x1D63, 'r'), (0x1D64, 0x1D65, 'u'),
    (0x1D9C, 0x1D9C, 'c'), (0x1DA0, 0x1DA0, 'f'), (0x1DBB, 0x1DBB, 'z'), (0x2071, 0x2071, 'i'),
    (0x207F, 0x207F, 'n'), (0x2090, 0x2090, 'a'), (0x2091, 0x2091, 'e'), (0x2092, 0x2092, 'o'),
    (0x2093, 0x2093, 'x'), (0x2095, 0x2095, 'h'), (0x2096, 0x2099, 'k'), (0x209A, 0x209A, 'p'),
    (0x209B, 0x209C, 's'), (0x210A, 0x210A, 'g'), (0x210E, 0x210E, 'h'), (0x2113, 0x2113, 'l'),
    (0x212F, 0x212F, 'e'), (0x2134, 0x2134, 'o'), (0x2139, 0x2139, 'i'), (0x2146, 0x2147, 'd'),
    (0x2148, 0x2149, 'i'), (0x2170, 0x2170, 'i'), (0x2174, 0x2174, 'v'), (0x2179, 0x2179, 'x'),
    (0x217C, 0x217C, 'l'), (0x217D, 0x217E, 'c'), (0x217F, 0x217F, 'm'), (0x24D0, 0x24E9, 'a'),
    (0x2C7C, 0x2C7C, 'j'), (0xFF41, 0xFF5A, 'a'), (0x107A5, 0x107A5, 'q'), (0x1D41A, 0x1D433, 'a'),
    (0x1D44E, 0x1D454, 'a'), (0x1D456, 0x1D467, 'i'), (0x1D482, 0x1D49B, 'a'),
    (0x1D4B6, 0x1D4B9, 'a'), (0x1D4BB, 0x1D4BB, 'f'), (0x1D4BD, 0x1D4C3, 'h'),
    (0x1D4C5, 0x1D4CF, 'p'), (0x1D4EA, 0x1D503, 'a'), (0x1D51E, 0x1D537, 'a'),
    (0x1D552, 0x1D56B, 'a'), (0x1D586, 0x1D59F, 'a'), (0x1D5BA, 0x1D5D3, 'a'),
    (0x1D5EE, 0x1D607, 'a'), (0x1D622, 0x1D63B, 'a'), (0x1D656, 0x1D66F, 'a'),
    (0x1D68A, 0x1D6A3, 'a')]

/-- Characters for more than one letter, or for blanks with something else. -/
def texts : List (Nat × String) := [
    (0xA8, " \u0308"), (0xAF, " \u0304"), (0xB4, " \u0301"), (0xB8, " \u0327"), (0x133, "ij"),
    (0x1C9, "lj"), (0x1CC, "nj"), (0x1F3, "dz"), (0x2D8, " \u0306"), (0x2D9, " \u0307"),
    (0x2DA, " \u030a"), (0x2DB, " \u0328"), (0x2DC, " \u0303"), (0x2DD, " \u030b"),
    (0x37A, " \u0345"), (0x384, " \u0301"), (0x385, " \u0308\u0301"), (0x1FBD, " \u0313"),
    (0x1FBF, " \u0313"), (0x1FC0, " \u0342"), (0x1FC1, " \u0308\u0342"), (0x1FCD, " \u0313\u0300"),
    (0x1FCE, " \u0313\u0301"), (0x1FCF, " \u0313\u0342"), (0x1FDD, " \u0314\u0300"),
    (0x1FDE, " \u0314\u0301"), (0x1FDF, " \u0314\u0342"), (0x1FED, " \u0308\u0300"),
    (0x1FEE, " \u0308\u0301"), (0x1FFD, " \u0301"), (0x1FFE, " \u0314"), (0x2017, " \u0333"),
    (0x203E, " \u0305"), (0x2171, "ii"), (0x2172, "iii"), (0x2173, "iv"), (0x2175, "vi"),
    (0x2176, "vii"), (0x2177, "viii"), (0x2178, "ix"), (0x217A, "xi"), (0x217B, "xii"),
    (0x309B, " \u3099"), (0x309C, " \u309a"), (0x32CD, "erg"), (0x3372, "da"), (0x3374, "bar"),
    (0x3376, "pc"), (0x3377, "dm"), (0x3388, "cal"), (0x3389, "kcal"), (0x338E, "mg"),
    (0x338F, "kg"), (0x3396, "ml"), (0x3397, "dl"), (0x3398, "kl"), (0x3399, "fm"), (0x339A, "nm"),
    (0x339C, "mm"), (0x339D, "cm"), (0x339E, "km"), (0x33AD, "rad"), (0x33B0, "ps"),
    (0x33B1, "ns"), (0x33B3, "ms"), (0x33C4, "cc"), (0x33C5, "cd"), (0x33CA, "ha"), (0x33CC, "in"),
    (0x33CF, "kt"), (0x33D0, "lm"), (0x33D1, "ln"), (0x33D2, "log"), (0x33D3, "lx"),
    (0x33D4, "mb"), (0x33D5, "mil"), (0x33D6, "mol"), (0x33DB, "sr"), (0x33FF, "gal"),
    (0xFB00, "ff"), (0xFB01, "fi"), (0xFB02, "fl"), (0xFB03, "ffi"), (0xFB04, "ffl"),
    (0xFB05, "st"), (0xFB06, "st"), (0xFC5E, " \u064c\u0651"), (0xFC5F, " \u064d\u0651"),
    (0xFC60, " \u064e\u0651"), (0xFC61, " \u064f\u0651"), (0xFC62, " \u0650\u0651"),
    (0xFC63, " \u0651\u0670"),
    (0xFDFA, "\u0635\u0644\u0649 \u0627\u0644\u0644\u0647 " ++
      "\u0639\u0644\u064a\u0647 \u0648\u0633\u0644\u0645"),
    (0xFDFB, "\u062c\u0644 \u062c\u0644\u0627\u0644\u0647"), (0xFE49, " \u0305"),
    (0xFE4A, " \u0305"), (0xFE4B, " \u0305"), (0xFE4C, " \u0305"), (0xFE70, " \u064b"),
    (0xFE72, " \u064c"), (0xFE74, " \u064d"), (0xFE76, " \u064e"), (0xFE78, " \u064f"),
    (0xFE7A, " \u0650"), (0xFE7C, " \u0651"), (0xFE7E, " \u0652"), (0xFFE3, " \u0304")]

/-- What a character stands for. -/
def expand (c : Char) : List Char :=
  match runs.find? fun (first, last, _) => first ≤ c.toNat && c.toNat ≤ last with
  | some (first, _, letter) => [Char.ofNat (letter.toNat + (c.toNat - first))]
  | none =>
      match texts.lookup c.toNat with
      | some text => text.toList
      | none => [c]

/-- The text in plain letters. -/
def plain (s : String) : String := String.ofList (s.toList.flatMap expand)

end TokenBridge.LetterShape
