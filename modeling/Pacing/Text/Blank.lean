/-!
# Blank characters

A class of characters is a list of ranges of code points.  This is the one of
the characters that count as white space around names, settings and tokens,
with what follows from them: the text between the first and the last other
character, and whether a text holds any other character at all.
-/

namespace Pacing.Text

/-- Inclusive ranges of code points, each as its first and its last. -/
abbrev CodeRanges := List (Nat × Nat)

namespace CodeRanges

/-- Whether a character lies in one of the ranges. -/
def holds (ranges : CodeRanges) (character : Char) : Bool :=
  ranges.any fun range =>
    range.1 ≤ character.toNat && character.toNat ≤ range.2

end CodeRanges

/-- The code points with the Unicode property White_Space, as inclusive
ranges in rising order. -/
def blankRanges : CodeRanges :=
  [(0x9, 0xD), (0x20, 0x20), (0x85, 0x85), (0xA0, 0xA0), (0x1680, 0x1680),
   (0x2000, 0x200A), (0x2028, 0x2029), (0x202F, 0x202F), (0x205F, 0x205F),
   (0x3000, 0x3000)]

def isBlankChar (character : Char) : Bool :=
  blankRanges.holds character

/-- The characters from the first to the last that is not blank. -/
def trimChars (characters : List Char) : List Char :=
  ((characters.dropWhile isBlankChar).reverse.dropWhile isBlankChar).reverse

/-- A text without the blank characters at its two ends. -/
def trim (text : String) : String :=
  String.ofList (trimChars text.toList)

/-- A text is blank when it holds nothing but blank characters. -/
def isBlank (text : String) : Bool :=
  text.toList.all isBlankChar

@[simp] theorem trim_toList (text : String) :
    (trim text).toList = trimChars text.toList := by
  simp [trim]

end Pacing.Text
