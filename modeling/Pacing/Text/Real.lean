/-!
# Texts of real numbers

Whether a text writes a real number: an optional sign, and behind it the name
of a number that has no digits, or decimal digits with an optional point among
or around them and an optional exponent.
-/

namespace Pacing.Text

/-- The names of infinity and of what is not a number. -/
def realNames : List (List Char) :=
  ["inf".toList, "infinity".toList, "nan".toList]

/-- A text without the sign at its head. -/
def dropSign : List Char → List Char
  | '+' :: rest => rest
  | '-' :: rest => rest
  | text => text

/-- Whether a text is an exponent or nothing. -/
def isExponent (text : List Char) : Bool :=
  match text with
  | [] => true
  | letter :: rest =>
    (letter = 'e' || letter = 'E') && !(dropSign rest).isEmpty &&
      (dropSign rest).all Char.isDigit

/-- Whether a text is digits around an optional point, and behind them an
exponent or nothing. -/
def isUnsignedReal (text : List Char) : Bool :=
  let whole := text.takeWhile Char.isDigit
  match text.dropWhile Char.isDigit with
  | '.' :: rest =>
    !(whole.isEmpty && (rest.takeWhile Char.isDigit).isEmpty) &&
      isExponent (rest.dropWhile Char.isDigit)
  | rest => !whole.isEmpty && isExponent rest

/-- Whether a text writes a real number; names may be in any case. -/
def isReal (text : List Char) : Bool :=
  realNames.contains ((dropSign text).map Char.toLower) || isUnsignedReal (dropSign text)

end Pacing.Text
