/-!
# Parts of a text

The head of a text, the pieces between its separators, and what lies before and
behind a place in it.  Such a place is counted in the bytes of the encoding of
the text, UTF-8.  A text can be cut only between two characters, so a place
inside of a character is no place to cut at.
-/

namespace Pacing.Text

/-- The first characters of a text, up to a number of them. -/
def truncate (text : String) (count : Nat) : String :=
  String.ofList (text.toList.take count)

/-- The pieces of a text around a separator, one more than there are
separators. -/
def pieces (separator : Char) : List Char → List (List Char)
  | [] => [[]]
  | character :: rest =>
    if character = separator then [] :: pieces separator rest
    else
      match pieces separator rest with
      | [] => [[character]]
      | piece :: others => (character :: piece) :: others

@[simp] theorem pieces_nil (separator : Char) : pieces separator [] = [[]] := rfl

/-- The number of bytes of a list of characters. -/
def byteCount (characters : List Char) : Nat :=
  characters.foldl (fun count character => count + character.utf8Size) 0

/-- The characters before a place, if a text can be cut there. -/
def takeBytes? : Nat → List Char → Option (List Char)
  | 0, _ => some []
  | _ + 1, [] => none
  | place + 1, character :: rest =>
    if character.utf8Size ≤ place + 1 then
      (takeBytes? (place + 1 - character.utf8Size) rest).map (character :: ·)
    else none

/-- The characters from a place on, if a text can be cut there. -/
def dropBytes? : Nat → List Char → Option (List Char)
  | 0, characters => some characters
  | _ + 1, [] => none
  | place + 1, character :: rest =>
    if character.utf8Size ≤ place + 1 then
      dropBytes? (place + 1 - character.utf8Size) rest
    else none

end Pacing.Text
