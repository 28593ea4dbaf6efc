/-!
# Sizes in bytes

Positions in a text are counted in bytes of its UTF-8 form. `byteLength` is that size of a list of
characters.
-/

namespace Concord.Text

/-- The size of the characters in UTF-8. -/
def byteLength (cs : List Char) : Nat := cs.foldl (fun size c => size + c.utf8Size) 0

end Concord.Text
