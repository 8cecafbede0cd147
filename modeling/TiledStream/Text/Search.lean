/-! Finding and replacing parts of a text. -/

namespace TiledStream.Text

def contains (part : List Char) : List Char → Bool
  | [] => part.isEmpty
  | c :: rest => part.isPrefixOf (c :: rest) || contains part rest

/-- Replaces every occurrence of a part, from the left and without overlap. `skip` counts the
characters that an occurrence still covers. -/
def replaceFrom (part replacement : List Char) : (skip : Nat) → List Char → List Char
  | _, [] => []
  | skip + 1, _ :: rest => replaceFrom part replacement skip rest
  | 0, c :: rest =>
    if part.isPrefixOf (c :: rest) then
      replacement ++ replaceFrom part replacement (part.length - 1) rest
    else c :: replaceFrom part replacement 0 rest

def replaceAll (part replacement text : List Char) : List Char :=
  replaceFrom part replacement 0 text

end TiledStream.Text
