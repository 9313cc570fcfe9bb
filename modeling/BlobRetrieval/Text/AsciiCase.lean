/-!
# Letter case in ASCII

Equality of texts that looks at no letter case in ASCII and at no other case at all.
-/

set_option autoImplicit false

namespace BlobRetrieval

def foldAscii (text : List Char) : List Char :=
  text.map Char.toLower

def sameIgnoringCase (a b : List Char) : Bool :=
  foldAscii a == foldAscii b

theorem sameIgnoringCase_iff (a b : List Char) :
    sameIgnoringCase a b = true ↔ foldAscii a = foldAscii b := by
  simp [sameIgnoringCase]

end BlobRetrieval
