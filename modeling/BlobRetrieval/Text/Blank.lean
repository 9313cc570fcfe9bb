/-!
# Blank space

The characters with the property `White_Space`, and cutting them off both ends
of a text.
-/

set_option autoImplicit false

namespace BlobRetrieval

def Blank (c : Char) : Bool :=
  let n := c.toNat
  (9 ≤ n && n ≤ 13) || n == 0x20 || n == 0x85 || n == 0xA0 || n == 0x1680
    || (0x2000 ≤ n && n ≤ 0x200A) || n == 0x2028 || n == 0x2029 || n == 0x202F
    || n == 0x205F || n == 0x3000

def trimBlank (text : List Char) : List Char :=
  ((text.dropWhile Blank).reverse.dropWhile Blank).reverse

end BlobRetrieval
