/-!
White space in the sense of Unicode's `White_Space` property, and text without the white space
at its ends.
-/
namespace Lookback.Text

/-- The 25 code points of `White_Space`. -/
def isBlank (c : Char) : Bool :=
  let n := c.toNat
  (0x9 ≤ n && n ≤ 0xD) || n == 0x20 || n == 0x85 || n == 0xA0 || n == 0x1680 ||
    (0x2000 ≤ n && n ≤ 0x200A) || n == 0x2028 || n == 0x2029 || n == 0x202F || n == 0x205F ||
    n == 0x3000

def dropBlank (cs : List Char) : List Char := cs.dropWhile isBlank

def dropBlankEnd (cs : List Char) : List Char := (dropBlank cs.reverse).reverse

/-- The text between the white space at both ends. -/
def trim (cs : List Char) : List Char := dropBlankEnd (dropBlank cs)

end Lookback.Text
