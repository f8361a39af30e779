/-!
# White space

The characters with the property `White_Space`: the blank and five controls of the first block, the
next line, and the spaces and separators of the other blocks.

* `isWhiteSpace`: the property;
* `trimEnd`, `isBlank`: a text without white space at its end, a text of nothing else.
-/

namespace SceneMarkup.Unicode

/-- A character of white space. -/
def isWhiteSpace (c : Char) : Bool :=
  let n := c.toNat
  (9 ≤ n && n ≤ 13) || n == 0x20 || n == 0x85 || n == 0xA0 || n == 0x1680 ||
    (0x2000 ≤ n && n ≤ 0x200A) || n == 0x2028 || n == 0x2029 || n == 0x202F || n == 0x205F ||
    n == 0x3000

/-- A text without the white space at its end. -/
def trimEnd (text : List Char) : List Char := (text.reverse.dropWhile isWhiteSpace).reverse

/-- Nothing but white space. -/
def isBlank (text : String) : Bool := text.toList.all isWhiteSpace

end SceneMarkup.Unicode
