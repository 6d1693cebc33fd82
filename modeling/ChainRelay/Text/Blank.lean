/-!
# Blank space

The characters with the Unicode property `White_Space`, and texts without them
at their ends.
-/

namespace ChainRelay.Blank

/-- Whether a character is white space. -/
def isBlank (c : Char) : Bool :=
  let n := c.toNat
  (9 ≤ n && n ≤ 13) || n = 0x20 || n = 0x85 || n = 0xA0 || n = 0x1680
    || (0x2000 ≤ n && n ≤ 0x200A) || n = 0x2028 || n = 0x2029 || n = 0x202F
    || n = 0x205F || n = 0x3000

/-- Characters without the last ones that satisfy `p`. -/
def dropLastWhile (p : Char → Bool) (cs : List Char) : List Char :=
  (cs.reverse.dropWhile p).reverse

/-- A text without white space at its ends. -/
def trim (s : String) : String :=
  String.ofList (dropLastWhile isBlank (s.toList.dropWhile isBlank))

/-- A text without the slashes at its end. -/
def trimSlashes (s : String) : String :=
  String.ofList (dropLastWhile (· = '/') s.toList)

end ChainRelay.Blank
