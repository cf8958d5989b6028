/-!
# Blank characters

White space in the sense of Unicode (property White_Space), and text that
holds nothing else.
-/

set_option autoImplicit false

namespace ChatSocket.Text

/-- Closed ranges of the white space code points. -/
def blankRanges : List (Nat × Nat) :=
  [(0x9, 0xd), (0x20, 0x20), (0x85, 0x85), (0xa0, 0xa0), (0x1680, 0x1680), (0x2000, 0x200a),
   (0x2028, 0x2029), (0x202f, 0x202f), (0x205f, 0x205f), (0x3000, 0x3000)]

def isBlankChar (c : Char) : Bool :=
  blankRanges.any fun range => range.1 ≤ c.toNat && c.toNat ≤ range.2

/-- Whether trimming white space from a text leaves nothing. -/
def isBlank (text : String) : Bool :=
  text.toList.all isBlankChar

end ChatSocket.Text
