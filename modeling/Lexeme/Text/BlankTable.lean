import Lexeme.Text.CodeTable

/-!
# The blank characters

The code points with the property White_Space, in ascending order.
-/

namespace Lexeme.Text

/-- Spaces, tabs, line breaks and the other white space of Unicode. -/
def blankTable : CodeTable :=
  [(0x9, 0xD), (0x20, 0x20), (0x85, 0x85), (0xA0, 0xA0), (0x1680, 0x1680), (0x2000, 0x200A),
   (0x2028, 0x2029), (0x202F, 0x202F), (0x205F, 0x205F), (0x3000, 0x3000)]

end Lexeme.Text
