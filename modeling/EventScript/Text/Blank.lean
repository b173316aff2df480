import EventScript.Text.Ranges

/-!
# Blank code points

The white space of Unicode, and with it the four information separators U+001C to U+001F.
-/

namespace EventScript

def blankRanges : Ranges := [
    (0x9, 0xD), (0x1C, 0x20), (0x85, 0x85), (0xA0, 0xA0), (0x1680, 0x1680), (0x2000, 0x200A),
    (0x2028, 0x2029), (0x202F, 0x202F), (0x205F, 0x205F), (0x3000, 0x3000)]

def CodePoint.isBlank (c : CodePoint) : Bool :=
  blankRanges.contains c.val

/-- Without the blank code points at its ends. -/
def Text.strip (t : Text) : Text :=
  t.trim CodePoint.isBlank

end EventScript
