/-!
# Blank text

The characters of the Unicode property `White_Space`, and texts that hold
nothing else.
-/

namespace GaleraControl.Text

/-- Whether a character has the property `White_Space`. -/
def isSpace (c : Char) : Bool :=
  let point := c.toNat
  (0x09 ≤ point && point ≤ 0x0D) || point = 0x20 || point = 0x85 || point = 0xA0 ||
    point = 0x1680 || (0x2000 ≤ point && point ≤ 0x200A) || point = 0x2028 ||
    point = 0x2029 || point = 0x202F || point = 0x205F || point = 0x3000

/-- Whether a text is empty or consists of spaces only. -/
def isBlank (text : String) : Bool :=
  text.toList.all isSpace

@[simp]
theorem isBlank_empty : isBlank "" = true := by
  simp [isBlank]

end GaleraControl.Text
