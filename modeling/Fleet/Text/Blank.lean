/-!
# Blank characters

The Unicode property White_Space, and trimming by it.

The property is a list of code points and does not depend on a language or a setting. Trimming takes
such characters from both ends and leaves those inside.
-/

namespace Fleet.Text

/-- Unicode White_Space. -/
def isBlank (c : Char) : Bool :=
  let n := c.toNat
  (0x09 ≤ n && n ≤ 0x0d) || n == 0x20 || n == 0x85 || n == 0xa0 || n == 0x1680 ||
    (0x2000 ≤ n && n ≤ 0x200a) || n == 0x2028 || n == 0x2029 || n == 0x202f || n == 0x205f ||
    n == 0x3000

/-- Characters without the blank ones at the front. -/
def trimStart (cs : List Char) : List Char := cs.dropWhile isBlank

/-- Characters without the blank ones at the back. -/
def trimEnd (cs : List Char) : List Char := (cs.reverse.dropWhile isBlank).reverse

/-- Characters without blank ones on either side. -/
def trimChars (cs : List Char) : List Char := trimEnd (trimStart cs)

/-- Text without blank characters on either side. -/
def trim (s : String) : String := String.ofList (trimChars s.toList)

/-- Nothing but blank characters. -/
def isAllBlank (s : String) : Bool := s.toList.all isBlank

end Fleet.Text
