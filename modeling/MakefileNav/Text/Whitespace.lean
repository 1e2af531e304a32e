/-
Module: MakefileNav.Text.Whitespace
Purpose: White space as Unicode defines it, and trimming.
Main exports:
  isWhitespace, Text.trimStart, Text.trimEnd, Text.trim
-/
import MakefileNav.Text.Basic

namespace MakefileNav

/-- The characters with the Unicode property `White_Space`.  The zero-width space
and the byte order mark are not among them. -/
def isWhitespace (c : Char) : Bool :=
  let n := c.toNat
  (0x09 ≤ n && n ≤ 0x0D) || n == 0x20 || n == 0x85 || n == 0xA0 || n == 0x1680 ||
    (0x2000 ≤ n && n ≤ 0x200A) || n == 0x2028 || n == 0x2029 || n == 0x202F ||
    n == 0x205F || n == 0x3000

namespace Text

/-- A text without the white space at its start. -/
def trimStart (text : Text) : Text :=
  text.dropWhile isWhitespace

/-- A text without the white space at its end. -/
def trimEnd (text : Text) : Text :=
  (text.reverse.dropWhile isWhitespace).reverse

/-- A text without the white space around it. -/
def trim (text : Text) : Text :=
  text.trimStart.trimEnd

/-- Number of bytes of white space before the first other character. -/
def indent (text : Text) : Nat :=
  byteLength (text.takeWhile isWhitespace)

end Text

end MakefileNav
