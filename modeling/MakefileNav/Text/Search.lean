/-
Module: MakefileNav.Text.Search
Purpose: Where a piece of text occurs inside another.
Main exports:
  Text.scan, Text.wholeWordAt, Text.wholeWordOccurrences
-/
import MakefileNav.Text.Basic
import MakefileNav.Text.WordCharacter

namespace MakefileNav

namespace Text

/-!
A search walks from left to right and reports byte offsets.  A match uses up its
characters: the next one starts at its end or later, so the matches of one search
never overlap.  The test for a match sees the character directly before the place
that it judges, because a boundary between words depends on both neighbours, and
answers with the number of characters that match.
-/

/-- Worker of `scan`.  `before` is the character before the rest of the text, `used`
the number of characters in it that belong to the last match and `offset` the number
of bytes read. -/
def scan.go (matchAt? : Option Char → Text → Option Nat) :
    Text → Option Char → Nat → Nat → List Nat → List Nat
  | [], _, _, _, found => found.reverse
  | c :: rest, _, used + 1, offset, found =>
      scan.go matchAt? rest (some c) used (offset + c.utf8Size) found
  | c :: rest, before, 0, offset, found =>
      match matchAt? before (c :: rest) with
      | some width =>
          scan.go matchAt? rest (some c) (width - 1) (offset + c.utf8Size) (offset :: found)
      | none => scan.go matchAt? rest (some c) 0 (offset + c.utf8Size) found

/-- Byte offsets of the matches in a text, leftmost first and without overlaps. -/
def scan (matchAt? : Option Char → Text → Option Nat) (text : Text) : List Nat :=
  scan.go matchAt? text none 0 0 []

/-- Matches already found, and the place where reading starts, do not change how the
rest is read. -/
theorem scan_go_found (matchAt? : Option Char → Text → Option Nat) (text : Text)
    (before : Option Char) (used offset : Nat) (found : List Nat) :
    scan.go matchAt? text before used offset found =
      found.reverse ++ (scan.go matchAt? text before used 0 []).map (offset + ·) := by
  induction text generalizing before used offset found with
  | nil => cases used <;> simp [scan.go]
  | cons c rest ih =>
      cases used with
      | succ used =>
          simp only [scan.go]
          rw [ih _ used (offset + c.utf8Size) found, ih _ used (0 + c.utf8Size) []]
          simp [Function.comp_def, Nat.add_assoc]
      | zero =>
          simp only [scan.go]
          cases matchAt? before (c :: rest) with
          | none =>
              simp only
              rw [ih _ 0 (offset + c.utf8Size) found, ih _ 0 (0 + c.utf8Size) []]
              simp [Function.comp_def, Nat.add_assoc]
          | some width =>
              simp only
              rw [ih _ (width - 1) (offset + c.utf8Size) (offset :: found),
                ih _ (width - 1) (0 + c.utf8Size) [0]]
              simp [Function.comp_def, Nat.add_assoc]

/-- Whether `word` stands at the start of `suffix` with a boundary at either end. -/
def wholeWordAt (word : Text) (before : Option Char) (suffix : Text) : Bool :=
  wordBoundary before suffix.head? && word.isPrefixOf suffix &&
    wordBoundary word.getLast? (suffix.drop word.length).head?

/-- Byte offsets of the occurrences of a word between boundaries. -/
def wholeWordOccurrences (word text : Text) : List Nat :=
  text.scan fun before suffix =>
    if wholeWordAt word before suffix then some word.length else none

end Text

end MakefileNav
