/-
Module: MakefileNav.Text.Basic
Purpose: Text as a list of characters, measured in UTF-8 bytes.
Main exports:
  Text, Text.concat, Text.unlines, Text.ofNat, Text.byteLength, Text.splitBytes,
  Text.snap, Text.lines, Text.cut?
-/

namespace MakefileNav

/-!
Everything the library reads is a list of characters, and every column it
reports is a number of UTF-8 bytes.  A column therefore names a place between
two characters only when it is the byte length of a prefix; `splitBytes` cuts at
the greatest such place that is not beyond the column it is given.

The loops carry accumulators, so that they run in constant stack on texts of any
length; the equations that a reader would write down are stated after each of
them.
-/

/-- A piece of text, character by character. -/
abbrev Text := List Char

/-- A string literal stands for its characters. -/
instance : Coe String Text where
  coe := String.toList

namespace Text

/-- Pieces of text put together. -/
def concat (pieces : List Text) : Text :=
  pieces.flatten

/-- Lines of text put together, each with a line feed at its end. -/
def unlines (lines : List Text) : Text :=
  lines.flatMap (· ++ ['\n'])

/-- Decimal digits of a number. -/
def ofNat (n : Nat) : Text :=
  Nat.toDigits 10 n

/-! ### Lengths in bytes -/

/-- Number of bytes of the UTF-8 encoding. -/
def byteLength (text : Text) : Nat :=
  text.foldl (fun total c => total + c.utf8Size) 0

private theorem foldl_utf8Size (text : Text) (start : Nat) :
    text.foldl (fun total c => total + c.utf8Size) start =
      start + text.foldl (fun total c => total + c.utf8Size) 0 := by
  induction text generalizing start with
  | nil => simp
  | cons c rest ih =>
      simp only [List.foldl_cons]
      rw [ih (start + c.utf8Size), ih (0 + c.utf8Size)]
      omega

@[simp] theorem byteLength_nil : byteLength [] = 0 := rfl

@[simp] theorem byteLength_cons (c : Char) (rest : Text) :
    byteLength (c :: rest) = c.utf8Size + byteLength rest := by
  simp only [byteLength, List.foldl_cons]
  rw [foldl_utf8Size]
  omega

@[simp] theorem byteLength_append (left right : Text) :
    byteLength (left ++ right) = byteLength left + byteLength right := by
  induction left with
  | nil => simp
  | cons c rest ih => simp only [List.cons_append, byteLength_cons, ih]; omega

/-! ### Cutting at a byte column -/

/-- Worker of `splitBytes`: `taken` holds the characters already taken, last one
first. -/
def splitBytes.go : Nat → Text → Text → Text × Text
  | _, [], taken => (taken.reverse, [])
  | budget, c :: rest, taken =>
      if c.utf8Size ≤ budget then
        splitBytes.go (budget - c.utf8Size) rest (c :: taken)
      else
        (taken.reverse, c :: rest)

/-- Cut a text in two.  The first part is the longest prefix of at most `column`
bytes, so a column inside a character falls back to the start of that character
and a column past the end takes everything. -/
def splitBytes (column : Nat) (text : Text) : Text × Text :=
  splitBytes.go column text []

private theorem splitBytes_go (budget : Nat) (text taken : Text) :
    splitBytes.go budget text taken =
      (taken.reverse ++ (splitBytes.go budget text []).1,
        (splitBytes.go budget text []).2) := by
  induction text generalizing budget taken with
  | nil => simp [splitBytes.go]
  | cons c rest ih =>
      simp only [splitBytes.go]
      split
      · rw [ih _ (c :: taken), ih _ [c]]
        simp
      · simp

@[simp] theorem splitBytes_nil (column : Nat) : splitBytes column [] = ([], []) := rfl

theorem splitBytes_cons (column : Nat) (c : Char) (rest : Text) :
    splitBytes column (c :: rest) =
      if c.utf8Size ≤ column then
        (c :: (splitBytes (column - c.utf8Size) rest).1,
          (splitBytes (column - c.utf8Size) rest).2)
      else ([], c :: rest) := by
  simp only [splitBytes, splitBytes.go]
  split
  · rw [splitBytes_go]
    simp
  · simp

/-- Cutting loses nothing. -/
theorem splitBytes_append (column : Nat) (text : Text) :
    (splitBytes column text).1 ++ (splitBytes column text).2 = text := by
  induction text generalizing column with
  | nil => simp
  | cons c rest ih =>
      rw [splitBytes_cons]
      split
      · simp [ih]
      · simp

/-- Greatest byte column of `text` that lies between two characters (or at an
end) and is not beyond `column`. -/
def snap (text : Text) (column : Nat) : Nat :=
  byteLength (splitBytes column text).1

/-! ### Cutting at characters -/

/-- Drop one carriage return at the end of a line. -/
def dropCarriageReturn (line : Text) : Text :=
  if line.getLast? = some '\r' then line.dropLast else line

/-- The lines of a text.  A line ends at a line feed, and a carriage return
directly before it (or at the very end) belongs to the line ending.  The empty
text has one line, which is empty. -/
def lines (text : Text) : List Text :=
  (text.splitOn '\n').map dropCarriageReturn

/-- Cut a text at the first occurrence of a character, which belongs to neither
part.  There is no cut when the character does not occur. -/
def cut? (separator : Char) (text : Text) : Option (Text × Text) :=
  match text.dropWhile (· != separator) with
  | [] => none
  | _ :: rest => some (text.takeWhile (· != separator), rest)

end Text

end MakefileNav
