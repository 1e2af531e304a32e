/-
Module: MakefileNav.Text.Token
Purpose: Pieces of a text together with the place where they start.
Main exports:
  Token, Token.stop, Token.shift, Text.runs, Text.runs_cons_of_not, Text.words
-/
import MakefileNav.Text.Whitespace

namespace MakefileNav

/-- A piece of text and the byte offset at which it starts. -/
structure Token where
  offset : Nat
  text : Text
deriving Repr, DecidableEq

namespace Token

/-- Byte offset just past the token. -/
def stop (token : Token) : Nat :=
  token.offset + token.text.byteLength

/-- The same token in a text that has `distance` more bytes in front. -/
def shift (distance : Nat) (token : Token) : Token :=
  { token with offset := distance + token.offset }

end Token

namespace Text

/-! ### Maximal runs -/

/-- End the run that starts at `start` and whose characters are `run`, last one
first.  An empty run is not a token. -/
def closeRun (start : Nat) (run : Text) (found : List Token) : List Token :=
  if run.isEmpty then found else ⟨start, run.reverse⟩ :: found

/-- Worker of `runs`.  The run being read starts at `start` and has the characters
`run`; `found` holds the complete runs.  Both lists have their last element
first. -/
def runs.go (accept : Char → Bool) : Text → Nat → Text → List Token → List Token
  | [], start, run, found => (closeRun start run found).reverse
  | c :: rest, start, run, found =>
      if accept c then
        runs.go accept rest start (c :: run) found
      else
        runs.go accept rest (start + byteLength run + c.utf8Size) []
          (closeRun start run found)

/-- The maximal non-empty runs of accepted characters, from left to right. -/
def runs (accept : Char → Bool) (text : Text) : List Token :=
  runs.go accept text 0 [] []

/-- Runs that are already complete do not change how the rest is read. -/
theorem runs_go_found (accept : Char → Bool) (text : Text) (start : Nat) (run : Text)
    (found : List Token) :
    runs.go accept text start run found =
      found.reverse ++ runs.go accept text start run [] := by
  induction text generalizing start run found with
  | nil =>
      simp only [runs.go, closeRun]
      split <;> simp
  | cons c rest ih =>
      simp only [runs.go]
      split
      · exact ih start (c :: run) found
      · rw [ih _ [] (closeRun start run found), ih _ [] (closeRun start run [])]
        simp only [closeRun]
        split <;> simp

/-- The places of runs are counted from the place where reading starts. -/
theorem runs_go_shift (accept : Char → Bool) (text : Text) (distance start : Nat)
    (run : Text) :
    runs.go accept text (distance + start) run [] =
      (runs.go accept text start run []).map (Token.shift distance) := by
  induction text generalizing start run with
  | nil =>
      simp only [runs.go, closeRun]
      split <;> simp [Token.shift]
  | cons c rest ih =>
      simp only [runs.go]
      split
      · exact ih start (c :: run)
      · rw [runs_go_found _ _ _ _ (closeRun (distance + start) run []),
          runs_go_found _ _ _ _ (closeRun start run [])]
        have hshift : distance + start + byteLength run + c.utf8Size =
            distance + (start + byteLength run + c.utf8Size) := by omega
        rw [hshift, ih]
        simp only [closeRun, List.map_append, List.map_reverse]
        congr 1
        split <;> simp [Token.shift]

/-- A character that is not accepted moves all runs after it. -/
theorem runs_cons_of_not {accept : Char → Bool} {c : Char} (rest : Text)
    (h : accept c = false) :
    runs accept (c :: rest) = (runs accept rest).map (Token.shift c.utf8Size) := by
  have hstart : 0 + byteLength [] + c.utf8Size = c.utf8Size + 0 := by simp
  simp only [runs, runs.go, h, Bool.false_eq_true, if_false, closeRun, List.isEmpty_nil,
    if_true]
  rw [hstart, runs_go_shift]

/-- The words of a text that are separated by white space, each with its place. -/
def words (text : Text) : List Token :=
  text.runs (fun c => !isWhitespace c)

end Text

end MakefileNav
