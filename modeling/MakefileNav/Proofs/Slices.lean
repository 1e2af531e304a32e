/-
Module: MakefileNav.Proofs.Slices
Purpose: What stands between two byte offsets of a text, and what a range of a
  document covers.
Main exports:
  Text.append_cons_eq_append_iff, Text.slice?, Token.StandsIn, TextRange.covered?,
  Text.Reportable, Token.StandsIn.covered?_onLine
-/
import Mathlib.Algebra.Group.Nat.Defs
import Mathlib.Data.List.Basic
import Mathlib.Data.List.TakeWhile
import MakefileNav.Symbol

namespace MakefileNav

/-!
A scanner reports a pair of byte offsets.  Whether the pair is right is a question
about the text: the two offsets have to lie between characters, and the characters
between them have to be the ones that the scanner means.  `Token.StandsIn` says this
of a token by naming what comes before and after it, which is the form in which the
scanners are easy to reason about; `Text.slice?` computes it, and the two agree.
-/

namespace Text

/-! ### Byte lengths -/

-- The marks that the scanners look for take one byte each.
@[simp] theorem utf8Size_colon : ':'.utf8Size = 1 := rfl

@[simp] theorem utf8Size_dollar : '$'.utf8Size = 1 := rfl

@[simp] theorem utf8Size_parenthesis : '('.utf8Size = 1 := rfl

theorem byteLength_pos {text : Text} (nonempty : text ≠ []) : 0 < byteLength text := by
  cases text with
  | nil => exact absurd rfl nonempty
  | cons c rest =>
      have positive : 0 < c.utf8Size := Char.utf8Size_pos c
      rw [byteLength_cons]
      omega

theorem byteLength_reverse (text : Text) : byteLength text.reverse = byteLength text := by
  induction text with
  | nil => rfl
  | cons c rest ih =>
      rw [List.reverse_cons, byteLength_append, ih]
      simp only [byteLength_cons, byteLength_nil]
      omega

theorem byteLength_append_colon (left right : Text) :
    byteLength (left ++ ':' :: right) = byteLength left + 1 + byteLength right := by
  rw [byteLength_append, byteLength_cons, utf8Size_colon, Nat.add_assoc]

theorem byteLength_append_opening (left right : Text) :
    byteLength (left ++ '$' :: '(' :: right) = byteLength left + 2 + byteLength right := by
  simp only [byteLength_append, byteLength_cons, utf8Size_dollar, utf8Size_parenthesis]
  omega

/-- What adds no bytes to a text is empty. -/
private theorem eq_nil_of_byteLength_append {before middle : Text}
    (bytes : byteLength (before ++ middle) = byteLength before) : middle = [] := by
  by_contra nonempty
  have positive := byteLength_pos nonempty
  rw [byteLength_append] at bytes
  omega

/-- A cut of a text is known by the number of bytes before it. -/
theorem append_inj_of_byteLength {before before' after after' : Text}
    (same : before ++ after = before' ++ after')
    (bytes : byteLength before = byteLength before') :
    before = before' ∧ after = after' := by
  rcases List.append_eq_append_iff.mp same with ⟨middle, rfl, rfl⟩ | ⟨middle, rfl, rfl⟩
  · simp [eq_nil_of_byteLength_append bytes.symm]
  · simp [eq_nil_of_byteLength_append bytes]

/-! ### Cutting at a character -/

/-- Where a text is cut in two, a character of it is on one of the two sides. -/
theorem append_cons_eq_append_iff {left right before after : Text} {c : Char} :
    left ++ c :: right = before ++ after ↔
      (∃ middle, before = left ++ c :: middle ∧ right = middle ++ after) ∨
        ∃ middle, left = before ++ middle ∧ after = middle ++ c :: right := by
  constructor
  · intro same
    rcases List.append_eq_append_iff.mp same with ⟨middle, rfl, rest⟩ | onRight
    · cases middle with
      | nil => exact Or.inr ⟨[], by simp, rest.symm⟩
      | cons d middle =>
          obtain ⟨rfl, rightEq⟩ := List.cons.inj rest
          exact Or.inl ⟨middle, rfl, rightEq⟩
    · exact Or.inr onRight
  · rintro (⟨middle, rfl, rfl⟩ | ⟨middle, rfl, rfl⟩)
    · simp
    · simp

/-- A cut at a character is the one with no such character on the left. -/
theorem cut?_eq_some_iff {separator : Char} {text left right : Text} :
    text.cut? separator = some (left, right) ↔
      text = left ++ separator :: right ∧ separator ∉ left := by
  constructor
  · intro found
    unfold cut? at found
    split at found
    · simp at found
    · rename_i c rest dropped
      injection found with pair
      injection pair with leftEq rightEq
      subst leftEq rightEq
      have stopped : (c != separator) = false := by
        have first := List.head?_dropWhile_not (· != separator) text
        rw [dropped] at first
        exact first
      have same : c = separator := by simpa using stopped
      subst same
      constructor
      · rw [← dropped, List.takeWhile_append_dropWhile]
      · intro member
        have passed := List.mem_takeWhile_imp member
        simp at passed
  · intro division
    rcases division with ⟨rfl, absent⟩
    have passed : ∀ c ∈ left, (c != separator) = true := by
      intro c member
      rw [bne_iff_ne]
      rintro rfl
      exact absent member
    unfold cut?
    rw [List.dropWhile_append_of_pos passed, List.takeWhile_append_of_pos passed]
    simp

theorem cut?_eq_none_iff {separator : Char} {text : Text} :
    text.cut? separator = none ↔ separator ∉ text := by
  constructor
  · intro uncut member
    obtain ⟨left, right, split⟩ := List.eq_append_cons_of_mem member
    rw [cut?_eq_some_iff.mpr split] at uncut
    simp at uncut
  · intro absent
    rcases found : text.cut? separator with _ | ⟨left, right⟩
    · rfl
    · obtain ⟨split, _⟩ := cut?_eq_some_iff.mp found
      rw [split] at absent
      simp at absent

/-! ### Slices -/

theorem splitBytes_byteLength (before after : Text) :
    splitBytes (byteLength before) (before ++ after) = (before, after) := by
  induction before with
  | nil =>
      cases after with
      | nil => rfl
      | cons c rest =>
          have positive : 0 < c.utf8Size := Char.utf8Size_pos c
          rw [List.nil_append, byteLength_nil, splitBytes_cons, if_neg (by omega)]
  | cons c rest ih =>
      rw [List.cons_append, byteLength_cons, splitBytes_cons, if_pos (by omega),
        Nat.add_sub_cancel_left, ih]

/-- The characters of a text from one byte offset up to another.  There is no such
slice unless both offsets lie between characters and are in order. -/
def slice? (text : Text) (start stop : Nat) : Option Text :=
  let before := (text.splitBytes start).1
  let piece := ((text.splitBytes start).2.splitBytes (stop - start)).1
  if byteLength before = start ∧ start + byteLength piece = stop then some piece else none

/-- A slice is a piece of the text with the right number of bytes before it. -/
theorem slice?_eq_some_iff {text piece : Text} {start stop : Nat} :
    text.slice? start stop = some piece ↔
      ∃ before after, text = before ++ piece ++ after ∧
        byteLength before = start ∧ start + byteLength piece = stop := by
  constructor
  · intro sliced
    unfold slice? at sliced
    simp only at sliced
    split at sliced
    · rename_i bounds
      injection sliced with pieceEq
      subst pieceEq
      refine ⟨(text.splitBytes start).1,
        ((text.splitBytes start).2.splitBytes (stop - start)).2, ?_, bounds.1, bounds.2⟩
      rw [List.append_assoc, splitBytes_append, splitBytes_append]
    · simp at sliced
  · intro division
    rcases division with ⟨before, after, rfl, rfl, rfl⟩
    unfold slice?
    rw [List.append_assoc, splitBytes_byteLength, Nat.add_sub_cancel_left]
    simp only
    rw [splitBytes_byteLength]
    simp

end Text

/-! ### Tokens in their text -/

/-- The characters of a token are found at its place in a text. -/
def Token.StandsIn (token : Token) (text : Text) : Prop :=
  ∃ before after, text = before ++ token.text ++ after ∧ Text.byteLength before = token.offset

namespace Token

@[simp] theorem shift_zero (token : Token) : token.shift 0 = token := by
  simp [shift]

@[simp] theorem shift_shift (token : Token) (near far : Nat) :
    (token.shift near).shift far = token.shift (far + near) := by
  simp [shift, Nat.add_assoc]

@[simp] theorem shift_text (token : Token) (distance : Nat) :
    (token.shift distance).text = token.text := rfl

@[simp] theorem shift_offset (token : Token) (distance : Nat) :
    (token.shift distance).offset = distance + token.offset := rfl

/-- A token stands in a text exactly if slicing the text at its ends gives it back. -/
theorem standsIn_iff_slice? {token : Token} {text : Text} :
    token.StandsIn text ↔ text.slice? token.offset token.stop = some token.text := by
  rw [Text.slice?_eq_some_iff]
  constructor
  · intro stands
    rcases stands with ⟨before, after, split, bytes⟩
    exact ⟨before, after, split, bytes, rfl⟩
  · intro sliced
    rcases sliced with ⟨before, after, split, bytes, _⟩
    exact ⟨before, after, split, bytes⟩

/-- Tokens of a token are tokens of the whole text, further to the right. -/
theorem StandsIn.shift {inner outer : Token} {text : Text}
    (outerStands : outer.StandsIn text) (innerStands : inner.StandsIn outer.text) :
    (inner.shift outer.offset).StandsIn text := by
  obtain ⟨before, after, textEq, outerBytes⟩ := outerStands
  obtain ⟨left, right, outerEq, innerBytes⟩ := innerStands
  refine ⟨before ++ left, right ++ after, ?_, ?_⟩
  · rw [textEq, outerEq]
    simp [Token.shift]
  · rw [Text.byteLength_append, outerBytes, innerBytes]
    rfl

theorem StandsIn.stop_le {token : Token} {text : Text} (stands : token.StandsIn text) :
    token.stop ≤ Text.byteLength text := by
  obtain ⟨before, after, textEq, bytes⟩ := stands
  rw [textEq, Text.byteLength_append, Text.byteLength_append, Token.stop]
  omega

end Token

/-! ### What a range covers -/

/-- The characters that a range of a document covers.  Only a range on one line that
cuts between characters covers any. -/
def TextRange.covered? (range : TextRange) (text : Text) : Option Text :=
  if range.start.line = range.stop.line then
    (text.lines[range.start.line]?).bind
      (·.slice? range.start.character range.stop.character)
  else none

theorem TextRange.line_eq_of_covered? {range : TextRange} {text piece : Text}
    (covered : range.covered? text = some piece) : range.start.line = range.stop.line := by
  unfold covered? at covered
  split at covered
  · assumption
  · simp at covered

/-- A document is reportable if the numbers of its lines and of the columns in them are
small enough to be written in a position as they are. -/
structure Text.Reportable (text : Text) : Prop where
  lines : text.lines.length < 2 ^ 32
  columns : ∀ line ∈ text.lines, Text.byteLength line < 2 ^ 32

namespace Position

theorem clamp_of_lt {n : Nat} (small : n < 2 ^ 32) : clamp n = n := by
  unfold clamp limit
  omega

/-- A place with both numbers below the limit.  Such a place is the one that was meant,
since a larger number would have been reported as the limit. -/
def BelowLimit (place : Position) : Prop :=
  place.line < limit ∧ place.character < limit

theorem clamp_of_clamp_lt {n : Nat} (below : clamp n < limit) : clamp n = n := by
  unfold clamp at below ⊢
  omega

theorem clamp_le (n : Nat) : clamp n ≤ n :=
  Nat.min_le_left n limit

end Position

namespace Text.Reportable

variable {text line : Text} {number : Nat}

theorem clamp_line (reportable : text.Reportable) (found : text.lines[number]? = some line) :
    Position.clamp number = number := by
  obtain ⟨inside, _⟩ := List.getElem?_eq_some_iff.mp found
  apply Position.clamp_of_lt
  exact Nat.lt_trans inside reportable.lines

theorem clamp_column (reportable : text.Reportable) (found : text.lines[number]? = some line)
    {column : Nat} (inside : column ≤ byteLength line) : Position.clamp column = column := by
  apply Position.clamp_of_lt
  have bound := reportable.columns line (List.mem_of_getElem? found)
  omega

end Text.Reportable

/-- The range that is reported for a token of a line has the numbers of the line and of the
columns, if these are below the limits. -/
theorem Token.StandsIn.onLine_eq_of_lt {line : Text} {number : Nat} {token : Token}
    (stands : token.StandsIn line) (inLines : number < 2 ^ 32)
    (short : Text.byteLength line < 2 ^ 32) :
    TextRange.onLine number token.offset token.stop =
      ⟨⟨number, token.offset⟩, ⟨number, token.stop⟩⟩ := by
  have stopInside : token.stop ≤ Text.byteLength line := stands.stop_le
  have ordered : token.offset ≤ token.stop := Nat.le_add_right _ _
  rw [TextRange.onLine, Position.clamp_of_lt inLines, Position.clamp_of_lt (by omega),
    Position.clamp_of_lt (by omega)]

/-- In a reportable document all numbers are below the limits. -/
theorem Token.StandsIn.onLine_eq {text line : Text} {number : Nat} {token : Token}
    (reportable : text.Reportable) (found : text.lines[number]? = some line)
    (stands : token.StandsIn line) :
    TextRange.onLine number token.offset token.stop =
      ⟨⟨number, token.offset⟩, ⟨number, token.stop⟩⟩ := by
  obtain ⟨inside, _⟩ := List.getElem?_eq_some_iff.mp found
  exact stands.onLine_eq_of_lt (Nat.lt_trans inside reportable.lines)
    (reportable.columns line (List.mem_of_getElem? found))

/-- The range that is reported for a token of a line covers exactly the token. -/
theorem Token.StandsIn.covered?_onLine {text line : Text} {number : Nat} {token : Token}
    (reportable : text.Reportable) (found : text.lines[number]? = some line)
    (stands : token.StandsIn line) :
    (TextRange.onLine number token.offset token.stop).covered? text = some token.text := by
  have sliced := Token.standsIn_iff_slice?.mp stands
  rw [stands.onLine_eq reportable found]
  simp only [TextRange.covered?, if_true]
  rw [found]
  exact sliced

/-! ### Scans of all lines -/

/-- What a scan of lines gives is what it gives on one of them.  The numbers of the lines start
with `first`. -/
theorem mem_scanLines_from {α : Type} {scan : Nat → Text → List α} {first : Nat}
    {lines : List Text} {result : α} :
    result ∈ scanLines scan first lines ↔
      ∃ index line, lines[index]? = some line ∧ result ∈ scan (first + index) line := by
  unfold scanLines
  rw [List.mem_flatMap]
  constructor
  · rintro ⟨⟨line, number⟩, indexed, scanned⟩
    obtain ⟨notBefore, found⟩ := List.mk_mem_zipIdx_iff_le_and_getElem?_sub.mp indexed
    refine ⟨number - first, line, found, ?_⟩
    rwa [Nat.add_sub_cancel' notBefore]
  · rintro ⟨index, line, found, scanned⟩
    refine ⟨(line, first + index), ?_, scanned⟩
    rw [List.mk_mem_zipIdx_iff_le_and_getElem?_sub, Nat.add_sub_cancel_left]
    exact ⟨Nat.le_add_right _ _, found⟩

/-- What a scan of all lines gives is what it gives on one of them. -/
theorem mem_scanLines {α : Type} {scan : Nat → Text → List α} {lines : List Text} {result : α} :
    result ∈ scanLines scan 0 lines ↔
      ∃ number line, lines[number]? = some line ∧ result ∈ scan number line := by
  simp only [mem_scanLines_from, Nat.zero_add]

end MakefileNav
