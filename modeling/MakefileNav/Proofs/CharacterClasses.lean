/-
Module: MakefileNav.Proofs.CharacterClasses
Purpose: How the classes of characters relate to one another, and what trimming leaves.
Main exports:
  Line.isWhitespace_of_isTargetChar, Line.isTargetChar_of_isIdentifierChar,
  Line.utf8Size_of_isTargetChar,
  isWordCharacter_of_isIdentifierChar, isWordCharacter_of_isWhitespace,
  Text.not_mem_of_accepted, Text.Blank,
  Text.exists_trimStart, Text.exists_trim, Text.trim_eq_nil_iff, Text.trim_last,
  Text.exists_trim_of_head, Text.exists_trim_of_solid, Text.head?_trim_of_solid
-/
import Mathlib.Data.List.TakeWhile
import MakefileNav.Line
import MakefileNav.Proofs.Slices
import MakefileNav.Text.WordCharacter

namespace MakefileNav

/-!
Names of targets, names of variables, white space and words are four classes of
characters, and each reader of a line knows only one or two of them.  What makes the
readers agree are the inclusions and the gaps between the classes, which are facts
about code points.
-/

/-! ### Code points -/

theorem isAlpha_iff_toNat (c : Char) :
    c.isAlpha = true ↔
      (65 ≤ c.toNat ∧ c.toNat ≤ 90) ∨ (97 ≤ c.toNat ∧ c.toNat ≤ 122) := by
  have ranges : c.isAlpha =
      (decide (65 ≤ c.val ∧ c.val ≤ 90) || (decide (97 ≤ c.val) && decide (c.val ≤ 122))) := rfl
  simp only [ranges, Bool.or_eq_true, Bool.and_eq_true, decide_eq_true_eq,
    UInt32.le_iff_toNat_le]
  rfl

theorem isDigit_iff_toNat (c : Char) :
    c.isDigit = true ↔ 48 ≤ c.toNat ∧ c.toNat ≤ 57 := by
  have range : c.isDigit = (decide (48 ≤ c.val) && decide (c.val ≤ 57)) := rfl
  simp only [range, Bool.and_eq_true, decide_eq_true_eq, UInt32.le_iff_toNat_le]
  rfl

/-- The code points of white space. -/
private def whitespaceCodePoints : List Nat :=
  [0x09, 0x0A, 0x0B, 0x0C, 0x0D, 0x20, 0x85, 0xA0, 0x1680, 0x2000, 0x2001, 0x2002, 0x2003,
    0x2004, 0x2005, 0x2006, 0x2007, 0x2008, 0x2009, 0x200A, 0x2028, 0x2029, 0x202F, 0x205F,
    0x3000]

private theorem toNat_mem_of_isWhitespace {c : Char} (blank : isWhitespace c = true) :
    c.toNat ∈ whitespaceCodePoints := by
  simp only [isWhitespace, Bool.or_eq_true, Bool.and_eq_true, decide_eq_true_eq,
    beq_iff_eq] at blank
  simp only [whitespaceCodePoints, List.mem_cons, List.not_mem_nil, or_false]
  omega

namespace Line

/-! ### Names -/

private theorem isTargetChar_iff_toNat (c : Char) :
    isTargetChar c = true ↔
      (65 ≤ c.toNat ∧ c.toNat ≤ 90) ∨ (97 ≤ c.toNat ∧ c.toNat ≤ 122) ∨
        (48 ≤ c.toNat ∧ c.toNat ≤ 57) ∨ c.toNat = 95 ∨ c.toNat = 46 ∨ c.toNat = 45 ∨
        c.toNat = 47 ∨ c.toNat = 37 := by
  simp only [isTargetChar, Char.isAlphanum, Bool.or_eq_true, isAlpha_iff_toNat,
    isDigit_iff_toNat, beq_iff_eq, ← Char.toNat_inj, Char.reduceToNat, or_assoc]

private theorem isIdentifierChar_iff_toNat (c : Char) :
    isIdentifierChar c = true ↔
      (65 ≤ c.toNat ∧ c.toNat ≤ 90) ∨ (97 ≤ c.toNat ∧ c.toNat ≤ 122) ∨
        (48 ≤ c.toNat ∧ c.toNat ≤ 57) ∨ c.toNat = 95 := by
  simp only [isIdentifierChar, Char.isAlphanum, Bool.or_eq_true, isAlpha_iff_toNat,
    isDigit_iff_toNat, beq_iff_eq, ← Char.toNat_inj, Char.reduceToNat, or_assoc]

theorem isTargetChar_of_isWhitespace {c : Char} (blank : isWhitespace c = true) :
    isTargetChar c = false := by
  have codePoint := toNat_mem_of_isWhitespace blank
  rw [Bool.eq_false_iff, Ne, isTargetChar_iff_toNat]
  simp only [whitespaceCodePoints, List.mem_cons, List.not_mem_nil, or_false] at codePoint
  omega

theorem isWhitespace_of_isTargetChar {c : Char} (target : isTargetChar c = true) :
    isWhitespace c = false := by
  rw [Bool.eq_false_iff]
  intro blank
  rw [isTargetChar_of_isWhitespace blank] at target
  simp at target

theorem isTargetChar_of_isIdentifierChar {c : Char} (identifier : isIdentifierChar c = true) :
    isTargetChar c = true := by
  rw [isIdentifierChar_iff_toNat] at identifier
  rw [isTargetChar_iff_toNat]
  omega

/-- A name takes one byte for each of its characters. -/
theorem utf8Size_of_isTargetChar {c : Char} (target : isTargetChar c = true) :
    c.utf8Size = 1 := by
  rw [isTargetChar_iff_toNat] at target
  apply Char.utf8Size_eq_one_iff.mpr
  show c.toNat ≤ 127
  omega

theorem isIdentifierChar_of_isIdentifierStart {c : Char} (start : isIdentifierStart c = true) :
    isIdentifierChar c = true := by
  simp only [isIdentifierStart, isIdentifierChar, Char.isAlphanum, Bool.or_eq_true] at start ⊢
  rcases start with letter | underscore
  · exact Or.inl (Or.inl letter)
  · exact Or.inr underscore

end Line

/-! ### Word characters -/

theorem isWordCharacter_of_isIdentifierChar {c : Char}
    (identifier : Line.isIdentifierChar c = true) : isWordCharacter c = true := by
  rw [Line.isIdentifierChar_iff_toNat] at identifier
  simp only [isWordCharacter, WordCharacter.ranges, WordCharacter.ascii, List.cons_append,
    WordCharacter.inRanges]
  grind

theorem isWordCharacter_of_isWhitespace {c : Char} (blank : isWhitespace c = true) :
    isWordCharacter c = false := by
  have outside : ∀ codePoint ∈ whitespaceCodePoints,
      WordCharacter.inRanges codePoint WordCharacter.ranges = false := by
    decide +kernel
  exact outside c.toNat (toNat_mem_of_isWhitespace blank)

namespace Text

/-! ### Blank stretches and trimming -/

/-- A stretch of white space, possibly empty. -/
def Blank (text : Text) : Prop :=
  ∀ c ∈ text, isWhitespace c = true

/-- A character outside of a class is not in a text of that class. -/
theorem not_mem_of_accepted {accept : Char → Bool} {text : Text} {c : Char}
    (accepted : ∀ d ∈ text, accept d = true) (rejected : accept c = false) : c ∉ text := by
  intro member
  simp [accepted c member] at rejected

theorem blank_takeWhile (text : Text) : Blank (text.takeWhile isWhitespace) := by
  intro c member
  exact List.mem_takeWhile_imp member

/-- The longest accepted beginning of a text ends where the first rejected character
stands. -/
theorem takeWhile_append_of_head {accept : Char → Bool} {name rest : Text}
    (accepted : ∀ c ∈ name, accept c = true) (stops : ∀ c ∈ rest.head?, accept c = false) :
    (name ++ rest).takeWhile accept = name := by
  rw [List.takeWhile_append_of_pos accepted]
  cases rest with
  | nil => simp
  | cons c rest => simp [stops c rfl]

theorem dropWhile_append_of_head {accept : Char → Bool} {name rest : Text}
    (accepted : ∀ c ∈ name, accept c = true) (stops : ∀ c ∈ rest.head?, accept c = false) :
    (name ++ rest).dropWhile accept = rest := by
  rw [List.dropWhile_append_of_pos accepted]
  cases rest with
  | nil => simp
  | cons c rest => simp [stops c rfl]

/-- Where an accepted beginning ends, a rejected character follows or the text ends. -/
theorem dropWhile_head (accept : Char → Bool) (text : Text) :
    ∀ c ∈ (text.dropWhile accept).head?, accept c = false := by
  intro c first
  have rejected := List.head?_dropWhile_not accept text
  rw [Option.mem_def] at first
  rw [first] at rejected
  exact rejected

/-- A class without white space is left at a blank stretch, or at what follows it. -/
theorem Blank.head_append {accept : Char → Bool} {blank rest : Text} (isBlank : Blank blank)
    (apart : ∀ c, isWhitespace c = true → accept c = false)
    (stops : ∀ c ∈ rest.head?, accept c = false) :
    ∀ c ∈ (blank ++ rest).head?, accept c = false := by
  intro c first
  cases blank with
  | nil => exact stops c first
  | cons d blank =>
      rw [List.cons_append, List.head?_cons, Option.mem_some_iff] at first
      subst first
      exact apart d (isBlank d (by simp))

/-- The white space at the start of a text, and what trimming leaves of it. -/
theorem exists_trimStart (text : Text) :
    ∃ blank, Blank blank ∧ text = blank ++ text.trimStart ∧
      ∀ c ∈ text.trimStart.head?, isWhitespace c = false := by
  refine ⟨text.takeWhile isWhitespace, blank_takeWhile text, ?_,
    dropWhile_head isWhitespace text⟩
  exact List.takeWhile_append_dropWhile.symm

theorem trimStart_append {blank : Text} (rest : Text) (isBlank : Blank blank) :
    trimStart (blank ++ rest) = trimStart rest := by
  unfold trimStart
  exact List.dropWhile_append_of_pos isBlank

/-- Trimming leaves a text alone that does not start with white space. -/
theorem trimStart_of_head {text : Text} (solid : ∀ c ∈ text.head?, isWhitespace c = false) :
    text.trimStart = text := by
  cases text with
  | nil => rfl
  | cons c rest =>
      unfold trimStart
      rw [List.dropWhile_cons, solid c rfl]
      rfl

theorem exists_trimEnd (text : Text) :
    ∃ blank, Blank blank ∧ text = text.trimEnd ++ blank ∧
      ∀ c ∈ text.trimEnd.getLast?, isWhitespace c = false := by
  obtain ⟨blank, isBlank, same, solid⟩ := exists_trimStart text.reverse
  refine ⟨blank.reverse, ?_, ?_, ?_⟩
  · intro c member
    exact isBlank c (List.mem_reverse.mp member)
  · have reversed := congrArg List.reverse same
    rw [List.reverse_reverse, List.reverse_append] at reversed
    exact reversed
  · intro c last
    apply solid c
    rw [trimEnd, List.getLast?_reverse] at last
    exact last

/-- A text is what trimming leaves of it, with white space on both sides. -/
theorem exists_trim (text : Text) :
    ∃ trailing, Blank trailing ∧
      text = text.takeWhile isWhitespace ++ text.trim ++ trailing := by
  obtain ⟨trailing, isBlank, same, _⟩ := exists_trimEnd text.trimStart
  refine ⟨trailing, isBlank, ?_⟩
  rw [List.append_assoc, trim, ← same, trimStart, List.takeWhile_append_dropWhile]

/-- Trimming leaves nothing of a blank text, and of no other. -/
theorem trim_eq_nil_iff (text : Text) : text.trim = [] ↔ text.Blank := by
  constructor
  · intro nothing
    obtain ⟨trailing, isBlank, split⟩ := exists_trim text
    rw [nothing, List.append_nil] at split
    rw [split]
    exact List.forall_mem_append.mpr ⟨blank_takeWhile text, isBlank⟩
  · intro isBlank
    have leading : text.trimStart = [] := List.dropWhile_eq_nil_iff.mpr isBlank
    rw [trim, leading]
    rfl

/-- A trimmed text does not end with white space. -/
theorem trim_last (text : Text) : ∀ c ∈ text.trim.getLast?, isWhitespace c = false := by
  obtain ⟨_, _, _, solid⟩ := exists_trimEnd text.trimStart
  exact solid

/-- Trimming takes nothing away in front of a text that does not start with white space. -/
theorem exists_trim_of_head {text : Text} {c : Char} (first : text.head? = some c)
    (solid : isWhitespace c = false) :
    ∃ trailing, Blank trailing ∧ text = text.trim ++ trailing := by
  obtain ⟨rest, rfl⟩ := List.head?_eq_some_iff.mp first
  obtain ⟨trailing, isBlank, split⟩ := exists_trim (c :: rest)
  refine ⟨trailing, isBlank, ?_⟩
  simpa [List.takeWhile_cons, solid] using split

/-- Trimming such a text keeps everything up to a character that is not white space. -/
theorem exists_trim_of_solid {before rest : Text} {first c : Char}
    (leads : (before ++ c :: rest).head? = some first) (flush : isWhitespace first = false)
    (solid : isWhitespace c = false) :
    ∃ kept, trim (before ++ c :: rest) = before ++ c :: kept := by
  obtain ⟨trailing, isBlank, split⟩ := exists_trim_of_head leads flush
  have apart : c ∉ trailing := not_mem_of_accepted isBlank solid
  rcases append_cons_eq_append_iff.mp split with ⟨kept, trimmed, _⟩ | ⟨cut, _, whole⟩
  · exact ⟨kept, trimmed⟩
  · exact absurd (whole ▸ by simp) apart

/-- Trimming keeps the first character of a text unless it is white space. -/
theorem head?_trim_of_solid {text : Text} {c : Char} (first : text.head? = some c)
    (solid : isWhitespace c = false) : text.trim.head? = some c := by
  obtain ⟨rest, rfl⟩ := List.head?_eq_some_iff.mp first
  obtain ⟨kept, trimmed⟩ := @exists_trim_of_solid [] rest c c rfl solid solid
  rw [List.nil_append] at trimmed
  rw [trimmed]
  rfl

end Text

end MakefileNav
