/-
Module: MakefileNav.Proofs.CursorReading
Purpose: The word and the reference at a cursor, described by divisions of the line.
Main exports:
  Text.exists_cut_at_snap, Text.exists_cut_of_narrow, Cursor.wordAt?_eq_some_iff,
  Cursor.exists_wordAt?, Cursor.OpenAt, Cursor.referenceAt?_eq_some_iff,
  Cursor.nameOnLine?_in_reference, Cursor.nameOnLine?_of_word, nameAt?_of_cut
-/
import MakefileNav.Cursor
import MakefileNav.Proofs.MaximalRuns

namespace MakefileNav

/-!
A cursor is a cut of its line.  The reader of the cursor looks from the cut in both
directions: for the word that reaches up to it, for the last `$(` before it and for the
first `)` after it.  Each of the three is described here by what stands on the two sides
of the cut, and the answer of the reader by which of them there are.
-/

namespace Text

/-! ### Columns and cuts -/

theorem snap_byteLength (before after : Text) :
    snap (before ++ after) (byteLength before) = byteLength before := by
  unfold snap
  rw [splitBytes_byteLength]

/-- Snapping never moves a column to the right. -/
theorem snap_le (text : Text) (column : Nat) : snap text column ≤ column := by
  unfold snap
  induction text generalizing column with
  | nil => simp
  | cons c rest ih =>
      rw [splitBytes_cons]
      by_cases fits : c.utf8Size ≤ column
      · have further := ih (column - c.utf8Size)
        rw [if_pos fits, byteLength_cons]
        omega
      · rw [if_neg fits]
        exact Nat.zero_le column

/-- Snapping a column leads to a cut. -/
theorem exists_cut_at_snap (text : Text) (column : Nat) :
    ∃ before after, text = before ++ after ∧ text.snap column = byteLength before :=
  ⟨(text.splitBytes column).1, (text.splitBytes column).2,
    (splitBytes_append column text).symm, rfl⟩

/-- Among characters of one byte each, every column is a cut. -/
theorem exists_cut_of_narrow {text : Text} (narrow : ∀ c ∈ text, c.utf8Size = 1)
    {column : Nat} (inside : column ≤ byteLength text) :
    ∃ before after, text = before ++ after ∧ byteLength before = column := by
  induction text generalizing column with
  | nil =>
      have start : column = 0 := by simpa using inside
      exact ⟨[], [], rfl, start.symm⟩
  | cons c rest ih =>
      cases column with
      | zero => exact ⟨[], c :: rest, rfl, rfl⟩
      | succ column =>
          have one : c.utf8Size = 1 := narrow c (by simp)
          have further : column ≤ byteLength rest := by
            simp only [byteLength_cons, one] at inside
            omega
          obtain ⟨before, after, split, bytes⟩ :=
            ih (fun d member => narrow d (by simp [member])) further
          refine ⟨c :: before, after, by simp [split], ?_⟩
          simp only [byteLength_cons, one, bytes]
          omega

end Text

namespace Cursor

/-! ### Words -/

/-- The characters of a target are those of a word and the percent sign. -/
theorem isTargetChar_eq (c : Char) : Line.isTargetChar c = (isWordChar c || c == '%') := rfl

theorem isTargetChar_of_isWordChar {c : Char} (word : isWordChar c = true) :
    Line.isTargetChar c = true := by
  simp [isTargetChar_eq, word]

/-- Without a percent sign the name of a target is a word. -/
theorem isWordChar_of_isTargetChar {name : Text}
    (accepted : ∀ c ∈ name, Line.isTargetChar c = true) (plain : '%' ∉ name) :
    ∀ c ∈ name, isWordChar c = true := by
  intro c member
  have target := accepted c member
  rw [isTargetChar_eq, Bool.or_eq_true, beq_iff_eq] at target
  rcases target with word | rfl
  · exact word
  · exact absurd member plain

theorem isWordChar_of_not_isTargetChar {c : Char} (other : Line.isTargetChar c = false) :
    isWordChar c = false := by
  simp only [isTargetChar_eq, Bool.or_eq_false_iff] at other
  exact other.1

/-- A word is touched exactly if the column is not outside of it.  Two words never touch
one column, since there is a character between them. -/
theorem wordAt?_eq_some_iff {line : Text} {column : Nat} {word : Token} :
    wordAt? line column = some word ↔
      word ∈ line.runs isWordChar ∧ word.offset ≤ column ∧ column ≤ word.stop := by
  constructor
  · intro touched
    have touching := List.find?_some touched
    simp only [Bool.and_eq_true, decide_eq_true_eq] at touching
    exact ⟨List.mem_of_find?_eq_some touched, touching⟩
  · intro touching
    rcases touching with ⟨member, notBefore, notAfter⟩
    obtain ⟨earlier, later, split⟩ := List.append_of_mem member
    have ordered := Text.runs_pairwise isWordChar line
    rw [split, List.pairwise_append] at ordered
    apply List.find?_eq_some_iff_append.mpr
    refine ⟨by simp [notBefore, notAfter], earlier, later, split, ?_⟩
    intro other passed
    have apart : other.stop < word.offset := ordered.2.2 other passed word (by simp)
    simp only [Bool.not_eq_true', Bool.and_eq_false_iff, decide_eq_false_iff_not]
    omega

/-- A word has word characters only. -/
theorem isWordChar_of_wordAt? {line : Text} {column : Nat} {word : Token}
    (touched : wordAt? line column = some word) : ∀ c ∈ word.text, isWordChar c = true := by
  obtain ⟨_, _, _, _, run⟩ := Text.mem_runs_iff.mp (wordAt?_eq_some_iff.mp touched).1
  exact run.accepted

/-- Everywhere in a maximal run, at its ends too, the run is the word that is touched. -/
theorem wordAt?_of_maximalRun {left inner rest right : Text}
    (run : Text.MaximalRun isWordChar left (inner ++ rest) right) :
    wordAt? (left ++ (inner ++ rest) ++ right) (Text.byteLength (left ++ inner)) =
      some ⟨Text.byteLength left, inner ++ rest⟩ := by
  apply wordAt?_eq_some_iff.mpr
  refine ⟨Text.mem_runs_iff.mpr ⟨left, right, rfl, rfl, run⟩, ?_, ?_⟩
  · simp
  · simp [Token.stop]

/-- A piece of word characters that reaches up to a column makes a word that is touched.
The word is longer than the piece if there is a word character next to the piece. -/
theorem exists_wordAt? {inner rest : Text} (nonempty : inner ++ rest ≠ [])
    (accepted : ∀ c ∈ inner ++ rest, isWordChar c = true) (before after : Text) :
    ∃ offset lead trail,
      wordAt? (before ++ inner ++ (rest ++ after)) (Text.byteLength (before ++ inner)) =
        some ⟨offset, lead ++ (inner ++ rest) ++ trail⟩ ∧
      (lead = [] ↔ ∀ c ∈ before.getLast?, isWordChar c = false) ∧
      (trail = [] ↔ ∀ c ∈ after.head?, isWordChar c = false) := by
  obtain ⟨left, lead, trail, right, rfl, rfl, run, leadEmpty, trailEmpty⟩ :=
    Text.MaximalRun.exists_around nonempty accepted before after
  refine ⟨Text.byteLength left, lead, trail, ?_, leadEmpty, trailEmpty⟩
  have regroup : lead ++ (inner ++ rest) ++ trail = lead ++ inner ++ (rest ++ trail) := by simp
  rw [regroup] at run ⊢
  simpa using wordAt?_of_maximalRun run

/-! ### References -/

/-- A reference is open at a cut.  The last `$(` before the cut is followed by `inner`,
which reaches up to the cut without any `)`, and `rest` leads from the cut to the first
`)` after it. -/
structure OpenAt (before after inner rest : Text) : Prop where
  opens : ∃ left, before = left ++ '$' :: '(' :: inner
  last : ¬['$', '('] <:+: inner
  unclosed : ')' ∉ inner
  closes : ∃ right, after = rest ++ ')' :: right
  first : ')' ∉ rest

/-- What the search for the opening finds in a text that is given last character first.
A character is passed unless it completes an opening with the one before it. -/
private theorem sinceOpening?_eq_some_iff {reversed passed found : Text} :
    sinceOpening? reversed passed = some found ↔
      ∃ inner left, reversed = inner ++ '(' :: '$' :: left ∧ ¬['(', '$'] <:+: inner ∧
        found = inner.reverse ++ passed := by
  induction reversed, passed using sinceOpening?.induct with
  | case1 left passed =>
      simp only [sinceOpening?, Option.some.injEq]
      constructor
      · rintro rfl
        exact ⟨[], left, rfl, by simp, rfl⟩
      · intro division
        rcases division with ⟨inner, left', split, last, rfl⟩
        -- Anything before the opening would begin with the opening itself.
        rcases inner with _ | ⟨c, _ | ⟨d, inner⟩⟩
        · rfl
        · simp at split
        · simp only [List.cons_append, List.cons.injEq] at split
          obtain ⟨rfl, rfl, _⟩ := split
          exact absurd ⟨[], inner, rfl⟩ last
  | case2 c before passed other ih =>
      have step : sinceOpening? (c :: before) passed = sinceOpening? before (c :: passed) := by
        rw [sinceOpening?]
        exact other
      rw [step, ih]
      constructor
      · intro division
        rcases division with ⟨inner, left, rfl, last, rfl⟩
        refine ⟨c :: inner, left, rfl, ?_, by simp⟩
        intro opening
        rcases List.infix_cons_iff.mp opening with ⟨tail, begins⟩ | inside
        · simp only [List.cons_append, List.nil_append, List.cons.injEq] at begins
          obtain ⟨parenthesis, rfl⟩ := begins
          exact other (tail ++ '(' :: '$' :: left) parenthesis.symm rfl
        · exact last inside
      · intro division
        rcases division with ⟨inner, left, split, last, rfl⟩
        cases inner with
        | nil =>
            simp only [List.nil_append, List.cons.injEq] at split
            exact absurd split.2 fun dollar => other left split.1 dollar
        | cons d inner =>
            simp only [List.cons_append, List.cons.injEq] at split
            obtain ⟨rfl, rfl⟩ := split
            refine ⟨inner, left, rfl, ?_, by simp⟩
            intro opening
            exact last (opening.trans (List.suffix_cons c inner).isInfix)
  | case3 passed => simp [sinceOpening?]

/-- What follows the last opening of a text. -/
private theorem sinceOpening?_reverse_eq_some_iff {before inner : Text} :
    sinceOpening? before.reverse [] = some inner ↔
      (∃ left, before = left ++ '$' :: '(' :: inner) ∧ ¬['$', '('] <:+: inner := by
  rw [sinceOpening?_eq_some_iff]
  constructor
  · intro division
    rcases division with ⟨passed, left, split, last, rfl⟩
    simp only [List.append_nil]
    refine ⟨⟨left.reverse, ?_⟩, ?_⟩
    · simpa using congrArg List.reverse split
    · intro opening
      apply last
      simpa using List.reverse_infix.mpr opening
  · intro division
    rcases division with ⟨⟨left, rfl⟩, last⟩
    refine ⟨inner.reverse, left.reverse, by simp, ?_, by simp⟩
    intro opening
    apply last
    simpa using List.reverse_infix.mpr opening

/-- A cut lies in a reference exactly if a reference is open there with something in its
parentheses, and this is what is read. -/
theorem referenceAt?_eq_some_iff {before after name : Text} :
    referenceAt? (before ++ after) (Text.byteLength before) = some name ↔
      ∃ inner rest, OpenAt before after inner rest ∧ name = inner ++ rest ∧ name ≠ [] := by
  unfold referenceAt?
  rw [Text.splitBytes_byteLength]
  constructor
  · intro read
    simp only at read
    split at read
    · rename_i inner rest right opening closing
      obtain ⟨opens, last⟩ := sinceOpening?_reverse_eq_some_iff.mp opening
      obtain ⟨closes, first⟩ := Text.cut?_eq_some_iff.mp closing
      split at read
      · simp at read
      · rename_i filled
        simp only [Bool.or_eq_true, List.contains_iff_mem, List.isEmpty_iff, not_or] at filled
        injection read with nameEq
        subst nameEq
        exact ⟨inner, rest, ⟨opens, last, filled.1, ⟨right, closes⟩, first⟩, rfl, filled.2⟩
    · simp at read
  · intro reference
    rcases reference with ⟨inner, rest, ⟨opens, last, unclosed, ⟨right, closes⟩, first⟩, rfl, filled⟩
    have opening := sinceOpening?_reverse_eq_some_iff.mpr ⟨opens, last⟩
    have closing := Text.cut?_eq_some_iff.mpr ⟨closes, first⟩
    simp only [opening, closing]
    apply if_neg
    simp only [Bool.or_eq_true, List.contains_iff_mem, List.isEmpty_iff, not_or]
    exact ⟨unclosed, filled⟩

/-- Without a dollar sign before the cut there is no reference to be in. -/
theorem referenceAt?_eq_none {before after : Text} (absent : '$' ∉ before) :
    referenceAt? (before ++ after) (Text.byteLength before) = none := by
  cases read : referenceAt? (before ++ after) (Text.byteLength before) with
  | none => rfl
  | some name =>
      obtain ⟨inner, rest, isOpen, _, _⟩ := referenceAt?_eq_some_iff.mp read
      obtain ⟨left, rfl⟩ := isOpen.opens
      simp at absent

/-! ### Names -/

variable {line name : Text} {column : Nat} {word : Token}

/-- In a reference the answer is what stands in the parentheses. -/
theorem nameOnLine?_of_reference (touched : wordAt? line column = some word)
    (reference : referenceAt? line column = some name) :
    nameOnLine? line column = some name := by
  simp only [nameOnLine?, touched, reference]

/-- Anywhere in the name of a reference, at its ends too, the answer is the name, as long as
the name has word characters only. -/
theorem nameOnLine?_in_reference {inner rest : Text} (nonempty : inner ++ rest ≠ [])
    (accepted : ∀ c ∈ inner ++ rest, isWordChar c = true) (before after : Text) :
    nameOnLine? (before ++ '$' :: '(' :: inner ++ (rest ++ ')' :: after))
        (Text.byteLength (before ++ '$' :: '(' :: inner)) =
      some (inner ++ rest) := by
  have noDollar : '$' ∉ inner ++ rest := Text.not_mem_of_accepted accepted rfl
  have noParenthesis : ')' ∉ inner ++ rest := Text.not_mem_of_accepted accepted rfl
  simp only [List.mem_append, not_or] at noDollar noParenthesis
  have isOpen : OpenAt (before ++ '$' :: '(' :: inner) (rest ++ ')' :: after) inner rest := by
    refine ⟨⟨before, rfl⟩, ?_, noParenthesis.1, ⟨after, rfl⟩, noParenthesis.2⟩
    intro opening
    exact noDollar.1 (opening.subset (by simp))
  have reference := referenceAt?_eq_some_iff.mpr ⟨inner, rest, isOpen, rfl, nonempty⟩
  obtain ⟨offset, lead, trail, touched, _⟩ :=
    exists_wordAt? nonempty accepted (before ++ ['$', '(']) (')' :: after)
  have opened : before ++ ['$', '('] ++ inner = before ++ '$' :: '(' :: inner := by simp
  rw [opened] at touched
  exact nameOnLine?_of_reference touched reference

/-- Outside references the answer is the word, unless the line has no colon and assigns to
something else than the word. -/
theorem nameOnLine?_of_word (touched : wordAt? line column = some word)
    (outside : referenceAt? line column = none)
    (plain : ':' ∈ line ∨ Line.assignedName? line = some word.text) :
    nameOnLine? line column = some word.text := by
  simp only [nameOnLine?, touched, outside]
  rcases plain with colon | assigned
  · apply if_pos
    simpa using colon
  · simp [assigned]

end Cursor

/-- At a cut the reader of a document answers what the reader of the line does. -/
theorem nameAt?_of_cut {text before after : Text} {number : Nat}
    (found : text.lines[number]? = some (before ++ after)) :
    nameAt? text ⟨number, Text.byteLength before⟩ =
      Cursor.nameOnLine? (before ++ after) (Text.byteLength before) := by
  simp only [nameAt?, found, Text.snap_byteLength]

end MakefileNav
