/-
Module: MakefileNav.Proofs.MaximalRuns
Purpose: The runs of a text are exactly its maximal stretches of accepted characters.
Main exports:
  Text.MaximalRun, Text.MaximalRun.exists_around, Text.mem_runs_iff, Text.runs_pairwise,
  Text.runs_append_cons, Text.words_blank_append, Text.words_append_blank
-/
import MakefileNav.Proofs.CharacterClasses
import MakefileNav.Proofs.Slices

namespace MakefileNav

namespace Text

/-!
The reader of runs is a loop that carries the run it is reading.  A maximal run is
described without it: a non-empty stretch of accepted characters that no accepted
character precedes or follows.  The invariant of the loop is that everything it
carries is accepted, and the step that matters is the one at a rejected character,
which separates the runs on its left from those on its right.
-/

/-- `piece` is a maximal run of accepted characters between `before` and `after`. -/
structure MaximalRun (accept : Char → Bool) (before piece after : Text) : Prop where
  nonempty : piece ≠ []
  accepted : ∀ c ∈ piece, accept c = true
  begins : ∀ c ∈ before.getLast?, accept c = false
  ends : ∀ c ∈ after.head?, accept c = false

namespace MaximalRun

variable {accept : Char → Bool} {before piece after : Text}

/-- In a text of accepted characters only the whole is maximal. -/
theorem eq_nil_of_accepted (run : MaximalRun accept before piece after)
    (accepted : ∀ c ∈ before ++ piece ++ after, accept c = true) :
    before = [] ∧ after = [] := by
  constructor
  · cases last : before.getLast? with
    | none => exact List.getLast?_eq_none_iff.mp last
    | some c =>
        have member : c ∈ before := List.mem_of_getLast? last
        have rejected := run.begins c last
        rw [accepted c (by simp [member])] at rejected
        simp at rejected
  · cases after with
    | nil => rfl
    | cons c rest =>
        have rejected := run.ends c rfl
        rw [accepted c (by simp)] at rejected
        simp at rejected

/-- A rejected character stands before or after a run, never in it. -/
theorem split_at_rejected {left right : Text} {c : Char} (rejected : accept c = false)
    (run : MaximalRun accept before piece after)
    (same : left ++ c :: right = before ++ piece ++ after) :
    (∃ after', left = before ++ piece ++ after' ∧ after = after' ++ c :: right ∧
        MaximalRun accept before piece after') ∨
      (∃ before', right = before' ++ piece ++ after ∧ before = left ++ c :: before' ∧
        MaximalRun accept before' piece after) := by
  rcases append_cons_eq_append_iff.mp same with ⟨rest, wholeEq, rightEq⟩ | ⟨after', leftEq, afterEq⟩
  · rcases append_cons_eq_append_iff.mp wholeEq.symm with
      ⟨before', beforeEq, restEq⟩ | ⟨lead, _, pieceEq⟩
    · refine Or.inr ⟨before', by rw [rightEq, restEq], beforeEq, run.nonempty, run.accepted, ?_,
        run.ends⟩
      intro d last
      apply run.begins d
      rw [Option.mem_def] at last ⊢
      rw [beforeEq, List.getLast?_append, List.getLast?_cons, last]
      rfl
    · -- A rejected character of the run itself is impossible.
      have member : c ∈ piece := by rw [pieceEq]; simp
      rw [run.accepted c member] at rejected
      simp at rejected
  · refine Or.inl ⟨after', leftEq, afterEq, run.nonempty, run.accepted, run.begins, ?_⟩
    intro d first
    apply run.ends d
    rw [afterEq]
    cases after' with
    | nil => simp at first
    | cons e rest => simpa using first

/-- A run on the left of a rejected character stays maximal in the whole text. -/
theorem append_rejected (run : MaximalRun accept before piece after) {c : Char}
    (rejected : accept c = false) (right : Text) :
    MaximalRun accept before piece (after ++ c :: right) := by
  refine ⟨run.nonempty, run.accepted, run.begins, ?_⟩
  intro d first
  cases after with
  | nil =>
      simp only [List.nil_append, List.head?_cons, Option.mem_some_iff] at first
      exact first ▸ rejected
  | cons e rest => exact run.ends d (by simpa using first)

/-- A run on the right of a rejected character stays maximal in the whole text. -/
theorem rejected_append (run : MaximalRun accept before piece after) {c : Char}
    (rejected : accept c = false) (left : Text) :
    MaximalRun accept (left ++ c :: before) piece after := by
  refine ⟨run.nonempty, run.accepted, ?_, run.ends⟩
  intro d last
  rw [List.getLast?_append, List.getLast?_cons] at last
  cases ending : before.getLast? with
  | none =>
      simp only [ending, Option.getD_none, Option.some_or, Option.mem_some_iff] at last
      exact last ▸ rejected
  | some e =>
      simp only [ending, Option.getD_some, Option.some_or, Option.mem_some_iff] at last
      exact run.begins d (by rw [ending, last]; rfl)

/-- A text begins with the accepted characters at its start and goes on with a rejected
one.  The beginning is empty only if the first character is rejected. -/
private theorem exists_leading (accept : Char → Bool) (text : Text) :
    ∃ leading rest, text = leading ++ rest ∧ (∀ c ∈ leading, accept c = true) ∧
      (∀ c ∈ rest.head?, accept c = false) ∧
      (leading = [] ↔ ∀ c ∈ text.head?, accept c = false) := by
  refine ⟨text.takeWhile accept, text.dropWhile accept, ?_, ?_, dropWhile_head accept text, ?_⟩
  · exact List.takeWhile_append_dropWhile.symm
  · intro c member
    exact List.mem_takeWhile_imp member
  · cases text with
    | nil => simp
    | cons c rest => cases accepted : accept c <;> simp [accepted]

/-- Accepted characters belong to a maximal run.  They are the whole of it unless an
accepted character stands next to them. -/
theorem exists_around (nonempty : piece ≠ []) (accepted : ∀ c ∈ piece, accept c = true)
    (before after : Text) :
    ∃ left lead trail right, before = left ++ lead ∧ after = trail ++ right ∧
      MaximalRun accept left (lead ++ piece ++ trail) right ∧
      (lead = [] ↔ ∀ c ∈ before.getLast?, accept c = false) ∧
      (trail = [] ↔ ∀ c ∈ after.head?, accept c = false) := by
  obtain ⟨trail, right, afterEq, trailAccepted, ends, trailEmpty⟩ := exists_leading accept after
  obtain ⟨lead, left, beforeEq, leadAccepted, begins, leadEmpty⟩ :=
    exists_leading accept before.reverse
  refine ⟨left.reverse, lead.reverse, trail, right, ?_, afterEq, ⟨?_, ?_, ?_, ends⟩, ?_, trailEmpty⟩
  · simpa using congrArg List.reverse beforeEq
  · simp [nonempty]
  · intro c member
    rcases List.mem_append.mp member with member | member
    · rcases List.mem_append.mp member with member | member
      · exact leadAccepted c (List.mem_reverse.mp member)
      · exact accepted c member
    · exact trailAccepted c member
  · intro c last
    apply begins c
    simpa using last
  · simpa using leadEmpty

end MaximalRun

/-! ### Runs are maximal -/

/-- The run in progress is the only run of the characters it has. -/
private theorem mem_closeRun {accept : Char → Bool} {run : Text} {start : Nat} {token : Token}
    (carried : ∀ c ∈ run, accept c = true) :
    token ∈ (closeRun start run []).reverse ↔
      ∃ before after, run.reverse = before ++ token.text ++ after ∧
        start + byteLength before = token.offset ∧
        MaximalRun accept before token.text after := by
  constructor
  · intro found
    unfold closeRun at found
    split at found
    · simp at found
    · rename_i nonempty
      simp only [List.reverse_singleton, List.mem_singleton] at found
      subst found
      refine ⟨[], [], by simp, by simp, ?_, ?_, by simp, by simp⟩
      · simpa using nonempty
      · simpa using carried
  · intro whole
    rcases whole with ⟨before, after, same, offset, maximal⟩
    have accepted : ∀ c ∈ before ++ token.text ++ after, accept c = true := by
      intro c member
      apply carried c
      rw [← same] at member
      simpa using member
    obtain ⟨rfl, rfl⟩ := maximal.eq_nil_of_accepted accepted
    simp only [List.nil_append, List.append_nil, byteLength_nil, Nat.add_zero] at same offset
    have nonempty : run.isEmpty = false := by
      have tokenNonempty := maximal.nonempty
      rw [← same] at tokenNonempty
      simpa using tokenNonempty
    simp [closeRun, nonempty, same, offset]

/-- What the loop finds, given a run in progress: the runs of what it carries and what
is still to be read. -/
private theorem mem_runs_go {accept : Char → Bool} {text run : Text} {start : Nat}
    {token : Token} (carried : ∀ c ∈ run, accept c = true) :
    token ∈ runs.go accept text start run [] ↔
      ∃ before after, run.reverse ++ text = before ++ token.text ++ after ∧
        start + byteLength before = token.offset ∧
        MaximalRun accept before token.text after := by
  induction text generalizing start run with
  | nil =>
      rw [List.append_nil]
      exact mem_closeRun carried
  | cons c rest ih =>
      simp only [runs.go]
      split
      · rename_i accepted
        rw [ih (List.forall_mem_cons.mpr ⟨accepted, carried⟩)]
        simp
      · rename_i rejected
        rw [Bool.not_eq_true] at rejected
        rw [runs_go_found, List.mem_append, mem_closeRun carried,
          ih (List.forall_mem_nil _)]
        constructor
        · intro sides
          rcases sides with
            ⟨before, after, same, offset, maximal⟩ | ⟨before, after, same, offset, maximal⟩
          · refine ⟨before, after ++ c :: rest, ?_, offset, maximal.append_rejected rejected rest⟩
            rw [same]
            simp
          · rw [List.reverse_nil, List.nil_append] at same
            refine ⟨run.reverse ++ c :: before, after, ?_, ?_,
              maximal.rejected_append rejected run.reverse⟩
            · rw [same]
              simp
            · rw [← offset, byteLength_append, byteLength_reverse, byteLength_cons]
              omega
        · intro division
          rcases division with ⟨before, after, same, offset, maximal⟩
          rcases maximal.split_at_rejected rejected same with
            ⟨after', left, _, maximal'⟩ | ⟨before', right, beforeEq, maximal'⟩
          · exact Or.inl ⟨before, after', left, offset, maximal'⟩
          · refine Or.inr ⟨before', after, by simpa using right, ?_, maximal'⟩
            rw [← offset, beforeEq, byteLength_append, byteLength_reverse, byteLength_cons]
            omega

/-- The runs of a text are its maximal runs, each at its place. -/
theorem mem_runs_iff {accept : Char → Bool} {text : Text} {token : Token} :
    token ∈ runs accept text ↔
      ∃ before after, text = before ++ token.text ++ after ∧
        byteLength before = token.offset ∧ MaximalRun accept before token.text after := by
  unfold runs
  rw [mem_runs_go (List.forall_mem_nil _)]
  simp

theorem standsIn_of_mem_runs {accept : Char → Bool} {text : Text} {token : Token}
    (found : token ∈ runs accept text) : token.StandsIn text := by
  obtain ⟨before, after, same, offset, _⟩ := mem_runs_iff.mp found
  exact ⟨before, after, same, offset⟩

private theorem closeRun_pairwise (start : Nat) (run : Text) :
    (closeRun start run []).reverse.Pairwise fun left right => left.stop < right.offset := by
  unfold closeRun
  split <;> simp

private theorem runs_go_pairwise {accept : Char → Bool} {text run : Text} {start : Nat}
    (carried : ∀ c ∈ run, accept c = true) :
    (runs.go accept text start run []).Pairwise fun left right => left.stop < right.offset := by
  induction text generalizing start run with
  | nil => exact closeRun_pairwise start run
  | cons c rest ih =>
      simp only [runs.go]
      split
      · rename_i accepted
        exact ih (List.forall_mem_cons.mpr ⟨accepted, carried⟩)
      · rw [runs_go_found, List.pairwise_append]
        refine ⟨closeRun_pairwise start run, ih (List.forall_mem_nil _), ?_⟩
        intro left leftFound right rightFound
        -- The left run ends with what the loop carries, the right one starts after `c`.
        obtain ⟨before, after, same, offset, _⟩ := (mem_closeRun carried).mp leftFound
        obtain ⟨before', _, _, offset', _⟩ := (mem_runs_go (List.forall_mem_nil _)).mp rightFound
        have positive : 0 < c.utf8Size := Char.utf8Size_pos c
        have bytes := congrArg byteLength same
        rw [byteLength_reverse, byteLength_append, byteLength_append] at bytes
        rw [Token.stop]
        omega

/-- Runs come from left to right, with at least one character between two of them. -/
theorem runs_pairwise (accept : Char → Bool) (text : Text) :
    (runs accept text).Pairwise fun left right => left.stop < right.offset :=
  runs_go_pairwise (List.forall_mem_nil _)

/-! ### Runs of a text in two parts -/

private theorem runs_go_append {accept : Char → Bool} {c : Char} (rejected : accept c = false)
    (left right run : Text) (start : Nat) :
    runs.go accept (left ++ c :: right) start run [] =
      runs.go accept left start run [] ++
        runs.go accept right (start + byteLength run + byteLength left + c.utf8Size) [] [] := by
  induction left generalizing start run with
  | nil =>
      simp only [List.nil_append, runs.go, rejected, Bool.false_eq_true, if_false]
      rw [runs_go_found, byteLength_nil, Nat.add_zero]
  | cons d left ih =>
      rw [List.cons_append, runs.go, runs.go]
      split
      · rw [ih, byteLength_cons, byteLength_cons]
        congr 2
        omega
      · rw [runs_go_found, runs_go_found accept left, ih, List.append_assoc, byteLength_cons]
        congr 3
        rw [byteLength_nil]
        omega

/-- A rejected character divides a text into two, each with runs of its own. -/
theorem runs_append_cons {accept : Char → Bool} {c : Char} (rejected : accept c = false)
    (left right : Text) :
    runs accept (left ++ c :: right) =
      runs accept left ++
        (runs accept right).map (Token.shift (byteLength (left ++ [c]))) := by
  unfold runs
  rw [runs_go_append rejected, ← runs_go_shift, byteLength_append, byteLength_cons, byteLength_nil]
  simp

/-- Blank space in front of a text moves its words. -/
theorem words_blank_append {blank : Text} (isBlank : Blank blank) (text : Text) :
    words (blank ++ text) = (words text).map (Token.shift (byteLength blank)) := by
  induction blank with
  | nil =>
      rw [List.nil_append, byteLength_nil, List.map_id'' Token.shift_zero]
  | cons c blank ih =>
      have rejected : (!isWhitespace c) = false := by simp [isBlank c (by simp)]
      unfold words at ih ⊢
      rw [List.cons_append, runs_cons_of_not _ rejected,
        ih fun d member => isBlank d (by simp [member])]
      simp [Function.comp_def]

theorem words_blank {blank : Text} (isBlank : Blank blank) : words blank = [] := by
  have moved := words_blank_append isBlank []
  rw [List.append_nil] at moved
  rw [moved]
  rfl

/-- Blank space behind a text does not change its words. -/
theorem words_append_blank {blank : Text} (isBlank : Blank blank) (text : Text) :
    words (text ++ blank) = words text := by
  cases blank with
  | nil => rw [List.append_nil]
  | cons c blank =>
      have rejected : (!isWhitespace c) = false := by simp [isBlank c (by simp)]
      have rest : words blank = [] := words_blank fun d member => isBlank d (by simp [member])
      unfold words at rest ⊢
      rw [runs_append_cons rejected, rest]
      simp

end Text

end MakefileNav
