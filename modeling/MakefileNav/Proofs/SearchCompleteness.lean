/-
Module: MakefileNav.Proofs.SearchCompleteness
Purpose: What a search from left to right without overlaps finds, and when it finds
  everything there is.
Main exports:
  Text.cuts, Text.offsetsWhere, Text.mem_offsetsWhere, Text.exists_match_of_mem_scan,
  Text.mem_scan_of_free, Text.scan_pairwise, Text.scan_apart, Text.scan_eq_offsetsWhere
-/
import Mathlib.Data.List.Sort
import MakefileNav.Proofs.Slices
import MakefileNav.Text.Search

namespace MakefileNav

namespace Text

/-!
The naive way to look for something in a text is to try every cut of the text and to
keep those at which it is found.  A search does less: after a match it goes on behind
the match, so it can miss a match that begins inside an earlier one.  It never finds
anything else than the naive way does, and it finds each match into which no earlier
match reaches.  If no two matches overlap at all the two ways agree.
-/

/-! ### All places of a text -/

/-- All ways to cut a text in two, from left to right. -/
def cuts (text : Text) : List (Text × Text) :=
  (List.range (text.length + 1)).map fun n => (text.take n, text.drop n)

theorem mem_cuts {text before after : Text} :
    (before, after) ∈ text.cuts ↔ text = before ++ after := by
  unfold cuts
  rw [List.mem_map]
  constructor
  · intro counted
    rcases counted with ⟨n, _, same⟩
    injection same with beforeEq afterEq
    rw [← beforeEq, ← afterEq, List.take_append_drop]
  · rintro rfl
    refine ⟨before.length, ?_, by simp⟩
    rw [List.mem_range, List.length_append]
    omega

/-- Later cuts have more bytes before them. -/
theorem cuts_pairwise (text : Text) :
    text.cuts.Pairwise fun left right => byteLength left.1 < byteLength right.1 := by
  unfold cuts
  rw [List.pairwise_map]
  apply List.Pairwise.imp_of_mem (fun {i j} _ inRange ordered => ?_) List.pairwise_lt_range
  have inside : j ≤ text.length := by
    rw [List.mem_range] at inRange
    omega
  have longer : text.take j = text.take i ++ (text.drop i).take (j - i) := by
    rw [← List.take_add, Nat.add_sub_cancel' (Nat.le_of_lt ordered)]
  have nonempty : (text.drop i).take (j - i) ≠ [] := by
    rw [Ne, ← List.length_eq_zero_iff, List.length_take, List.length_drop]
    omega
  have positive := byteLength_pos nonempty
  simp only
  rw [longer, byteLength_append]
  omega

/-- Byte offsets of the cuts with a property, in increasing order. -/
def offsetsWhere (holds : Text → Text → Bool) (text : Text) : List Nat :=
  (text.cuts.filter fun cut => holds cut.1 cut.2).map fun cut => byteLength cut.1

theorem mem_offsetsWhere {holds : Text → Text → Bool} {text : Text} {offset : Nat} :
    offset ∈ text.offsetsWhere holds ↔
      ∃ before after, text = before ++ after ∧ byteLength before = offset ∧
        holds before after = true := by
  unfold offsetsWhere
  rw [List.mem_map]
  constructor
  · intro listed
    rcases listed with ⟨⟨before, after⟩, kept, bytes⟩
    obtain ⟨cut, holds⟩ := List.mem_filter.mp kept
    exact ⟨before, after, mem_cuts.mp cut, bytes, holds⟩
  · intro division
    rcases division with ⟨before, after, same, bytes, holds⟩
    exact ⟨(before, after), List.mem_filter.mpr ⟨mem_cuts.mpr same, holds⟩, bytes⟩

theorem offsetsWhere_pairwise (holds : Text → Text → Bool) (text : Text) :
    (text.offsetsWhere holds).Pairwise (· < ·) := by
  unfold offsetsWhere
  rw [List.pairwise_map]
  exact (cuts_pairwise text).filter _

/-! ### The search step by step -/

section Scan

variable {matchAt? : Option Char → Text → Option Nat}

/-- A character of the last match is passed over. -/
private theorem scan_go_used (c : Char) (rest : Text) (before : Option Char) (used : Nat) :
    scan.go matchAt? (c :: rest) before (used + 1) 0 [] =
      (scan.go matchAt? rest (some c) used 0 []).map (c.utf8Size + ·) := by
  rw [scan.go, scan_go_found]
  simp

/-- A place without a match is passed over. -/
private theorem scan_go_none {c : Char} {rest : Text} {before : Option Char}
    (found : matchAt? before (c :: rest) = none) :
    scan.go matchAt? (c :: rest) before 0 0 [] =
      (scan.go matchAt? rest (some c) 0 0 []).map (c.utf8Size + ·) := by
  rw [scan.go, found]
  simp only
  rw [scan_go_found]
  simp

/-- A match is reported and uses up its characters. -/
private theorem scan_go_some {c : Char} {rest : Text} {before : Option Char} {width : Nat}
    (found : matchAt? before (c :: rest) = some width) :
    scan.go matchAt? (c :: rest) before 0 0 [] =
      0 :: (scan.go matchAt? rest (some c) (width - 1) 0 []).map (c.utf8Size + ·) := by
  rw [scan.go, found]
  simp only
  rw [scan_go_found]
  simp

/-- A step of the search passes one character, and reports at most the place before it. -/
private theorem scan_go_cons (matchAt? : Option Char → Text → Option Nat) (c : Char)
    (rest : Text) (before : Option Char) (used : Nat) :
    ∃ used' reported, scan.go matchAt? (c :: rest) before used 0 [] =
        reported ++ (scan.go matchAt? rest (some c) used' 0 []).map (c.utf8Size + ·) ∧
      (reported = [] ∨ reported = [0] ∧ (matchAt? before (c :: rest)).isSome) := by
  cases used with
  | succ used => exact ⟨used, [], scan_go_used c rest before used, Or.inl rfl⟩
  | zero =>
      cases found : matchAt? before (c :: rest) with
      | none => exact ⟨0, [], scan_go_none found, Or.inl rfl⟩
      | some width => exact ⟨width - 1, [0], scan_go_some found, Or.inr ⟨rfl, rfl⟩⟩

/-! ### Soundness -/

private theorem exists_match_of_mem_scan_go {text : Text} {before : Option Char}
    {used offset : Nat} (found : offset ∈ scan.go matchAt? text before used 0 []) :
    ∃ passed after, text = passed ++ after ∧ byteLength passed = offset ∧
      (matchAt? (passed.getLast?.or before) after).isSome := by
  induction text generalizing before used offset with
  | nil => simp [scan.go] at found
  | cons c rest ih =>
      obtain ⟨used', reported, step, place⟩ := scan_go_cons matchAt? c rest before used
      rw [step, List.mem_append] at found
      rcases found with here | later
      · rcases place with rfl | ⟨rfl, matched⟩
        · simp at here
        · rw [List.mem_singleton] at here
          subst here
          exact ⟨[], c :: rest, rfl, rfl, matched⟩
      · obtain ⟨offset', found', rfl⟩ := List.mem_map.mp later
        obtain ⟨passed, after, rfl, rfl, matched⟩ := ih found'
        refine ⟨c :: passed, after, rfl, by simp, ?_⟩
        rw [List.getLast?_cons]
        cases last : passed.getLast? <;> simpa [last] using matched

/-- A search reports only matches. -/
theorem exists_match_of_mem_scan {text : Text} {offset : Nat}
    (found : offset ∈ text.scan matchAt?) :
    ∃ before after, text = before ++ after ∧ byteLength before = offset ∧
      (matchAt? before.getLast? after).isSome := by
  obtain ⟨passed, after, same, bytes, matched⟩ := exists_match_of_mem_scan_go found
  rw [Option.or_none] at matched
  exact ⟨passed, after, same, bytes, matched⟩

/-! ### Completeness -/

/-- The invariant of completeness: a match is still ahead of the search, behind the
characters that are used up, and no earlier match reaches into it. -/
private theorem mem_scan_go_of_free {passed after : Text} {before : Option Char} {used : Nat}
    (nonempty : after ≠ []) (ahead : used ≤ passed.length)
    (matched : (matchAt? (passed.getLast?.or before) after).isSome)
    (free : ∀ earlier middle width, passed = earlier ++ middle → middle ≠ [] →
      matchAt? (earlier.getLast?.or before) (middle ++ after) = some width →
      width ≤ middle.length) :
    byteLength passed ∈ scan.go matchAt? (passed ++ after) before used 0 [] := by
  induction passed generalizing before used with
  | nil =>
      obtain ⟨c, rest, rfl⟩ := List.exists_cons_of_ne_nil nonempty
      obtain rfl : used = 0 := by simpa using ahead
      obtain ⟨width, found⟩ := Option.isSome_iff_exists.mp matched
      rw [List.nil_append, scan_go_some (by simpa using found)]
      simp
  | cons c passed ih =>
      have next : ∀ text : Text, (c :: text).getLast?.or before = text.getLast?.or (some c) := by
        intro text
        rw [List.getLast?_cons]
        cases text.getLast? <;> rfl
      have later : ∀ used', used' ≤ passed.length →
          byteLength (c :: passed) ∈
            (scan.go matchAt? (passed ++ after) (some c) used' 0 []).map (c.utf8Size + ·) := by
        intro used' ahead'
        rw [byteLength_cons]
        apply List.mem_map_of_mem
        apply ih ahead'
        · rw [← next]
          exact matched
        · intro earlier middle width same middleNonempty found
          apply free (c :: earlier) middle width (by simp [same]) middleNonempty
          rw [next]
          exact found
      rw [List.cons_append]
      cases used with
      | succ used =>
          rw [scan_go_used]
          exact later used (by simpa using ahead)
      | zero =>
          cases found : matchAt? before (c :: (passed ++ after)) with
          | none =>
              rw [scan_go_none found]
              exact later 0 (Nat.zero_le _)
          | some width =>
              -- A match at this place ends before the one that is looked for.
              have short : width ≤ (c :: passed).length :=
                free [] (c :: passed) width rfl (by simp) (by simpa using found)
              rw [List.length_cons] at short
              rw [scan_go_some found]
              exact List.mem_cons_of_mem _ (later (width - 1) (by omega))

/-- A search reports each match into which no earlier match reaches. -/
theorem mem_scan_of_free {before after : Text} (nonempty : after ≠ [])
    (matched : (matchAt? before.getLast? after).isSome)
    (free : ∀ earlier middle width, before = earlier ++ middle → middle ≠ [] →
      matchAt? earlier.getLast? (middle ++ after) = some width → width ≤ middle.length) :
    byteLength before ∈ (before ++ after).scan matchAt? := by
  apply mem_scan_go_of_free nonempty (Nat.zero_le _)
  · rw [Option.or_none]
    exact matched
  · intro earlier middle width same middleNonempty found
    rw [Option.or_none] at found
    exact free earlier middle width same middleNonempty found

/-! ### Order -/

private theorem scan_go_pairwise (text : Text) (before : Option Char) (used : Nat) :
    (scan.go matchAt? text before used 0 []).Pairwise (· < ·) := by
  induction text generalizing before used with
  | nil => simp [scan.go]
  | cons c rest ih =>
      obtain ⟨used', reported, step, place⟩ := scan_go_cons matchAt? c rest before used
      have positive : 0 < c.utf8Size := Char.utf8Size_pos c
      have tail : ((scan.go matchAt? rest (some c) used' 0 []).map (c.utf8Size + ·)).Pairwise
          (· < ·) := by
        rw [List.pairwise_map]
        exact (ih (some c) used').imp (by intro a b ordered; omega)
      rw [step]
      rcases place with rfl | ⟨rfl, _⟩
      · exact tail
      · rw [List.singleton_append, List.pairwise_cons]
        refine ⟨?_, tail⟩
        intro offset found
        obtain ⟨offset', _, rfl⟩ := List.mem_map.mp found
        omega

/-- A search goes from left to right. -/
theorem scan_pairwise (matchAt? : Option Char → Text → Option Nat) (text : Text) :
    (text.scan matchAt?).Pairwise (· < ·) :=
  scan_go_pairwise text none 0

/-- Nothing is reported inside the characters that are used up. -/
private theorem byteLength_take_le_of_mem_scan_go {text : Text} {before : Option Char}
    {used offset : Nat} (found : offset ∈ scan.go matchAt? text before used 0 []) :
    byteLength (text.take used) ≤ offset := by
  induction text generalizing before used offset with
  | nil => simp [scan.go] at found
  | cons c rest ih =>
      cases used with
      | zero => exact Nat.zero_le _
      | succ used =>
          rw [scan_go_used] at found
          obtain ⟨offset', found', rfl⟩ := List.mem_map.mp found
          rw [List.take_succ_cons, byteLength_cons]
          exact Nat.add_le_add_left (ih found') _

section Apart

variable {piece : Text}
  (same : ∀ before suffix width, matchAt? before suffix = some width →
    piece <+: suffix ∧ width = piece.length)

include same

private theorem scan_go_apart (text : Text) (before : Option Char) (used : Nat) :
    (scan.go matchAt? text before used 0 []).Pairwise fun left right =>
      left + byteLength piece ≤ right := by
  induction text generalizing before used with
  | nil => simp [scan.go]
  | cons c rest ih =>
      have tail (used' : Nat) :
          ((scan.go matchAt? rest (some c) used' 0 []).map (c.utf8Size + ·)).Pairwise
            fun left right => left + byteLength piece ≤ right := by
        rw [List.pairwise_map]
        exact (ih (some c) used').imp (by intro left right ordered; omega)
      cases used with
      | succ used =>
          rw [scan_go_used]
          exact tail used
      | zero =>
          cases found : matchAt? before (c :: rest) with
          | none =>
              rw [scan_go_none found]
              exact tail 0
          | some width =>
              rw [scan_go_some found, List.pairwise_cons]
              refine ⟨?_, tail (width - 1)⟩
              intro offset later
              obtain ⟨offset', later', rfl⟩ := List.mem_map.mp later
              have behind := byteLength_take_le_of_mem_scan_go later'
              -- The match is the character at hand with those that it uses up.
              obtain ⟨begins, rfl⟩ := same before (c :: rest) width found
              rw [List.prefix_iff_eq_take.mp begins]
              cases length : piece.length with
              | zero => simp
              | succ count =>
                  rw [length, Nat.add_sub_cancel] at behind
                  rw [List.take_succ_cons, byteLength_cons]
                  omega

/-- If every match is one and the same piece, each match of a search starts where the one before
it stops, or further to the right. -/
theorem scan_apart (text : Text) :
    (text.scan matchAt?).Pairwise fun left right => left + byteLength piece ≤ right :=
  scan_go_apart same text none 0

end Apart

/-- If no match begins inside another one, a search finds every match. -/
theorem scan_eq_offsetsWhere (text : Text)
    (proper : ∀ before, matchAt? before [] = none)
    (disjoint : ∀ before middle after width, middle ≠ [] →
      matchAt? before (middle ++ after) = some width →
      (matchAt? middle.getLast? after).isSome → width ≤ middle.length) :
    text.scan matchAt? =
      text.offsetsWhere fun before after => (matchAt? before.getLast? after).isSome := by
  apply (scan_pairwise matchAt? text).eq_of_mem_iff (offsetsWhere_pairwise _ text)
  intro offset
  rw [mem_offsetsWhere]
  constructor
  · exact exists_match_of_mem_scan
  · intro cut
    rcases cut with ⟨before, after, rfl, rfl, matched⟩
    apply mem_scan_of_free
    · rintro rfl
      rw [proper] at matched
      simp at matched
    · exact matched
    · rintro earlier middle width rfl nonempty found
      apply disjoint _ _ _ _ nonempty found
      rw [List.getLast?_append] at matched
      rw [List.getLast?_eq_some_getLast nonempty] at matched ⊢
      exact matched

end Scan

end Text

end MakefileNav
