/-
Module: MakefileNav.Proofs.ByteSlices
Purpose: Readers that cut texts by byte offsets never cut inside a character.
Main exports:
  Text.StepsBack, Text.exists_stepsBack_snap, Text.monotone_snap, Text.firstOffset?_eq_some_iff,
  Text.lastOffset?_opening_iff, Cursor.referenceBySlices?_eq, Usage.inDependenciesBySlices?_eq,
  Line.dependencyPartBySlices?_eq, completionsBySlices?_eq, slices_cut_between_characters
-/
import MakefileNav.Proofs.CursorAnswers
import MakefileNav.Proofs.SearchCompleteness
import MakefileNav.Completion
import MakefileNav.Usage

namespace MakefileNav

/-!
The readers are written with texts that are taken apart character by character, so there is no
offset that could be wrong.  A reader that computes with byte offsets instead has to ask for
slices, and there is no slice between offsets that are not boundaries.  Such readers are written
down here once more, with every slice that they ask for.  The outer option of their answers is
about the slices: it is empty where one of them does not exist.  That the answer is always there,
and the one of the reader without offsets, says that no reader ever cuts inside a character.
-/

namespace Text

/-! ### Moving back to a boundary -/

/-- The loop that lowers a column by one until it is a boundary, with the number of its turns and
the place where it stops. -/
inductive StepsBack (text : Text) : Nat → Nat → Nat → Prop where
  | stop {column : Nat} (boundary : text.IsBoundary column) : StepsBack text column 0 column
  | back {column turns place : Nat} (inside : ¬text.IsBoundary column)
      (further : StepsBack text (column - 1) turns place) :
      StepsBack text column (turns + 1) place

/-- The loop stops at a boundary if there is none between it and the column. -/
theorem stepsBack_of_between {text : Text} {place : Nat} (boundary : text.IsBoundary place) :
    ∀ {distance : Nat},
      (∀ column, place < column → column ≤ place + distance → ¬text.IsBoundary column) →
        text.StepsBack (place + distance) distance place
  | 0, _ => .stop boundary
  | distance + 1, between => by
      apply StepsBack.back
      · exact between _ (by omega) (by omega)
      · apply stepsBack_of_between boundary
        intro column behind notAfter
        exact between column behind (by omega)

/-- The loop has only one run. -/
theorem StepsBack.unique {text : Text} {column turns turns' place place' : Nat}
    (run : text.StepsBack column turns place) (other : text.StepsBack column turns' place') :
    turns' = turns ∧ place' = place := by
  induction run generalizing turns' with
  | stop boundary =>
      cases other with
      | stop _ => exact ⟨rfl, rfl⟩
      | back inside _ => exact absurd boundary inside
  | back inside _ ih =>
      cases other with
      | stop boundary => exact absurd boundary inside
      | back _ further =>
          obtain ⟨rfl, rfl⟩ := ih further
          exact ⟨rfl, rfl⟩

/-- The next boundary is at most four bytes away. -/
theorem exists_isBoundary_behind {text : Text} {place : Nat} (boundary : text.IsBoundary place)
    (inside : place < byteLength text) :
    ∃ next, text.IsBoundary next ∧ place < next ∧ next ≤ place + 4 := by
  obtain ⟨before, after, rfl, rfl⟩ := boundary
  cases after with
  | nil => simp at inside
  | cons c after =>
      have positive : 0 < c.utf8Size := Char.utf8Size_pos c
      have small : c.utf8Size ≤ 4 := Char.utf8Size_le_four c
      exact ⟨byteLength before + c.utf8Size, ⟨before ++ [c], after, by simp, by simp⟩,
        by omega, by omega⟩

/-- Started at the column, or at the end of a shorter text, the loop stops where the column is
snapped to.  Since a character has at most four bytes, there are at most three turns. -/
theorem exists_stepsBack_snap (text : Text) (column : Nat) :
    ∃ turns ≤ 3, text.StepsBack (min column (byteLength text)) turns (text.snap column) := by
  obtain ⟨⟨boundary, notAfter⟩, greatest⟩ := snapsTo_snap text column
  obtain ⟨turns, start⟩ := Nat.exists_eq_add_of_le notAfter
  have between : ∀ place, text.snap column < place → place ≤ text.snap column + turns →
      ¬text.IsBoundary place := by
    intro place behind within isBoundary
    have notBehind : place ≤ text.snap column := greatest ⟨isBoundary, start ▸ within⟩
    omega
  refine ⟨turns, ?_, start ▸ stepsBack_of_between boundary between⟩
  by_contra many
  obtain ⟨next, isBoundary, behind, near⟩ := exists_isBoundary_behind boundary (by omega)
  exact between next behind (by omega) isBoundary

theorem snap_of_isBoundary {text : Text} {place : Nat} (boundary : text.IsBoundary place) :
    text.snap place = place := by
  obtain ⟨before, after, rfl, rfl⟩ := boundary
  exact snap_byteLength before after

theorem monotone_snap (text : Text) : Monotone text.snap := by
  intro column column' notAfter
  obtain ⟨⟨boundary, bounds⟩, _⟩ := snapsTo_snap text column
  obtain ⟨_, greatest⟩ := snapsTo_snap text column'
  exact greatest ⟨boundary, by omega⟩

/-- A text is cut in the same way at a column and at the boundary that it is snapped to. -/
theorem splitBytes_snap (text : Text) (column : Nat) :
    text.splitBytes (text.snap column) = text.splitBytes column := by
  have cut := splitBytes_byteLength (text.splitBytes column).1 (text.splitBytes column).2
  rwa [splitBytes_append] at cut

/-! ### Slices up to the ends of a text -/

theorem slice?_start {text before after : Text} (split : text = before ++ after) :
    text.slice? 0 (byteLength before) = some before :=
  slice?_eq_some_iff.mpr ⟨[], after, split, rfl, Nat.zero_add _⟩

theorem slice?_rest {text before after : Text} {start : Nat} (split : text = before ++ after)
    (bytes : byteLength before = start) :
    text.slice? start (byteLength text) = some after := by
  refine slice?_eq_some_iff.mpr ⟨before, [], by simp [split], bytes, ?_⟩
  rw [split, byteLength_append, bytes]

/-! ### Searches for offsets -/

/-- Byte offset of the first character that is accepted. -/
def firstOffset? (text : Text) (accept : Char → Bool) : Option Nat :=
  (text.offsetsWhere fun _ after => after.head?.any accept).head?

/-- Byte offset of the last occurrence of a piece. -/
def lastOffset? (text piece : Text) : Option Nat :=
  (text.offsetsWhere fun _ after => piece.isPrefixOf after).getLast?

/-- In an ordered list only the head has nothing before it. -/
private theorem head?_eq_some_iff_of_pairwise {before : Nat → Nat → Prop} [Std.Asymm before]
    {offsets : List Nat} (ordered : offsets.Pairwise before) {offset : Nat} :
    offsets.head? = some offset ↔ offset ∈ offsets ∧ ∀ other ∈ offsets, ¬before other offset := by
  cases offsets with
  | nil => simp
  | cons first rest =>
      have behind : ∀ other ∈ rest, before first other := (List.pairwise_cons.mp ordered).1
      rw [List.head?_cons, Option.some.injEq, List.forall_mem_cons]
      constructor
      · rintro rfl
        refine ⟨List.mem_cons_self, fun early => Std.Asymm.asymm _ _ early early, ?_⟩
        exact fun other member => Std.Asymm.asymm _ _ (behind other member)
      · rintro ⟨member, notBehind, _⟩
        rcases List.mem_cons.mp member with rfl | later
        · rfl
        · exact absurd (behind offset later) notBehind

private theorem head?_offsetsWhere_iff {holds : Text → Text → Bool} {text : Text} {offset : Nat} :
    (text.offsetsWhere holds).head? = some offset ↔
      offset ∈ text.offsetsWhere holds ∧ ∀ other ∈ text.offsetsWhere holds, offset ≤ other := by
  rw [head?_eq_some_iff_of_pairwise (offsetsWhere_pairwise holds text)]
  simp only [not_lt]

private theorem getLast?_offsetsWhere_iff {holds : Text → Text → Bool} {text : Text}
    {offset : Nat} :
    (text.offsetsWhere holds).getLast? = some offset ↔
      offset ∈ text.offsetsWhere holds ∧ ∀ other ∈ text.offsetsWhere holds, other ≤ offset := by
  have turned : (text.offsetsWhere holds).reverse.Pairwise (· > ·) :=
    List.pairwise_reverse.mpr (offsetsWhere_pairwise holds text)
  rw [List.getLast?_eq_head?_reverse, head?_eq_some_iff_of_pairwise turned]
  simp only [List.mem_reverse, gt_iff_lt, not_lt]

theorem firstOffset?_eq_some_iff {accept : Char → Bool} {text : Text} {offset : Nat} :
    text.firstOffset? accept = some offset ↔
      ∃ left c right, text = left ++ c :: right ∧ byteLength left = offset ∧ accept c = true ∧
        ∀ d ∈ left, accept d = false := by
  rw [firstOffset?, head?_offsetsWhere_iff]
  simp only [mem_offsetsWhere]
  constructor
  · rintro ⟨⟨left, after, rfl, rfl, accepted⟩, least⟩
    obtain ⟨c, first, accepted⟩ := (Option.any_eq_true _ _).mp accepted
    obtain ⟨right, rfl⟩ := List.head?_eq_some_iff.mp first
    refine ⟨left, c, right, rfl, rfl, accepted, ?_⟩
    intro d member
    by_contra earlier
    obtain ⟨before, between, rfl⟩ := List.append_of_mem member
    have notAfter := least (byteLength before)
      ⟨before, d :: (between ++ c :: right), by simp, rfl, by simpa using earlier⟩
    have positive := Char.utf8Size_pos d
    simp only [byteLength_append, byteLength_cons] at notAfter
    omega
  · rintro ⟨left, c, right, rfl, rfl, accepted, passed⟩
    refine ⟨⟨left, c :: right, rfl, rfl, by simpa using accepted⟩, ?_⟩
    rintro other ⟨before, after, split, rfl, held⟩
    rcases List.append_eq_append_iff.mp split with ⟨middle, rfl, _⟩ | ⟨middle, rfl, rest⟩
    · rw [byteLength_append]
      exact Nat.le_add_right _ _
    · cases middle with
      | nil => simp
      | cons d middle =>
          subst rest
          have rejected := passed d (by simp)
          simp [rejected] at held

theorem firstOffset?_eq_none_iff {accept : Char → Bool} {text : Text} :
    text.firstOffset? accept = none ↔ ∀ c ∈ text, accept c = false := by
  rw [firstOffset?, List.head?_eq_none_iff, List.eq_nil_iff_forall_not_mem]
  simp only [mem_offsetsWhere]
  constructor
  · intro none c member
    by_contra accepted
    obtain ⟨left, right, rfl⟩ := List.append_of_mem member
    exact none _ ⟨left, c :: right, rfl, rfl, by simpa using accepted⟩
  · rintro rejected _ ⟨left, after, rfl, rfl, accepted⟩
    obtain ⟨c, first, accepted⟩ := (Option.any_eq_true _ _).mp accepted
    obtain ⟨right, rfl⟩ := List.head?_eq_some_iff.mp first
    simp [rejected c (by simp)] at accepted

/-- What is before the first accepted character, or the whole text if there is none. -/
theorem getD_firstOffset? (accept : Char → Bool) (text : Text) :
    (text.firstOffset? accept).getD (byteLength text) =
      byteLength (text.takeWhile fun c => !accept c) := by
  cases found : text.firstOffset? accept with
  | none =>
      have passed := firstOffset?_eq_none_iff.mp found
      rw [Option.getD_none, List.takeWhile_eq_self_iff.mpr (by simpa using passed)]
  | some offset =>
      obtain ⟨left, c, right, rfl, rfl, accepted, passed⟩ := firstOffset?_eq_some_iff.mp found
      rw [Option.getD_some, List.takeWhile_append_of_pos (by simpa using passed),
        List.takeWhile_cons_of_neg (by simp [accepted]), List.append_nil]

/-- The offset of a separator is that of the cut there. -/
theorem firstOffset?_beq (separator : Char) (text : Text) :
    text.firstOffset? (· == separator) =
      (text.cut? separator).map fun (left, _) => byteLength left := by
  cases cut : text.cut? separator with
  | none =>
      rw [Option.map_none, firstOffset?_eq_none_iff]
      intro c member
      exact beq_eq_false_iff_ne.mpr (ne_of_mem_of_not_mem member (cut?_eq_none_iff.mp cut))
  | some parts =>
      obtain ⟨left, right⟩ := parts
      obtain ⟨split, absent⟩ := cut?_eq_some_iff.mp cut
      rw [Option.map_some, firstOffset?_eq_some_iff]
      refine ⟨left, separator, right, split, rfl, beq_self_eq_true separator, ?_⟩
      intro c member
      exact beq_eq_false_iff_ne.mpr (ne_of_mem_of_not_mem member absent)

theorem lastOffset?_opening_iff {text : Text} {offset : Nat} :
    text.lastOffset? ['$', '('] = some offset ↔
      ∃ left inner, text = left ++ '$' :: '(' :: inner ∧ byteLength left = offset ∧
        ¬['$', '('] <:+: inner := by
  rw [lastOffset?, getLast?_offsetsWhere_iff]
  simp only [mem_offsetsWhere, List.isPrefixOf_iff_prefix]
  constructor
  · rintro ⟨⟨left, _, rfl, rfl, ⟨inner, rfl⟩⟩, greatest⟩
    refine ⟨left, inner, rfl, rfl, ?_⟩
    rintro ⟨before, after, rfl⟩
    have notBehind := greatest (byteLength (left ++ '$' :: '(' :: before))
      ⟨_, '$' :: '(' :: after, by simp, rfl, ⟨after, rfl⟩⟩
    rw [byteLength_append_opening] at notBehind
    omega
  · rintro ⟨left, inner, rfl, rfl, last⟩
    refine ⟨⟨left, _, rfl, rfl, ⟨inner, rfl⟩⟩, ?_⟩
    rintro other ⟨before, after, split, rfl, ⟨rest, rfl⟩⟩
    rcases List.append_eq_append_iff.mp split with ⟨middle, rfl, inside⟩ | ⟨middle, rfl, _⟩
    · -- An occurrence further right would be a part of what follows the opening.
      rcases middle with _ | ⟨_, _ | ⟨_, middle⟩⟩
      · simp
      · simp at inside
      · simp only [List.cons_append, List.nil_append, List.cons.injEq] at inside
        exact absurd ⟨middle, rest, by simp [inside.2.2]⟩ last
    · rw [byteLength_append]
      exact Nat.le_add_right _ _

theorem lastOffset?_opening_eq_none_iff {text : Text} :
    text.lastOffset? ['$', '('] = none ↔ ¬['$', '('] <:+: text := by
  rw [lastOffset?, List.getLast?_eq_none_iff, List.eq_nil_iff_forall_not_mem]
  simp only [mem_offsetsWhere, List.isPrefixOf_iff_prefix]
  constructor
  · rintro none ⟨left, right, rfl⟩
    exact none _ ⟨left, '$' :: '(' :: right, by simp, rfl, ⟨right, rfl⟩⟩
  · rintro absent _ ⟨left, _, rfl, rfl, ⟨right, rfl⟩⟩
    exact absent ⟨left, right, by simp⟩

end Text

/-! ### The reference around a cursor -/

namespace Cursor

/-- The reference around a column, read from slices of the line. -/
def referenceBySlices? (line : Text) (column : Nat) : Option (Option Text) := do
  let before ← line.slice? 0 column
  let after ← line.slice? column line.byteLength
  if !after.contains ')' then return none
  let some opening := before.lastOffset? ['$', '('] | return none
  let fromOpening ← line.slice? opening line.byteLength
  let some distance := fromOpening.firstOffset? (· == ')') | return none
  let closing := opening + distance
  if column < opening + 2 ∨ closing < column then return none
  let name ← line.slice? (opening + 2) closing
  return if name.isEmpty then none else some name

theorem referenceAt?_eq_none_iff {before after : Text} :
    referenceAt? (before ++ after) (Text.byteLength before) = none ↔
      ∀ inner rest, OpenAt before after inner rest → inner ++ rest = [] := by
  rw [Option.eq_none_iff_forall_ne_some]
  simp only [ne_eq, referenceAt?_eq_some_iff]
  constructor
  · intro unread inner rest isOpen
    by_contra nonempty
    exact unread (inner ++ rest) ⟨inner, rest, isOpen, rfl, nonempty⟩
  · rintro empty name ⟨inner, rest, isOpen, rfl, nonempty⟩
    exact nonempty (empty inner rest isOpen)

/-- Only the last opening before a cut can be the one of a reference. -/
theorem OpenAt.inner_eq {left inner after inner' rest' : Text} (last : ¬['$', '('] <:+: inner)
    (isOpen : OpenAt (left ++ '$' :: '(' :: inner) after inner' rest') : inner' = inner := by
  obtain ⟨left', split⟩ := isOpen.opens
  have here := Text.lastOffset?_opening_iff.mpr ⟨left, inner, rfl, rfl, last⟩
  have there := Text.lastOffset?_opening_iff.mpr ⟨left', inner', split, rfl, isOpen.last⟩
  rw [here, Option.some.injEq] at there
  obtain ⟨_, same⟩ := Text.append_inj_of_byteLength split there
  simpa using same.symm

/-- Where a reference is open, it is read unless its parentheses are empty. -/
theorem OpenAt.referenceAt? {before after inner rest : Text}
    (isOpen : OpenAt before after inner rest) :
    Cursor.referenceAt? (before ++ after) (Text.byteLength before) =
      if inner ++ rest = [] then none else some (inner ++ rest) := by
  by_cases empty : inner ++ rest = []
  · rw [if_pos empty, referenceAt?_eq_none_iff]
    intro inner' rest' isOpen'
    obtain ⟨left, rfl⟩ := isOpen.opens
    obtain ⟨right, closes⟩ := isOpen.closes
    obtain ⟨right', closes'⟩ := isOpen'.closes
    have here := Text.cut?_eq_some_iff.mpr ⟨closes, isOpen.first⟩
    have there := Text.cut?_eq_some_iff.mpr ⟨closes', isOpen'.first⟩
    rw [here, Option.some.injEq, Prod.mk.injEq] at there
    rw [isOpen'.inner_eq isOpen.last, ← there.1, empty]
  · rw [if_neg empty]
    exact referenceAt?_eq_some_iff.mpr ⟨inner, rest, isOpen, rfl, empty⟩

/-- Behind the last opening, everything up to the first closing parenthesis is read, unless that
one comes before the column. -/
theorem referenceBySlices?_of_closing {line left inner after name right : Text}
    (cut : line = left ++ '$' :: '(' :: inner ++ after) (last : ¬['$', '('] <:+: inner)
    (closed : ')' ∈ after) (split : inner ++ after = name ++ ')' :: right) (first : ')' ∉ name) :
    referenceBySlices? line (Text.byteLength (left ++ '$' :: '(' :: inner)) =
      some (if Text.byteLength name < Text.byteLength inner ∨ name = [] then none
        else some name) := by
  have whole : line = left ++ '$' :: '(' :: (name ++ ')' :: right) := by simp [cut, split]
  have before := Text.slice?_start cut
  have behind := Text.slice?_rest cut rfl
  have fromOpening := Text.slice?_rest whole rfl
  have opening := Text.lastOffset?_opening_iff.mpr ⟨left, inner, rfl, rfl, last⟩
  have distance : Text.firstOffset? ('$' :: '(' :: (name ++ ')' :: right)) (· == ')') =
      some (Text.byteLength name + 2) := by
    refine Text.firstOffset?_eq_some_iff.mpr
      ⟨'$' :: '(' :: name, ')', right, rfl, ?_, beq_self_eq_true ')', ?_⟩
    · simp only [Text.byteLength_cons, Text.utf8Size_dollar, Text.utf8Size_parenthesis]
      omega
    · simpa using fun c member => ne_of_mem_of_not_mem member first
  have enclosed : line.slice? (Text.byteLength left + 2)
      (Text.byteLength left + (Text.byteLength name + 2)) = some name :=
    Text.slice?_eq_some_iff.mpr
      ⟨left ++ ['$', '('], ')' :: right, by simp [whole], by simp, by omega⟩
  have column := Text.byteLength_append_opening left inner
  simp only [referenceBySlices?, before, behind, opening, fromOpening, distance,
    List.contains_iff_mem.mpr closed, Option.bind_eq_bind, Option.bind_some, Option.pure_def,
    Bool.not_true, Bool.false_eq_true, if_false]
  by_cases short : Text.byteLength name < Text.byteLength inner
  · rw [if_pos (by omega), if_pos (Or.inl short)]
  · rw [if_neg (by omega), enclosed, Option.bind_some]
    simp only [short, false_or, List.isEmpty_iff]

/-- No slice is missing at a boundary, and what is read is the reference around it. -/
theorem referenceBySlices?_eq {line : Text} {column : Nat} (boundary : line.IsBoundary column) :
    referenceBySlices? line column = some (referenceAt? line column) := by
  obtain ⟨before, after, rfl, rfl⟩ := boundary
  by_cases closed : ')' ∈ after
  · cases opening : before.lastOffset? ['$', '('] with
    | none =>
        have outside : referenceAt? (before ++ after) (Text.byteLength before) = none := by
          refine referenceAt?_eq_none_iff.mpr fun inner rest isOpen => ?_
          obtain ⟨left, rfl⟩ := isOpen.opens
          exact absurd ⟨left, inner, by simp⟩ (Text.lastOffset?_opening_eq_none_iff.mp opening)
        rw [outside]
        simp [referenceBySlices?, Text.slice?_start rfl, Text.slice?_rest rfl rfl, closed, opening,
          -Text.byteLength_append]
    | some offset =>
        obtain ⟨left, inner, rfl, rfl, last⟩ := Text.lastOffset?_opening_iff.mp opening
        by_cases inside : ')' ∈ inner
        · -- The parenthesis before the column closes what the opening has opened.
          have outside := referenceAt?_eq_none_iff.mpr fun inner' rest
              (isOpen : OpenAt (left ++ '$' :: '(' :: inner) after inner' rest) =>
            absurd (isOpen.inner_eq last ▸ inside) isOpen.unclosed
          obtain ⟨name, more, rfl, first⟩ := List.eq_append_cons_of_mem inside
          have split : name ++ ')' :: more ++ after = name ++ ')' :: (more ++ after) := by simp
          have short : Text.byteLength name < Text.byteLength (name ++ ')' :: more) := by
            have positive := Text.byteLength_pos (List.cons_ne_nil ')' more)
            rw [Text.byteLength_append]
            omega
          rw [referenceBySlices?_of_closing rfl last closed split first, outside,
            if_pos (Or.inl short)]
        · obtain ⟨rest, right, rfl, first⟩ := List.eq_append_cons_of_mem closed
          have split : inner ++ (rest ++ ')' :: right) = inner ++ rest ++ ')' :: right := by simp
          have isOpen : OpenAt (left ++ '$' :: '(' :: inner) (rest ++ ')' :: right) inner rest :=
            ⟨⟨left, rfl⟩, last, inside, ⟨right, rfl⟩, first⟩
          have long : ¬Text.byteLength (inner ++ rest) < Text.byteLength inner := by
            rw [Text.byteLength_append]
            omega
          rw [referenceBySlices?_of_closing rfl last closed split (by simp [inside, first]),
            isOpen.referenceAt?]
          simp only [long, false_or]
  · have outside : referenceAt? (before ++ after) (Text.byteLength before) = none := by
      refine referenceAt?_eq_none_iff.mpr fun inner rest isOpen => ?_
      obtain ⟨right, rfl⟩ := isOpen.closes
      simp at closed
    rw [outside]
    simp [referenceBySlices?, Text.slice?_start rfl, Text.slice?_rest rfl rfl, closed,
      -Text.byteLength_append]

end Cursor

namespace Usage

/-- Byte offsets of a name as a whole word in the slice behind the first colon of a line. -/
def inDependenciesBySlices? (name line : Text) : Option (List Nat) := do
  let some colon := line.firstOffset? (· == ':') | return []
  let rest ← line.slice? (colon + 1) line.byteLength
  return (Text.wholeWordOccurrences name rest).map (colon + 1 + ·)

theorem inDependenciesBySlices?_eq (name line : Text) :
    inDependenciesBySlices? name line = some (inDependencies name line) := by
  unfold inDependenciesBySlices? inDependencies Line.afterColon?
  rw [Text.firstOffset?_beq]
  cases cut : line.cut? ':' with
  | none => rfl
  | some parts =>
      obtain ⟨left, right⟩ := parts
      obtain ⟨split, _⟩ := Text.cut?_eq_some_iff.mp cut
      have behind : line.slice? (Text.byteLength left + 1) line.byteLength = some right :=
        Text.slice?_rest (split.trans (List.append_cons left ':' right)) (by simp)
      simp [behind]

end Usage

namespace Line

/-- The dependency list of a rule line, read from slices of the line. -/
def dependencyPartBySlices? (line : Text) : Option (Option Token) := do
  if isBlankOrComment line.trim || line.head? == some '\t' || isAssignment line then return none
  let some colon := line.firstOffset? (· == ':') | return none
  let fromColon ← line.slice? colon line.byteLength
  let start := ((fromColon.firstOffset? (· != ':')).map (colon + ·)).getD line.byteLength
  let rest ← line.slice? start line.byteLength
  let list := rest.takeWhile (· != ';')
  return if list.contains '=' then none else some ⟨start, list⟩

theorem dependencyPartBySlices?_eq (line : Text) :
    dependencyPartBySlices? line = some (dependencyPart? line) := by
  unfold dependencyPartBySlices? dependencyPart?
  split
  · rfl
  · rw [Text.firstOffset?_beq]
    cases cut : line.cut? ':' with
    | none => rfl
    | some parts =>
        obtain ⟨left, right⟩ := parts
        obtain ⟨split, _⟩ := Text.cut?_eq_some_iff.mp cut
        have fromColon := Text.slice?_rest split rfl
        have start : ((Text.firstOffset? (':' :: right) (· != ':')).map
              (Text.byteLength left + ·)).getD line.byteLength =
            Text.byteLength left + 1 + Text.byteLength (right.takeWhile (· == ':')) := by
          have whole : line.byteLength = Text.byteLength left + Text.byteLength (':' :: right) := by
            rw [split, Text.byteLength_append]
          rw [whole, Option.getD_map, Text.getD_firstOffset?]
          simp [bne, Nat.add_assoc]
        have fromList : line.slice?
            (Text.byteLength left + 1 + Text.byteLength (right.takeWhile (· == ':')))
            line.byteLength = some (right.dropWhile (· == ':')) := by
          have parts : line = left ++ ':' :: right.takeWhile (· == ':') ++
              right.dropWhile (· == ':') := by simp [split]
          exact Text.slice?_rest parts (by simp [Nat.add_assoc])
        simp [fromColon, start, fromList]

end Line

/-! ### Places with the same boundary -/

/-- What can be typed in a document where the text before the cursor asks for something. -/
def Completion.offered (file : Path) (text : Text) : Completion.Context → List Completion
  | .variableReference => variableCompletions (declarations file text)
  | .dependency => targetCompletions (declarations file text)
  | .general => generalCompletions

theorem completions_eq_offered (file : Path) (text : Text) (place : Position) :
    completions file text place = Completion.offered file text (Completion.contextOf
      ((text.lines[place.line]?.getD []).splitBytes place.character).1) := by
  cases asked : Completion.contextOf
      ((text.lines[place.line]?.getD []).splitBytes place.character).1 <;>
    simp only [completions, asked, Completion.offered]

/-- What can be typed at a place of a document, where the text before the place is a slice of its
line. -/
def completionsBySlices? (file : Path) (text : Text) (place : Position) :
    Option (List Completion) := do
  let line := text.lines[place.line]?.getD []
  let before ← line.slice? 0 (line.snap place.character)
  return Completion.offered file text (Completion.contextOf before)

theorem completionsBySlices?_eq (file : Path) (text : Text) (place : Position) :
    completionsBySlices? file text place = some (completions file text place) := by
  have before := Text.slice?_start
    (Text.splitBytes_append place.character (text.lines[place.line]?.getD [])).symm
  simp only [completionsBySlices?, Text.snap, before, completions_eq_offered,
    Option.bind_eq_bind, Option.bind_some, Option.pure_def]

section SameBoundary

variable {text : Text} {number column other : Nat}

theorem nameAt?_eq_of_snap_eq (same : (text.lines[number]?.getD []).snap column =
      (text.lines[number]?.getD []).snap other) :
    nameAt? text ⟨number, column⟩ = nameAt? text ⟨number, other⟩ := by
  cases found : text.lines[number]? with
  | none => simp only [nameAt?, found]
  | some line =>
      rw [found, Option.getD_some] at same
      simp only [nameAt?, found, same]

theorem completions_eq_of_snap_eq (file : Path) (same : (text.lines[number]?.getD []).snap column =
      (text.lines[number]?.getD []).snap other) :
    completions file text ⟨number, column⟩ = completions file text ⟨number, other⟩ := by
  have cut : (text.lines[number]?.getD []).splitBytes column =
      (text.lines[number]?.getD []).splitBytes other := by
    rw [← Text.splitBytes_snap, same, Text.splitBytes_snap]
  simp only [completions, cut]

end SameBoundary

/-- A column is moved back to the last boundary that is not beyond it, by a loop that stops after
three turns at the latest; a boundary stays where it is, and columns stay in order.  Columns that
are moved to the same place have the same name and the same completions.  With every offset that
the readers of the cursor, of dependencies and of rule lines compute they find the slice that
they ask for, so that they read the same as they do without offsets. -/
theorem slices_cut_between_characters (line : Text) (column : Nat) :
    (∃ turns ≤ 3, ∀ turns' place,
        line.StepsBack (min column line.byteLength) turns' place ↔
          turns' = turns ∧ place = line.snap column) ∧
      line.SnapsTo column (line.snap column) ∧
      line.snap (line.snap column) = line.snap column ∧
      (∀ further, column ≤ further → line.snap column ≤ line.snap further) ∧
      (∀ text number, text.lines[number]?.getD [] = line →
        (∀ other, line.snap column = line.snap other →
          nameAt? text ⟨number, column⟩ = nameAt? text ⟨number, other⟩ ∧
            ∀ file, completions file text ⟨number, column⟩ =
              completions file text ⟨number, other⟩) ∧
        ∀ file, completionsBySlices? file text ⟨number, column⟩ =
          some (completions file text ⟨number, column⟩)) ∧
      Cursor.referenceBySlices? line (line.snap column) =
        some (Cursor.referenceAt? line (line.snap column)) ∧
      (∀ name, Usage.inDependenciesBySlices? name line = some (Usage.inDependencies name line)) ∧
      Line.dependencyPartBySlices? line = some (Line.dependencyPart? line) := by
  have snaps := Text.snapsTo_snap line column
  have boundary := snaps.1.1
  obtain ⟨turns, few, run⟩ := Text.exists_stepsBack_snap line column
  refine ⟨⟨turns, few, fun turns' place => ⟨run.unique, ?_⟩⟩, snaps,
    Text.snap_of_isBoundary boundary, fun further notAfter => Text.monotone_snap line notAfter,
    ?_, Cursor.referenceBySlices?_eq boundary,
    fun name => Usage.inDependenciesBySlices?_eq name line, Line.dependencyPartBySlices?_eq line⟩
  · rintro ⟨rfl, rfl⟩
    exact run
  · rintro text number rfl
    refine ⟨fun other same => ⟨nameAt?_eq_of_snap_eq same, fun file => ?_⟩, fun file => ?_⟩
    · exact completions_eq_of_snap_eq file same
    · exact completionsBySlices?_eq file text ⟨number, column⟩

/-- A column inside a character of two bytes: there is no slice up to it, and it is read like the
column of the character. -/
theorem slices_cut_between_characters_wide :
    let line : Text := ['é', ':', '$', '(', 'a', 'é', ')']
    line.slice? 0 7 = none ∧ line.snap 7 = 6 ∧
      (∃ turns ≤ 3, line.StepsBack 7 turns 6) ∧ line.SnapsTo 7 6 ∧ line.snap 7 ≤ line.snap 8 ∧
      nameAt? line ⟨0, 7⟩ = nameAt? line ⟨0, 6⟩ ∧ nameAt? line ⟨0, 6⟩ = some ['a', 'é'] ∧
      completions ⟨['M']⟩ line ⟨0, 7⟩ = completions ⟨['M']⟩ line ⟨0, 6⟩ ∧
      completionsBySlices? ⟨['M']⟩ line ⟨0, 7⟩ =
        some (Completion.predefinedVariables.map fun (name, purpose) =>
          Completion.ofVariable name purpose) ∧
      Cursor.referenceBySlices? line 7 = none ∧
      Cursor.referenceBySlices? line 6 = some (some ['a', 'é']) ∧
      Usage.inDependenciesBySlices? ['a', 'é'] line = some [5] ∧
      Line.dependencyPartBySlices? line =
        some (some ⟨3, ['$', '(', 'a', 'é', ')']⟩) := by
  intro line
  obtain ⟨⟨turns, few, runs⟩, snaps, _, ordered, atPlace, reference, words, part⟩ :=
    slices_cut_between_characters line 7
  obtain ⟨same, offered⟩ := atPlace line 0 (by decide)
  obtain ⟨named, completed⟩ := same 6 (by decide)
  exact ⟨by decide, by decide, ⟨turns, few, (runs turns 6).mpr ⟨rfl, by decide⟩⟩, snaps,
    ordered 8 (by decide), named, by decide, completed ⟨['M']⟩,
    (offered ⟨['M']⟩).trans (by decide), by decide, reference.trans (by decide),
    (words ['a', 'é']).trans (by decide), part.trans (by decide)⟩

end MakefileNav
