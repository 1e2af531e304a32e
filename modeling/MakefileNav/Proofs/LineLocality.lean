/-
Module: MakefileNav.Proofs.LineLocality
Purpose: A scan of a document goes line by line and remembers nothing.
Main exports:
  scanLines_cons, scanLines_append, scanLines_split, scanLines_pairwise, filter_scanLines,
  declarations_append, usages_append
-/
import MakefileNav.Proofs.Pieces
import MakefileNav.Proofs.Slices
import MakefileNav.Usage

namespace MakefileNav

/-!
What is found on a line depends on the line and on its number.  So a document that goes on
behind a line feed keeps its results, and the results of the lines that come after them are
those of a scan that starts with a higher number.
-/

/-! ### Scans -/

section Scans

variable {α : Type} {scan : Nat → Text → List α}

@[simp] theorem scanLines_nil (first : Nat) : scanLines scan first [] = [] := rfl

theorem scanLines_cons (first : Nat) (line : Text) (rest : List Text) :
    scanLines scan first (line :: rest) = scan first line ++ scanLines scan (first + 1) rest :=
  rfl

theorem scanLines_append (first : Nat) (left right : List Text) :
    scanLines scan first (left ++ right) =
      scanLines scan first left ++ scanLines scan (first + left.length) right := by
  unfold scanLines
  rw [List.zipIdx_append, List.flatMap_append]

/-- A scan of all lines goes through those before a line, through the line, and through those
behind it. -/
theorem scanLines_split {lines : List Text} {number : Nat} {line : Text}
    (found : lines[number]? = some line) :
    scanLines scan 0 lines =
      scanLines scan 0 (lines.take number) ++
        (scan number line ++ scanLines scan (number + 1) (lines.drop (number + 1))) := by
  obtain ⟨inside, atNumber⟩ := List.getElem?_eq_some_iff.mp found
  have split : lines = lines.take number ++ line :: lines.drop (number + 1) := by
    rw [← atNumber, ← List.drop_eq_getElem_cons inside, List.take_append_drop]
  have length : (lines.take number).length = number :=
    List.length_take_of_le (Nat.le_of_lt inside)
  calc scanLines scan 0 lines
      = scanLines scan 0 (lines.take number ++ line :: lines.drop (number + 1)) := by rw [← split]
    _ = _ := by rw [scanLines_append, scanLines_cons, length, Nat.zero_add]

/-- The results of a scan are related in their order if those of every line are, and if those
of a line are related to those of every later line. -/
theorem scanLines_pairwise {R : α → α → Prop} {lines : List Text}
    (within : ∀ number line, lines[number]? = some line → (scan number line).Pairwise R)
    (across : ∀ number line number' line', lines[number]? = some line →
      lines[number']? = some line' → number < number' →
      ∀ result ∈ scan number line, ∀ result' ∈ scan number' line', R result result') :
    (scanLines scan 0 lines).Pairwise R := by
  unfold scanLines
  rw [List.pairwise_flatMap]
  constructor
  · intro indexed member
    exact within indexed.2 indexed.1 (List.mk_mem_zipIdx_iff_getElem?.mp member)
  · rw [List.pairwise_iff_getElem]
    intro number number' inside inside' before
    simp only [List.getElem_zipIdx, Nat.zero_add]
    simp only [List.length_zipIdx] at inside inside'
    exact across number _ number' _ (List.getElem?_eq_getElem inside)
      (List.getElem?_eq_getElem inside') before

/-- If each result names its line, those that name a line of the document are what the scan of
this line gives. -/
theorem filter_scanLines {lineOf : α → Nat} {lines : List Text} {number : Nat} {line : Text}
    (keyed : ∀ number line, lines[number]? = some line →
      ∀ result ∈ scan number line, lineOf result = number)
    (found : lines[number]? = some line) :
    (scanLines scan 0 lines).filter (fun result => lineOf result = number) = scan number line := by
  have earlier : (scanLines scan 0 (lines.take number)).filter
      (fun result => lineOf result = number) = [] := by
    rw [List.filter_eq_nil_iff]
    intro result scanned
    obtain ⟨index, other, onLine, member⟩ := mem_scanLines.mp scanned
    rw [List.getElem?_take, Option.ite_none_right_eq_some] at onLine
    have key := keyed index other onLine.2 result member
    simpa [key] using Nat.ne_of_lt onLine.1
  have later : (scanLines scan (number + 1) (lines.drop (number + 1))).filter
      (fun result => lineOf result = number) = [] := by
    rw [List.filter_eq_nil_iff]
    intro result scanned
    obtain ⟨index, other, onLine, member⟩ := mem_scanLines_from.mp scanned
    rw [List.getElem?_drop] at onLine
    have key := keyed _ other onLine result member
    rw [key, decide_eq_true_eq]
    omega
  have here : (scan number line).filter (fun result => lineOf result = number) =
      scan number line := by
    rw [List.filter_eq_self]
    intro result member
    exact decide_eq_true (keyed number line found result member)
  rw [scanLines_split found, List.filter_append, List.filter_append, earlier, later, here,
    List.nil_append, List.append_nil]

end Scans

/-! ### Declarations and usages -/

theorem declarations_append (file : Path) (left right : Text) :
    declarations file (left ++ '\n' :: right) =
      declarations file left ++
        scanLines (Line.declarations file) left.lines.length right.lines := by
  unfold declarations
  rw [Text.lines_append, scanLines_append, Nat.zero_add]

theorem usages_append (file : Path) (left right name : Text) :
    usages file (left ++ '\n' :: right) name =
      usages file left name ++
        if name.isEmpty || Usage.isTooLong name then []
        else scanLines (Line.usages file name) left.lines.length right.lines := by
  unfold usages usagesOnLines
  rw [Text.lines_append, scanLines_append, Nat.zero_add]
  split
  · rfl
  · rfl

end MakefileNav
