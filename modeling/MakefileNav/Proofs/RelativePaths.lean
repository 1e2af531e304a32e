/-
Module: MakefileNav.Proofs.RelativePaths
Purpose: What is left of the path of a file after the directory that it lies below.
Main exports:
  Path.stem, Path.stem_foldl_child, Path.dropComponents_append, Path.shownFrom_foldl_child
-/
import MakefileNav.Proofs.PathComponents
import MakefileNav.Proofs.Slices

namespace MakefileNav

namespace Path

/-!
The path of a file is made by putting names behind a directory, and a reader is shown the path
without the directory.  What is shown are the names with slashes between them, whatever slashes
and dots the directory is written with.  Taking the directory away counts components and not
characters, so all that has to be seen is where the segments of the names begin.
-/

/-- What stands between two slashes of a path, and what it says. -/
abbrev Segment := Text × Option Component

/-! ### Segments of a path below a directory -/

/-- The segment that a name makes. -/
def nameSegment (name : Text) : Segment := (name, some (.name name))

/-- The segments of a directory that the paths of its entries begin with.  A slash at the end
makes an empty segment, which the name of an entry takes the place of. -/
def stem (path : Path) : List Segment :=
  if path.text.getLast? = some '/' then path.segments.dropLast else path.segments

theorem segments_of_pieces {path : Path} {first : Text} {rest : List Text}
    (pieces : path.text.splitOn '/' = first :: rest) :
    path.segments =
      (first, leading? first rest) :: rest.map fun segment => (segment, component? segment) := by
  simp only [segments, pieces, leading?]

/-- With text behind a slash, the pieces before the slash mean the same whatever the text is. -/
theorem segments_slash {left first : Text} {rest : List Text}
    (pieces : left.splitOn '/' = first :: rest) {right : Text} (noSlash : '/' ∉ right) :
    segments ⟨left ++ '/' :: right⟩ =
      (first, leading? first [right]) ::
        (rest.map (fun segment => (segment, component? segment)) ++ [(right, component? right)]) := by
  have split : (left ++ '/' :: right).splitOn '/' = first :: (rest ++ [right]) := by
    rw [List.splitOn_append_cons_self, pieces, List.splitOn_eq_singleton noSlash, List.cons_append]
  rw [segments_of_pieces split, List.map_append, List.map_singleton]
  simp [leading?]

/-- The path of an entry has one segment more than what the directory begins it with. -/
theorem segments_child {directory : Path} {name : Text} (nonempty : directory.text ≠ [])
    (isName : Node.IsEntryName name) :
    (directory.child name).segments = directory.stem ++ [nameSegment name] := by
  have component := component?_of_isEntryName isName
  obtain ⟨_, _, _, noSlash, _⟩ := isName
  by_cases slash : directory.text.getLast? = some '/'
  · obtain ⟨left, text⟩ := List.getLast?_eq_some_iff.mp slash
    obtain ⟨first, rest, pieces⟩ := List.exists_cons_of_ne_nil (List.splitOn_ne_nil '/' left)
    have named : directory.child name = ⟨left ++ '/' :: name⟩ := by simp [child, text]
    have whole : directory = ⟨left ++ '/' :: []⟩ := by rw [← text]
    rw [stem, if_pos slash, named, whole, segments_slash pieces noSlash,
      segments_slash pieces (by simp), component, ← List.cons_append, ← List.cons_append,
      List.dropLast_concat]
    rfl
  · obtain ⟨first, rest, pieces⟩ :=
      List.exists_cons_of_ne_nil (List.splitOn_ne_nil '/' directory.text)
    have named : directory.child name = ⟨directory.text ++ '/' :: name⟩ := by
      simp [child, slash, nonempty]
    have more : first = [] → rest ≠ [] := by
      rintro rfl
      exact Text.pieces_ne_nil nonempty pieces
    have leading : leading? first [name] = leading? first rest := by
      by_cases start : first = []
      · simp [leading?, start, more start]
      · simp [leading?, start]
    rw [stem, if_neg slash, named, segments_slash pieces noSlash, segments_of_pieces pieces,
      leading, component]
    rfl

theorem stem_child {directory : Path} {name : Text} (nonempty : directory.text ≠ [])
    (isName : Node.IsEntryName name) :
    (directory.child name).stem = directory.stem ++ [nameSegment name] := by
  have last : (directory.child name).text.getLast? = name.getLast? := by
    obtain ⟨c, others, rfl⟩ := List.exists_cons_of_ne_nil isName.1
    unfold child
    split
    · simp [List.getLast?_append, List.getLast?_cons]
    · simp [List.getLast?_append, List.getLast?_cons]
  have noSlash : (directory.child name).text.getLast? ≠ some '/' := by
    rw [last]
    intro slash
    exact isName.2.2.2.1 (List.mem_of_getLast? slash)
  rw [stem, if_neg noSlash, segments_child nonempty isName]

theorem text_child_ne_nil (directory : Path) {name : Text} (isName : Node.IsEntryName name) :
    (directory.child name).text ≠ [] := by
  unfold child
  split
  · simp [isName.1]
  · simp

/-- The path of what names lead to begins with the segments of the directory, and goes on with
one segment for each name. -/
theorem stem_foldl_child {directory : Path} {names : List Text} (nonempty : directory.text ≠ [])
    (areNames : ∀ name ∈ names, Node.IsEntryName name) :
    (names.foldl child directory).stem = directory.stem ++ names.map nameSegment := by
  induction names generalizing directory with
  | nil => simp
  | cons name rest ih =>
      obtain ⟨isName, areNames⟩ := List.forall_mem_cons.mp areNames
      rw [List.foldl_cons, ih (text_child_ne_nil directory isName) areNames,
        stem_child nonempty isName, List.map_cons, List.append_assoc, List.singleton_append]

/-- What is not part of the stem is no component. -/
theorem exists_segments_eq (path : Path) :
    ∃ trailing : List Segment, (∀ segment ∈ trailing, segment.2 = none) ∧
      path.segments = path.stem ++ trailing := by
  unfold stem
  by_cases slash : path.text.getLast? = some '/'
  · obtain ⟨left, text⟩ := List.getLast?_eq_some_iff.mp slash
    obtain ⟨first, rest, pieces⟩ := List.exists_cons_of_ne_nil (List.splitOn_ne_nil '/' left)
    have whole : path = ⟨left ++ '/' :: []⟩ := by rw [← text]
    refine ⟨[([], none)], by simp, ?_⟩
    rw [if_pos slash, whole, segments_slash pieces (by simp), ← List.cons_append,
      List.dropLast_concat]
    rfl
  · exact ⟨[], by simp, by rw [if_neg slash, List.append_nil]⟩

theorem filterMap_stem (path : Path) : path.stem.filterMap Prod.snd = path.components := by
  obtain ⟨trailing, isTrailing, split⟩ := path.exists_segments_eq
  have nothing : trailing.filterMap Prod.snd = [] := List.filterMap_eq_nil_iff.mpr isTrailing
  rw [components, split, List.filterMap_append, nothing, List.append_nil]

/-! ### Taking the directory away -/

/-- Segments with as many components as are dropped go, apart from segments at their end that
are no components. -/
theorem dropComponents_append (leading rest : List Segment) :
    ∃ trailing : List Segment, (∀ segment ∈ trailing, segment.2 = none) ∧
      dropComponents (leading.filterMap Prod.snd).length (leading ++ rest) = trailing ++ rest := by
  induction leading with
  | nil => exact ⟨[], by simp, by simp [dropComponents]⟩
  | cons segment leading ih =>
      obtain ⟨text, component⟩ := segment
      obtain ⟨trailing, isTrailing, dropped⟩ := ih
      cases component with
      | some component => exact ⟨trailing, isTrailing, dropped⟩
      | none =>
          rw [List.filterMap_cons_none rfl]
          cases counted : leading.filterMap Prod.snd with
          | nil =>
              refine ⟨(text, none) :: leading, ?_, rfl⟩
              rw [List.forall_mem_cons]
              exact ⟨rfl, List.filterMap_eq_nil_iff.mp counted⟩
          | cons first others =>
              rw [counted] at dropped
              exact ⟨trailing, isTrailing, dropped⟩

private theorem dropWhile_isNone {before rest : List Segment}
    (isBefore : ∀ segment ∈ before, segment.2 = none)
    (starts : ∀ segment ∈ rest.head?, segment.2.isNone = false) :
    (before ++ rest).dropWhile (·.2.isNone) = rest := by
  have dropped : ∀ segment ∈ before, segment.2.isNone = true := by
    intro segment member
    rw [isBefore segment member]
    rfl
  rw [List.dropWhile_append_of_pos dropped]
  cases rest with
  | nil => rfl
  | cons segment others =>
      rw [List.dropWhile_cons, if_neg]
      rw [starts segment rfl]
      decide

/-- Segments that are no components are cut off at both ends. -/
private theorem trim_segments {before kept after : List Segment}
    (isBefore : ∀ segment ∈ before, segment.2 = none)
    (areComponents : ∀ segment ∈ kept, segment.2.isNone = false)
    (isAfter : ∀ segment ∈ after, segment.2 = none) :
    (((before ++ (kept ++ after)).dropWhile (·.2.isNone)).reverse.dropWhile
      (·.2.isNone)).reverse = kept := by
  cases kept with
  | nil =>
      have isAround : ∀ segment ∈ before ++ after, segment.2 = none :=
        List.forall_mem_append.mpr ⟨isBefore, isAfter⟩
      have nothing : ∀ segment ∈ ([] : List Segment).head?, segment.2.isNone = false := by simp
      have cut := dropWhile_isNone isAround nothing
      rw [List.append_nil] at cut
      rw [List.nil_append, cut]
      rfl
  | cons first others =>
      have starts : ∀ segment ∈ (first :: others ++ after).head?, segment.2.isNone = false := by
        intro segment head
        cases head
        exact areComponents first List.mem_cons_self
      have ends : ∀ segment ∈ (first :: others).reverse.head?, segment.2.isNone = false := by
        intro segment last
        exact areComponents segment (List.mem_reverse.mp (List.mem_of_mem_head? last))
      have isAfterReversed : ∀ segment ∈ after.reverse, segment.2 = none := by
        intro segment member
        exact isAfter segment (List.mem_reverse.mp member)
      rw [dropWhile_isNone isBefore starts, List.reverse_append,
        dropWhile_isNone isAfterReversed ends, List.reverse_reverse]

/-- A text that is not empty says something. -/
theorem components_ne_nil {path : Path} (nonempty : path.text ≠ []) : path.components ≠ [] := by
  obtain ⟨first, rest, pieces⟩ :=
    List.exists_cons_of_ne_nil (List.splitOn_ne_nil '/' path.text)
  have more : first = [] → rest ≠ [] := by
    rintro rfl
    exact Text.pieces_ne_nil nonempty pieces
  rw [components_of_pieces pieces]
  by_cases start : first = []
  · simp [leading?, start, more start]
  · by_cases dot : first = ['.']
    · simp [leading?, dot]
    · by_cases dots : first = ['.', '.']
      · simp [leading?, dots, component?]
      · simp [leading?, component?, start, dot, dots]

theorem joinSegments_names (names : List Text) :
    joinSegments (names.map nameSegment) = List.intercalate ['/'] names := by
  have texts : (names.map nameSegment).map Prod.fst = names := by
    rw [List.map_map]
    exact List.map_id names
  unfold joinSegments
  split
  · rename_i text single
    obtain ⟨name, rfl, same⟩ := List.map_eq_singleton_iff.mp single
    cases same
  · rw [texts]

/-- What names lead to is shown by these names, to somebody who stands in the directory. -/
theorem shownFrom_foldl_child {directory : Path} {names : List Text}
    (nonempty : directory.text ≠ []) (areNames : ∀ name ∈ names, Node.IsEntryName name) :
    directory.shownFrom (names.foldl child directory) = ⟨List.intercalate ['/'] names⟩ := by
  have below : directory.componentsBelow? (names.foldl child directory) =
      some (names.map .name) := by
    unfold componentsBelow?
    rw [components_foldl_child directory areNames]
    exact List.isPrefixOf?_eq_some_iff_append_eq.mpr rfl
  obtain ⟨after, isAfter, split⟩ := (names.foldl child directory).exists_segments_eq
  rw [stem_foldl_child nonempty areNames, List.append_assoc] at split
  obtain ⟨before, isBefore, dropped⟩ :=
    dropComponents_append directory.stem (names.map nameSegment ++ after)
  rw [filterMap_stem, ← split] at dropped
  have counted : directory.components.length ≠ 0 := by
    intro zero
    exact components_ne_nil nonempty (List.length_eq_zero_iff.mp zero)
  have areComponents : ∀ segment ∈ names.map nameSegment, segment.2.isNone = false := by
    intro segment member
    obtain ⟨name, _, rfl⟩ := List.mem_map.mp member
    rfl
  simp only [shownFrom, relativeTo?, below, dropped, if_neg counted, Option.getD_some,
    trim_segments isBefore areComponents isAfter, joinSegments_names]

end Path

end MakefileNav
