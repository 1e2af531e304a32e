/-
Module: MakefileNav.Proofs.PathComponents
Purpose: What the spellings of one path have in common.
Main exports:
  Path.components_child, Path.Component.step?, Path.filter_steps, Path.startOf_eq,
  Path.same_iff, Path.order_eq_eq_iff, Path.order_eq_lt_of_notAfter, Path.eq_of_ordered
-/
import MakefileNav.Proofs.FileTrees
import MakefileNav.Proofs.Pieces
import Mathlib.Data.List.Sort

namespace MakefileNav

/-!
The components of a path are what is left of its text after slashes and dots that say
nothing.  They tell where the path starts and which names it goes through, so that two
spellings with the same components take the same steps, apart from dots.  The order of
paths is an order of components: two paths that are equal in it are spellings of one.
-/

namespace Path

/-! ### Components of a text -/

/-- Component of the first piece of a path text. -/
def leading? (first : Text) (rest : List Text) : Option Component :=
  if first = [] then (if rest = [] then none else some .root)
  else if first = ['.'] then some .current
  else component? first

theorem components_of_pieces {path : Path} {first : Text} {rest : List Text}
    (pieces : path.text.splitOn '/' = first :: rest) :
    path.components = (leading? first rest).toList ++ rest.filterMap component? := by
  simp only [components, segments, pieces, List.filterMap_cons, leading?]
  rw [List.filterMap_map]
  split <;> rename_i leading <;> rw [leading] <;> rfl

theorem components_slash {left first : Text} {rest : List Text}
    (pieces : left.splitOn '/' = first :: rest) (right : Text) :
    components ⟨left ++ '/' :: right⟩ =
      (leading? first (right :: rest)).toList ++ rest.filterMap component? ++
        (right.splitOn '/').filterMap component? := by
  have split : (left ++ '/' :: right).splitOn '/' = first :: (rest ++ right.splitOn '/') := by
    rw [List.splitOn_append_cons_self, pieces, List.cons_append]
  rw [components_of_pieces split, List.filterMap_append, List.append_assoc]
  simp [leading?, List.splitOn_ne_nil]

theorem component?_of_isEntryName {name : Text} (isName : Node.IsEntryName name) :
    component? name = some (.name name) := by
  obtain ⟨nonempty, notDot, notDots, _⟩ := isName
  simp [component?, nonempty, notDot, notDots]

/-- The path of an entry has one component more. -/
theorem components_child (directory : Path) {name : Text} (isName : Node.IsEntryName name) :
    (directory.child name).components = directory.components ++ [.name name] := by
  have component := component?_of_isEntryName isName
  obtain ⟨nonempty, notDot, _, noSlash, _⟩ := isName
  have pieces := List.splitOn_eq_singleton noSlash
  by_cases empty : directory.text = []
  · have named : directory.child name = ⟨name⟩ := by simp [child, empty]
    have none : directory.components = [] := by
      simp [components, segments, empty]
    have single : components ⟨name⟩ = _ := components_of_pieces pieces
    rw [named, none, single]
    simp [leading?, nonempty, notDot, component]
  · by_cases slash : directory.text.getLast? = some '/'
    · obtain ⟨left, text⟩ := List.getLast?_eq_some_iff.mp slash
      obtain ⟨first, rest, pieces'⟩ := List.exists_cons_of_ne_nil (List.splitOn_ne_nil '/' left)
      have named : directory.child name = ⟨left ++ '/' :: name⟩ := by simp [child, text]
      have whole : directory = ⟨left ++ '/' :: []⟩ := by rw [← text]
      rw [named, whole, components_slash pieces', components_slash pieces', pieces]
      have trailing : component? [] = none := rfl
      simp [leading?, component, trailing]
    · obtain ⟨first, rest, pieces'⟩ :=
        List.exists_cons_of_ne_nil (List.splitOn_ne_nil '/' directory.text)
      have named : directory.child name = ⟨directory.text ++ '/' :: name⟩ := by
        simp [child, slash, empty]
      have more : first = [] → rest ≠ [] := by
        rintro rfl
        exact Text.pieces_ne_nil empty pieces'
      rw [named, components_slash pieces', components_of_pieces pieces', pieces]
      by_cases start : first = []
      · simp [leading?, component, start, more start]
      · simp [leading?, component, start]

/-- The path of what names lead to has these names after its components. -/
theorem components_foldl_child (directory : Path) {names : List Text}
    (areNames : ∀ name ∈ names, Node.IsEntryName name) :
    (names.foldl child directory).components = directory.components ++ names.map .name := by
  induction names generalizing directory with
  | nil => simp
  | cons name rest ih =>
      obtain ⟨isName, areNames⟩ := List.forall_mem_cons.mp areNames
      rw [List.foldl_cons, ih _ areNames, components_child directory isName]
      simp

/-! ### Components and steps -/

/-- The step that a component takes, if it takes one. -/
def Component.step? : Component → Option Text
  | .root => none
  | .current => none
  | .parent => some ['.', '.']
  | .name entry => some entry

private theorem filter_pieces (pieces : List Text) :
    (pieces.filterMap component?).filterMap Component.step? =
      pieces.filter fun piece => piece ≠ [] ∧ piece ≠ ['.'] := by
  rw [List.filterMap_filterMap, ← List.filterMap_eq_filter]
  congr 1
  funext piece
  by_cases dots : piece = ['.', '.']
  · subst dots
    rfl
  · by_cases skipped : piece = [] ∨ piece = ['.']
    · rcases skipped with rfl | rfl <;> rfl
    · rw [not_or] at skipped
      simp [component?, Component.step?, dots, skipped, Option.guard]

/-- Apart from dots, a path takes the steps of its components. -/
theorem filter_steps (path : Path) :
    (Disk.steps path.text).filter (· ≠ ['.']) = path.components.filterMap Component.step? := by
  obtain ⟨first, rest, pieces⟩ :=
    List.exists_cons_of_ne_nil (List.splitOn_ne_nil '/' path.text)
  have leadingStep : (leading? first rest).toList.filterMap Component.step? =
      [first].filter fun piece => piece ≠ [] ∧ piece ≠ ['.'] := by
    rw [← filter_pieces]
    by_cases empty : first = []
    · subst empty
      by_cases last : rest = [] <;> simp [leading?, component?, last, Component.step?]
    · by_cases dot : first = ['.']
      · subst dot
        simp [leading?, component?, Component.step?]
      · simp only [leading?, empty, dot, if_false, List.filterMap_cons]
        cases component? first <;> rfl
  have names : (Disk.steps path.text).filter (· ≠ ['.']) =
      (first :: rest).filter fun piece => piece ≠ [] ∧ piece ≠ ['.'] := by
    simp only [Disk.steps, pieces]
    split <;> simp [List.filter_filter, Bool.and_comm]
  rw [names, components_of_pieces pieces, List.filterMap_append, leadingStep, filter_pieces,
    ← List.filter_append, List.singleton_append]

/-- A path starts at the root exactly if that is its first component. -/
theorem startOf_eq (directory : List Text) (path : Path) :
    Disk.startOf directory path.text =
      if path.components.head? = some .root then [] else directory := by
  obtain ⟨first, rest, pieces⟩ :=
    List.exists_cons_of_ne_nil (List.splitOn_ne_nil '/' path.text)
  have absolute : path.components.head? = some .root ↔ first = [] ∧ rest ≠ [] := by
    rw [components_of_pieces pieces]
    by_cases empty : first = []
    · by_cases last : rest = [] <;> simp [leading?, empty, last]
    · by_cases dot : first = ['.']
      · simp [leading?, dot]
      · by_cases dots : first = ['.', '.'] <;> simp [leading?, component?, empty, dot, dots]
  rw [Disk.startOf]
  simp only [Text.head?_eq_separator_iff pieces, absolute]

/-! ### Same paths and the order of paths -/

theorem same_iff {left right : Path} :
    left.same right = true ↔ left.components = right.components :=
  beq_iff_eq

theorem same_comm (left right : Path) : left.same right = right.same left :=
  Bool.beq_comm

theorem Component.key_injective : Function.Injective Component.key := by
  have characters : Function.Injective Char.toNat := fun _ _ => Char.toNat_inj.mp
  intro left right same
  cases left <;> cases right <;>
    simp_all [Component.key, (List.map_injective_iff.mpr characters).eq_iff]

/-- Paths that are equal in the order are the same path. -/
theorem order_eq_eq_iff {left right : Path} :
    order left right = .eq ↔ left.same right = true := by
  rw [order, Std.LawfulEqOrd.compare_eq_iff_eq, same_iff,
    (List.map_injective_iff.mpr Component.key_injective).eq_iff]

theorem notAfter_trans {first second third : Path} (le : first.notAfter second = true)
    (le' : second.notAfter third = true) : first.notAfter third = true := by
  unfold notAfter order at *
  exact Std.TransCmp.isLE_trans le le'

theorem order_swap (left right : Path) : order right left = (order left right).swap := by
  unfold order
  exact Std.OrientedCmp.eq_swap

theorem notAfter_total (left right : Path) :
    (left.notAfter right || right.notAfter left) = true := by
  simp only [notAfter, order_swap left right]
  cases order left right <;> rfl

theorem same_eq_false_of_lt {left right : Path} (less : order left right = .lt) :
    left.same right = false := by
  apply Bool.eq_false_iff.mpr
  intro same
  rw [order_eq_eq_iff.mpr same] at less
  cases less

theorem order_irrefl (path : Path) : order path path ≠ .lt := by
  intro less
  have different := same_eq_false_of_lt less
  rw [same_iff.mpr rfl] at different
  cases different

theorem order_asymm {left right : Path} (less : order left right = .lt) :
    order right left ≠ .lt := by
  rw [order_swap, less]
  decide

/-- Of two different paths the one that is not after the other is before it. -/
theorem order_eq_lt_of_notAfter {left right : Path} (le : left.notAfter right = true)
    (different : left.same right = false) : order left right = .lt := by
  rcases Ordering.isLE_iff_eq_lt_or_eq_eq.mp le with less | equal
  · exact less
  · rw [order_eq_eq_iff.mp equal] at different
    cases different

/-- What is listed in the order of its paths is known once the members of the list are. -/
theorem eq_of_ordered {α : Type} (path : α → Path) {left right : List α}
    (ordered : left.Pairwise fun earlier later => order (path earlier) (path later) = .lt)
    (ordered' : right.Pairwise fun earlier later => order (path earlier) (path later) = .lt)
    (same : ∀ listed, listed ∈ left ↔ listed ∈ right) : left = right := by
  let before : α → α → Prop := fun earlier later => order (path earlier) (path later) = .lt
  have : Std.Irrefl before := ⟨fun listed => order_irrefl (path listed)⟩
  have : Std.Antisymm before := ⟨fun _ _ less less' => absurd less' (order_asymm less)⟩
  have sorted : left.Pairwise before := ordered
  exact sorted.eq_of_mem_iff ordered' same

end Path

end MakefileNav
