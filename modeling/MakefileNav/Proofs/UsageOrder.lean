/-
Module: MakefileNav.Proofs.UsageOrder
Purpose: In which order the usages of a name are listed, and which of them are listed twice.
Main exports:
  Usage.entryOffsets, Usage.wordOffsets, Usage.outsideReferences_eq_append,
  Usage.IsEntryMatch, Usage.IsDependencyMatch, Usage.Apart, Usage.locate, Location.Precedes,
  Usage.LineOrder, Usage.lineOrder_usages, Usage.count_usages, filter_usages, usages_in_order
-/
import MakefileNav.Proofs.LineLocality
import MakefileNav.Proofs.UsageSites

namespace MakefileNav

/-!
A line is searched up to two times, for references and then for entries of a list or for whole
words.  Each search goes from left to right, and what it finds does not overlap, whatever
characters the name has.  So a place is listed twice only if two searches find it.  An entry has
white space or the colon directly before it where a reference has its parenthesis, which leaves
the references and the whole words to share a place.
-/

namespace Usage

/-! ### The three searches of a line -/

/-- Byte offsets that a search finds behind the first colon of a line. -/
def behindColon (search : Text → List Nat) (line : Text) : List Nat :=
  match Line.afterColon? line with
  | none => []
  | some rest => (search rest.text).map (rest.offset + ·)

/-- Byte offsets at which a line uses a name as an entry of its `.PHONY` list. -/
def entryOffsets (name line : Text) : List Nat :=
  if (∃ assigned, Line.ReadsAsAssignment assigned line.trim) ∨ ¬Line.ReadsAsPhonyList line.trim then
    []
  else behindColon (fun rest => inEntries name rest.words) line

/-- Byte offsets at which a line uses a name as a dependency. -/
def wordOffsets (name line : Text) : List Nat :=
  if (∃ assigned, Line.ReadsAsAssignment assigned line.trim) ∨ Line.ReadsAsPhonyList line.trim then
    []
  else behindColon (Text.wholeWordOccurrences name) line

variable {name line : Text} {offset : Nat}

/-- What is used outside of references is an entry or a dependency. -/
theorem outsideReferences_eq_append (name line : Text) :
    outsideReferences name line = entryOffsets name line ++ wordOffsets name line := by
  simp only [outsideReferences_eq, entryOffsets, wordOffsets, behindColon,
    ← Line.isAssignment_iff, ← Line.isSome_phonyList?_trim_iff]
  cases Line.isAssignment line with
  | true => rfl
  | false =>
      cases (Line.phonyList? line.trim).isSome with
      | true => cases Line.afterColon? line <;> simp
      | false => cases Line.afterColon? line <;> simp

/-- A line has entries or dependencies, never both. -/
theorem entryOffsets_eq_nil_or (name line : Text) :
    entryOffsets name line = [] ∨ wordOffsets name line = [] := by
  by_cases phony : Line.ReadsAsPhonyList line.trim
  · exact Or.inr (if_pos (Or.inr phony))
  · exact Or.inl (if_pos (Or.inr phony))

theorem mem_behindColon_iff {search : Text → List Nat} :
    offset ∈ behindColon search line ↔
      ∃ left rest place, ':' ∉ left ∧ line = left ++ ':' :: rest ∧ place ∈ search rest ∧
        offset = Text.byteLength left + 1 + place := by
  unfold behindColon
  constructor
  · intro found
    split at found
    · cases found
    · rename_i rest read
      obtain ⟨left, absent, split, bytes⟩ := Line.afterColon?_eq_some_iff.mp read
      obtain ⟨place, member, rfl⟩ := List.mem_map.mp found
      exact ⟨left, rest.text, place, absent, split, member, by rw [bytes]⟩
  · rintro ⟨left, rest, place, absent, split, member, rfl⟩
    have read : Line.afterColon? line = some ⟨Text.byteLength left + 1, rest⟩ :=
      Line.afterColon?_eq_some_iff.mpr ⟨left, absent, split, rfl⟩
    rw [read]
    exact List.mem_map_of_mem member

theorem mem_inEntries_iff {entries : List Token} :
    offset ∈ inEntries name entries ↔ ⟨offset, name⟩ ∈ entries := by
  simp only [inEntries, List.mem_map, List.mem_filter, decide_eq_true_eq]
  constructor
  · rintro ⟨entry, ⟨member, rfl⟩, rfl⟩
    exact member
  · intro member
    exact ⟨_, ⟨member, rfl⟩, rfl⟩

/-- The name is a word of the list of a `.PHONY` line that is no assignment. -/
def IsEntryMatch (name line : Text) (offset : Nat) : Prop :=
  (¬∃ assigned, Line.ReadsAsAssignment assigned line.trim) ∧ Line.ReadsAsPhonyList line.trim ∧
    ∃ left rest place, ':' ∉ left ∧ line = left ++ ':' :: rest ∧
      ⟨place, name⟩ ∈ Text.words rest ∧ offset = Text.byteLength left + 1 + place

/-- The name is a whole word behind the first colon of a line that is neither an assignment nor a
`.PHONY` list. -/
def IsDependencyMatch (name line : Text) (offset : Nat) : Prop :=
  (¬∃ assigned, Line.ReadsAsAssignment assigned line.trim) ∧ ¬Line.ReadsAsPhonyList line.trim ∧
    ∃ left rest place, ':' ∉ left ∧ line = left ++ ':' :: rest ∧
      place ∈ Text.wholeWordOccurrences name rest ∧ offset = Text.byteLength left + 1 + place

theorem mem_entryOffsets_iff :
    offset ∈ entryOffsets name line ↔ IsEntryMatch name line offset := by
  simp only [entryOffsets, IsEntryMatch, List.mem_ite_nil_left, not_or, not_not, and_assoc,
    mem_behindColon_iff, mem_inEntries_iff]

theorem mem_wordOffsets_iff :
    offset ∈ wordOffsets name line ↔ IsDependencyMatch name line offset := by
  simp only [wordOffsets, IsDependencyMatch, List.mem_ite_nil_left, not_or, and_assoc,
    mem_behindColon_iff]

/-- White space or a colon stands directly before an entry, and so no entry is in a reference. -/
theorem IsEntryMatch.not_mem_inReferences (entry : IsEntryMatch name line offset) :
    offset ∉ inReferences name line := by
  obtain ⟨_, _, left, rest, place, _, rfl, member, rfl⟩ := entry
  obtain ⟨passed, after, restEq, bytes, run⟩ := Text.mem_runs_iff.mp member
  have unopened : (left ++ ':' :: passed).getLast? ≠ some '(' := by
    intro opened
    rw [List.getLast?_append, List.getLast?_cons, Option.some_or, Option.some.injEq] at opened
    cases last : passed.getLast? with
    | none =>
        rw [last, Option.getD_none] at opened
        exact absurd opened (by decide)
    | some d =>
        rw [last, Option.getD_some] at opened
        exact absurd (run.begins d last) (opened ▸ by decide)
  have apart := @Usage.not_mem_inReferences _ name after unopened
  rw [Text.byteLength_append_colon, bytes] at apart
  simpa [restEq] using apart

/-! ### Each search goes from left to right -/

/-- The name, put at the offsets, does not overlap itself, and further offsets are larger. -/
def Apart (name : Text) (offsets : List Nat) : Prop :=
  offsets.Pairwise fun left right => left + Text.byteLength name ≤ right

theorem inReferences_apart (name line : Text) : Apart name (inReferences name line) := by
  have same : ∀ (before : Option Char) suffix width,
      (if startsWithReference name suffix then some (name.length + 3) else none) = some width →
        '$' :: '(' :: (name ++ [')']) <+: suffix ∧
          width = ('$' :: '(' :: (name ++ [')'])).length := by
    intro before suffix width matched
    obtain ⟨starts, widthEq⟩ := Option.ite_none_right_eq_some.mp matched
    obtain rfl := Option.some.inj widthEq
    obtain ⟨rest, rfl⟩ := startsWithReference_iff.mp starts
    exact ⟨⟨rest, by simp⟩, by simp⟩
  rw [Apart, inReferences, List.pairwise_map]
  apply (Text.scan_apart same line).imp
  intro left right ordered
  simp only [Text.byteLength_append, Text.byteLength_cons, Text.byteLength_nil,
    Text.utf8Size_dollar, Text.utf8Size_parenthesis] at ordered
  omega

theorem inEntries_apart (name text : Text) : Apart name (inEntries name text.words) := by
  rw [Apart, inEntries, List.pairwise_map, List.pairwise_filter]
  apply (Text.runs_pairwise (fun c => !isWhitespace c) text).imp
  intro left right ordered sameLeft _
  rw [Token.stop, of_decide_eq_true sameLeft] at ordered
  exact Nat.le_of_lt ordered

theorem wholeWordOccurrences_apart (name text : Text) :
    Apart name (Text.wholeWordOccurrences name text) := by
  have same : ∀ before suffix width,
      (if Text.wholeWordAt name before suffix then some name.length else none) = some width →
        name <+: suffix ∧ width = name.length := by
    intro before suffix width matched
    obtain ⟨whole, widthEq⟩ := Option.ite_none_right_eq_some.mp matched
    obtain rfl := Option.some.inj widthEq
    obtain ⟨rest, rfl, _, _⟩ := Text.wholeWordAt_iff.mp whole
    exact ⟨⟨rest, rfl⟩, rfl⟩
  exact Text.scan_apart same text

theorem behindColon_apart {search : Text → List Nat} (apart : ∀ rest, Apart name (search rest))
    (line : Text) : Apart name (behindColon search line) := by
  unfold behindColon
  split
  · exact List.Pairwise.nil
  · rename_i rest _
    rw [Apart, List.pairwise_map]
    apply (apart rest.text).imp
    intro left right ordered
    omega

theorem entryOffsets_apart (name line : Text) : Apart name (entryOffsets name line) := by
  unfold entryOffsets
  split
  · exact List.Pairwise.nil
  · exact behindColon_apart (inEntries_apart name) line

theorem wordOffsets_apart (name line : Text) : Apart name (wordOffsets name line) := by
  unfold wordOffsets
  split
  · exact List.Pairwise.nil
  · exact behindColon_apart (wholeWordOccurrences_apart name) line

theorem standsIn_of_mem_inReferences (found : offset ∈ inReferences name line) :
    Token.StandsIn ⟨offset, name⟩ line :=
  (refersAt_of_mem_inReferences found).standsIn

theorem standsIn_of_mem_entryOffsets (found : offset ∈ entryOffsets name line) :
    Token.StandsIn ⟨offset, name⟩ line := by
  apply standsIn_of_mem_outsideReferences
  rw [outsideReferences_eq_append]
  exact List.mem_append_left _ found

theorem standsIn_of_mem_wordOffsets (found : offset ∈ wordOffsets name line) :
    Token.StandsIn ⟨offset, name⟩ line := by
  apply standsIn_of_mem_outsideReferences
  rw [outsideReferences_eq_append]
  exact List.mem_append_right _ found

end Usage

/-! ### Locations -/

/-- The left location starts before the right one and does not reach into it. -/
def Location.Precedes (left right : Location) : Prop :=
  left.range.start.character < right.range.start.character ∧
    left.range.stop.character ≤ right.range.start.character

/-- Locations that precede one another are different. -/
theorem Location.nodup_of_pairwise_precedes {locations : List Location}
    (ordered : locations.Pairwise Location.Precedes) : locations.Nodup := by
  apply ordered.imp
  rintro left right ⟨before, _⟩ rfl
  exact Nat.lt_irrefl _ before

namespace Usage

/-- The location of a name at an offset of a line. -/
def locate (file : Path) (name : Text) (number offset : Nat) : Location :=
  ⟨file, .onLine number offset (offset + name.byteLength)⟩

section Located

variable {file : Path} {name line : Text} {number : Nat}

theorem line_locate (file : Path) (name : Text) (inLines : number < 2 ^ 32) (offset : Nat) :
    (locate file name number offset).range.start.line = number :=
  Position.clamp_of_lt inLines

/-- The three searches of a line, one behind the other. -/
theorem usages_eq_locate (file : Path) (name : Text) (number : Nat) (line : Text) :
    Line.usages file name number line =
      (inReferences name line).map (locate file name number) ++
        ((entryOffsets name line).map (locate file name number) ++
          (wordOffsets name line).map (locate file name number)) := by
  rw [Line.usages, Line.usageOffsets, outsideReferences_eq_append, List.map_append,
    List.map_append]
  rfl

variable (inLines : number < 2 ^ 32) (short : Text.byteLength line < 2 ^ 32)

include inLines short

theorem range_locate {offset : Nat} (stands : Token.StandsIn ⟨offset, name⟩ line) :
    (locate file name number offset).range =
      ⟨⟨number, offset⟩, ⟨number, offset + name.byteLength⟩⟩ :=
  stands.onLine_eq_of_lt inLines short

/-- Offsets that are apart are located one before the other. -/
theorem Apart.pairwise_precedes {offsets : List Nat} (apart : Apart name offsets)
    (nonempty : name ≠ []) (stand : ∀ offset ∈ offsets, Token.StandsIn ⟨offset, name⟩ line) :
    (offsets.map (locate file name number)).Pairwise Location.Precedes := by
  have positive := Text.byteLength_pos nonempty
  rw [List.pairwise_map]
  apply apart.imp_of_mem
  intro left right leftFound rightFound ordered
  rw [Location.Precedes, range_locate inLines short (stand left leftFound),
    range_locate inLines short (stand right rightFound)]
  exact ⟨by simp only; omega, ordered⟩

/-- A place of a line is located among others if and only if it is one of them. -/
theorem locate_mem_map_iff {offsets : List Nat} {offset : Nat}
    (stand : ∀ offset ∈ offsets, Token.StandsIn ⟨offset, name⟩ line)
    (stands : Token.StandsIn ⟨offset, name⟩ line) :
    locate file name number offset ∈ offsets.map (locate file name number) ↔
      offset ∈ offsets := by
  constructor
  · intro located
    obtain ⟨offset', member, same⟩ := List.mem_map.mp located
    have ranges := congrArg Location.range same
    rw [range_locate inLines short (stand offset' member), range_locate inLines short stands]
      at ranges
    obtain rfl : offset' = offset := congrArg (·.start.character) ranges
    exact member
  · exact List.mem_map_of_mem

end Located

/-! ### The usages on one line -/

/-- How the usages of a name on one line are listed. -/
structure LineOrder (file : Path) (name : Text) (number : Nat) (line : Text)
    (found : List Location) : Prop where
  /-- First come the references, then the entries and the dependencies. -/
  listed : found =
    (inReferences name line).map (locate file name number) ++
      ((entryOffsets name line).map (locate file name number) ++
        (wordOffsets name line).map (locate file name number))
  /-- A line has entries or dependencies, never both. -/
  either : entryOffsets name line = [] ∨ wordOffsets name line = []
  entry : ∀ offset, offset ∈ entryOffsets name line ↔ IsEntryMatch name line offset
  word : ∀ offset, offset ∈ wordOffsets name line ↔ IsDependencyMatch name line offset
  /-- In each group the locations go from left to right and do not overlap. -/
  references : ((inReferences name line).map (locate file name number)).Pairwise Location.Precedes
  entries : ((entryOffsets name line).map (locate file name number)).Pairwise Location.Precedes
  words : ((wordOffsets name line).map (locate file name number)).Pairwise Location.Precedes

theorem lineOrder_usages (file : Path) {name line : Text} {number : Nat} (nonempty : name ≠ [])
    (inLines : number < 2 ^ 32) (short : Text.byteLength line < 2 ^ 32) :
    LineOrder file name number line (Line.usages file name number line) where
  listed := usages_eq_locate file name number line
  either := entryOffsets_eq_nil_or name line
  entry _ := mem_entryOffsets_iff
  word _ := mem_wordOffsets_iff
  references := (inReferences_apart name line).pairwise_precedes inLines short nonempty
    fun _ => standsIn_of_mem_inReferences
  entries := (entryOffsets_apart name line).pairwise_precedes inLines short nonempty
    fun _ => standsIn_of_mem_entryOffsets
  words := (wordOffsets_apart name line).pairwise_precedes inLines short nonempty
    fun _ => standsIn_of_mem_wordOffsets

/-- A location is listed once for each of the groups that it is in. -/
theorem LineOrder.count_eq {file : Path} {name line : Text} {number : Nat}
    {found : List Location} (order : LineOrder file name number line found)
    (location : Location) :
    found.count location =
      (if location ∈ (inReferences name line).map (locate file name number) then 1 else 0) +
        ((if location ∈ (entryOffsets name line).map (locate file name number) then 1 else 0) +
          if location ∈ (wordOffsets name line).map (locate file name number) then 1 else 0) := by
  rw [order.listed, List.count_append, List.count_append,
    (Location.nodup_of_pairwise_precedes order.references).count,
    (Location.nodup_of_pairwise_precedes order.entries).count,
    (Location.nodup_of_pairwise_precedes order.words).count]

/-- A place is listed twice on its line if it is a reference and a dependency.  Nothing is listed
more often. -/
theorem count_usages {file : Path} {name line : Text} {number offset : Nat}
    (nonempty : name ≠ []) (inLines : number < 2 ^ 32) (short : Text.byteLength line < 2 ^ 32)
    (stands : Token.StandsIn ⟨offset, name⟩ line) :
    (Line.usages file name number line).count (locate file name number offset) ≤ 2 ∧
      ((Line.usages file name number line).count (locate file name number offset) = 2 ↔
        offset ∈ inReferences name line ∧ offset ∈ wordOffsets name line) := by
  have order := lineOrder_usages file nonempty inLines short
  have references := @locate_mem_map_iff file name line number inLines short
    (inReferences name line) offset (fun _ => standsIn_of_mem_inReferences) stands
  have entries := @locate_mem_map_iff file name line number inLines short
    (entryOffsets name line) offset (fun _ => standsIn_of_mem_entryOffsets) stands
  have words := @locate_mem_map_iff file name line number inLines short
    (wordOffsets name line) offset (fun _ => standsIn_of_mem_wordOffsets) stands
  rw [order.count_eq]
  simp only [references, entries, words]
  by_cases entry : offset ∈ entryOffsets name line
  · -- An entry is in no other group.
    have unreferenced := (mem_entryOffsets_iff.mp entry).not_mem_inReferences
    have noWord : offset ∉ wordOffsets name line := by
      rcases order.either with none | none
      · rw [none] at entry
        cases entry
      · rw [none]
        exact List.not_mem_nil
    simp [entry, unreferenced, noWord]
  · by_cases reference : offset ∈ inReferences name line
    · by_cases word : offset ∈ wordOffsets name line
      · simp [entry, reference, word]
      · simp [entry, reference, word]
    · by_cases word : offset ∈ wordOffsets name line
      · simp [entry, reference, word]
      · simp [entry, reference, word]

end Usage

/-! ### The usages of a document -/

section Document

variable {file : Path} {text name : Text} (few : text.lines.length ≤ 2 ^ 32)

include few

theorem Usage.number_lt {number : Nat} {line : Text}
    (found : text.lines[number]? = some line) : number < 2 ^ 32 :=
  Nat.lt_of_lt_of_le (List.getElem?_eq_some_iff.mp found).1 few

/-- A usage names its line. -/
theorem Usage.line_of_mem_usages {number : Nat} {line : Text}
    (found : text.lines[number]? = some line) :
    ∀ location ∈ Line.usages file name number line, location.range.start.line = number := by
  intro location member
  obtain ⟨offset, _, rfl⟩ := List.mem_map.mp member
  exact line_locate file name (number_lt few found) offset

/-- The usages that name a line are what is found on it. -/
theorem filter_usages (nonempty : name ≠ []) (searched : Usage.isTooLong name = false)
    {number : Nat} {line : Text} (found : text.lines[number]? = some line) :
    (usages file text name).filter (·.range.start.line = number) =
      Line.usages file name number line := by
  rw [usages_eq_scanLines nonempty searched]
  exact filter_scanLines (fun _ _ => Usage.line_of_mem_usages few) found

/-- All copies of a location are on the line that it names. -/
theorem count_usages_of_line (nonempty : name ≠ []) (searched : Usage.isTooLong name = false)
    {number : Nat} {line : Text} (found : text.lines[number]? = some line) (offset : Nat) :
    (usages file text name).count (Usage.locate file name number offset) =
      (Line.usages file name number line).count (Usage.locate file name number offset) := by
  have named := Usage.line_locate file name (Usage.number_lt few found) offset
  rw [← filter_usages few nonempty searched found]
  symm
  apply List.count_filter
  exact decide_eq_true named

theorem usages_pairwise_line (file : Path) (name : Text) :
    (usages file text name).Pairwise fun left right =>
      left.range.start.line ≤ right.range.start.line := by
  unfold usages usagesOnLines
  split
  · exact List.Pairwise.nil
  · apply scanLines_pairwise
    · intro number line found
      apply List.pairwise_of_forall_mem_list
      intro left leftFound right rightFound
      rw [Usage.line_of_mem_usages few found left leftFound,
        Usage.line_of_mem_usages few found right rightFound]
    · intro number line number' line' found found' before left leftFound right rightFound
      rw [Usage.line_of_mem_usages few found left leftFound,
        Usage.line_of_mem_usages few found' right rightFound]
      exact Nat.le_of_lt before

end Document

/-- The usages of a name are listed line by line.  On one line come the references first, and then
the entries of its list or the dependencies, each of these groups from left to right and without
overlaps.  So no usage is listed more than twice, and those that are listed twice are references
and dependencies at once.  The name can be any text that is not empty. -/
theorem usages_in_order (file : Path) {text name : Text} (few : text.lines.length ≤ 2 ^ 32)
    (short : ∀ line ∈ text.lines, Text.byteLength line < 2 ^ 32) (nonempty : name ≠ []) :
    ((usages file text name).Pairwise fun left right =>
      left.range.start.line ≤ right.range.start.line) ∧
      (Usage.isTooLong name = true → usages file text name = []) ∧
      (Usage.isTooLong name = false → ∀ number line, text.lines[number]? = some line →
        Usage.LineOrder file name number line
          ((usages file text name).filter (·.range.start.line = number))) ∧
      ∀ location, (usages file text name).count location ≤ 2 ∧
        ((usages file text name).count location = 2 ↔
          Usage.isTooLong name = false ∧ ∃ number line offset,
            text.lines[number]? = some line ∧ location = Usage.locate file name number offset ∧
            offset ∈ Usage.inReferences name line ∧
            Usage.IsDependencyMatch name line offset) := by
  refine ⟨usages_pairwise_line few file name, usages_of_isTooLong, ?_, ?_⟩
  · intro searched number line found
    rw [filter_usages few nonempty searched found]
    exact Usage.lineOrder_usages file nonempty (Usage.number_lt few found)
      (short line (List.mem_of_getElem? found))
  · intro location
    have onLine {number : Nat} {line : Text} {offset : Nat}
        (searched : Usage.isTooLong name = false) (found : text.lines[number]? = some line)
        (stands : Token.StandsIn ⟨offset, name⟩ line) :
        (usages file text name).count (Usage.locate file name number offset) ≤ 2 ∧
          ((usages file text name).count (Usage.locate file name number offset) = 2 ↔
            offset ∈ Usage.inReferences name line ∧ Usage.IsDependencyMatch name line offset) := by
      rw [count_usages_of_line few nonempty searched found, ← Usage.mem_wordOffsets_iff]
      exact Usage.count_usages nonempty (Usage.number_lt few found)
        (short line (List.mem_of_getElem? found)) stands
    refine ⟨?_, ?_, ?_⟩
    · by_cases listed : location ∈ usages file text name
      · obtain ⟨_, searched, number, line, offset, found, used, rfl⟩ := mem_usages_iff.mp listed
        exact (onLine searched found (Line.standsIn_of_mem_usageOffsets used)).1
      · rw [List.count_eq_zero_of_not_mem listed]
        exact Nat.zero_le 2
    · intro twice
      have listed : location ∈ usages file text name :=
        List.count_pos_iff.mp (by rw [twice]; exact Nat.two_pos)
      obtain ⟨_, searched, number, line, offset, found, used, rfl⟩ := mem_usages_iff.mp listed
      have stands := Line.standsIn_of_mem_usageOffsets used
      exact ⟨searched, number, line, offset, found, rfl, (onLine searched found stands).2.mp twice⟩
    · rintro ⟨searched, number, line, offset, found, rfl, both⟩
      exact (onLine searched found (Usage.standsIn_of_mem_inReferences both.1)).2.mpr both

/-- A name with white space in it, once as a dependency and once more in a reference. -/
theorem usages_in_order_twice :
    let file : Path := ⟨['M']⟩
    let name : Text := ['a', ' ', 'a']
    let line : Text := ['x', ':', 'a', ' ', 'a', ' ', 'a', '$', '(', 'a', ' ', 'a', ')']
    let text : Text := '\n' :: line
    let twice : Location := ⟨file, ⟨⟨1, 9⟩, ⟨1, 12⟩⟩⟩
    text.lines.length ≤ 2 ^ 32 ∧ (∀ line ∈ text.lines, Text.byteLength line < 2 ^ 32) ∧ name ≠ [] ∧
      ((usages file text name).Pairwise fun left right =>
        left.range.start.line ≤ right.range.start.line) ∧
      Usage.isTooLong name = false ∧ text.lines[1]? = some line ∧
      Usage.LineOrder file name 1 line
        ((usages file text name).filter (·.range.start.line = 1)) ∧
      9 ∈ Usage.inReferences name line ∧ Usage.IsDependencyMatch name line 9 ∧
      (usages file text name).count twice = 2 ∧
      usages file text name = [twice, ⟨file, ⟨⟨1, 2⟩, ⟨1, 5⟩⟩⟩, twice] := by
  intro file name line text twice
  have few : text.lines.length ≤ 2 ^ 32 := by decide
  have short : ∀ line ∈ text.lines, Text.byteLength line < 2 ^ 32 := by decide
  have nonempty : name ≠ [] := by decide
  have searched : Usage.isTooLong name = false := by decide
  have found : text.lines[1]? = some line := by decide
  have reference : 9 ∈ Usage.inReferences name line := by decide
  have dependency : Usage.IsDependencyMatch name line 9 :=
    Usage.mem_wordOffsets_iff.mp (by decide)
  obtain ⟨lines, _, order, multiplicity⟩ := usages_in_order file few short nonempty
  have count := (multiplicity twice).2.mpr
    ⟨searched, 1, line, 9, found, by decide, reference, dependency⟩
  exact ⟨few, short, nonempty, lines, searched, found, order searched 1 line found, reference,
    dependency, count, by decide⟩

end MakefileNav
