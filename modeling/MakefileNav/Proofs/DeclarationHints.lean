/-
Module: MakefileNav.Proofs.DeclarationHints
Purpose: What is offered in place of a name that is not declared.
Main exports:
  SameLetter, Text.EqualUpToCase, closestSuggestion?_eq_some_iff, Text.lines_unlines,
  Failure.Hints, Failure.exists_reportLines, Failure.Hints.lines_eq, declarations_pairwise_line,
  Command.undeclared_of_symbolNotFound, missing_name_hints
-/
import MakefileNav.Proofs.CursorAnswers
import MakefileNav.Proofs.LineLocality
import MakefileNav.Proofs.MissingDeclarations
import Mathlib.Data.List.Forall2

namespace MakefileNav

/-!
A report of a missing name ends with hints, which are made from the declarations of the file.
That the missing name is not offered in its own place is not seen to by the hints: a name is
equal to itself up to case.  It follows from the search before, which has gone through the same
declarations without finding it.
-/

/-! ### Equality up to case -/

/-- Two characters are equal, or they are the capital and the small form of one of the 26
letters. -/
def SameLetter (c d : Char) : Prop :=
  c = d ∨ ∃ letter < 26, (c.toNat = 65 + letter ∧ d.toNat = 97 + letter) ∨
    (c.toNat = 97 + letter ∧ d.toNat = 65 + letter)

theorem toNat_toLower (c : Char) :
    c.toLower.toNat = if 65 ≤ c.toNat ∧ c.toNat ≤ 90 then c.toNat + 32 else c.toNat := by
  have capital : (c.val ≥ 'A'.val ∧ c.val ≤ 'Z'.val) ↔ 65 ≤ c.toNat ∧ c.toNat ≤ 90 := by
    simp only [ge_iff_le, UInt32.le_iff_toNat_le]
    rfl
  unfold Char.toLower
  by_cases isCapital : 65 ≤ c.toNat ∧ c.toNat ≤ 90
  · rw [dif_pos (capital.mpr isCapital), if_pos isCapital]
    change (c.val + 32).toNat = c.val.toNat + 32
    have small : c.val.toNat ≤ 90 := isCapital.2
    rw [UInt32.toNat_add]
    exact Nat.mod_eq_of_lt (by simp; omega)
  · rw [dif_neg (mt capital.mp isCapital), if_neg isCapital]

theorem toLower_eq_iff {c d : Char} : c.toLower = d.toLower ↔ SameLetter c d := by
  rw [← Char.toNat_inj, toNat_toLower, toNat_toLower, SameLetter, ← Char.toNat_inj]
  constructor
  · intro same
    by_cases equal : c.toNat = d.toNat
    · exact Or.inl equal
    · right
      split at same
      · refine ⟨c.toNat - 65, by omega, Or.inl ?_⟩
        split at same <;> omega
      · refine ⟨d.toNat - 65, by split at same <;> omega, Or.inr ?_⟩
        split at same <;> omega
  · rintro (equal | ⟨letter, inside, ⟨capital, small⟩ | ⟨small, capital⟩⟩)
    · rw [equal]
    · rw [if_pos (by omega), if_neg (by omega)]
      omega
    · rw [if_neg (by omega), if_pos (by omega)]
      omega

/-- Two texts differ at most in the case of their letters. -/
def Text.EqualUpToCase (left right : Text) : Prop :=
  List.Forall₂ SameLetter left right

theorem Text.map_toLower_eq_iff {left right : Text} :
    left.map Char.toLower = right.map Char.toLower ↔ left.EqualUpToCase right := by
  rw [← List.forall₂_eq_eq_eq, List.forall₂_map_left_iff, List.forall₂_map_right_iff]
  simp only [toLower_eq_iff]
  rfl

/-- The suggestion is the first of the names that is equal up to case. -/
theorem closestSuggestion?_eq_some_iff {symbol name : Text} {declared : List Text} :
    closestSuggestion? symbol declared = some name ↔
      ∃ before after, declared = before ++ name :: after ∧ name.EqualUpToCase symbol ∧
        ∀ other ∈ before, ¬other.EqualUpToCase symbol := by
  simp only [closestSuggestion?, List.find?_eq_some_iff_append, beq_iff_eq,
    Text.map_toLower_eq_iff, Bool.not_eq_true', beq_eq_false_iff_ne, ne_eq]
  constructor
  · rintro ⟨equal, before, after, split, others⟩
    exact ⟨before, after, split, equal, others⟩
  · rintro ⟨before, after, split, equal, others⟩
    exact ⟨equal, before, after, split, others⟩

theorem closestSuggestion?_eq_none_iff {symbol : Text} {declared : List Text} :
    closestSuggestion? symbol declared = none ↔
      ∀ name ∈ declared, ¬name.EqualUpToCase symbol := by
  simp only [closestSuggestion?, List.find?_eq_none, beq_iff_eq, Text.map_toLower_eq_iff]

/-! ### The lines of a report -/

namespace Text

/-- The text is a line: it has no line feed, and no carriage return that would belong to a line
ending. -/
def IsLine (text : Text) : Prop :=
  '\n' ∉ text ∧ text.getLast? ≠ some '\r'

theorem isLine_concat (pieces : List Text) {last : Text}
    (unbroken : ∀ piece ∈ pieces, '\n' ∉ piece) (isLine : last.IsLine) (nonempty : last ≠ []) :
    (concat (pieces ++ [last])).IsLine := by
  have whole : concat (pieces ++ [last]) = pieces.flatten ++ last := by simp [concat]
  rw [whole]
  constructor
  · rw [List.mem_append, List.mem_flatten]
    rintro (⟨piece, member, lineFeed⟩ | lineFeed)
    · exact unbroken piece member lineFeed
    · exact isLine.1 lineFeed
  · rw [List.getLast?_append_of_ne_nil _ nonempty]
    exact isLine.2

/-- Lines that are put together can be told apart again. -/
theorem lines_unlines {lines : List Text} (single : ∀ line ∈ lines, line.IsLine) :
    (unlines lines).lines = lines ++ [[]] := by
  induction lines with
  | nil => rfl
  | cons line rest ih =>
      obtain ⟨⟨unbroken, plain⟩, others⟩ := List.forall_mem_cons.mp single
      have joined : unlines (line :: rest) = line ++ '\n' :: unlines rest := by simp [unlines]
      rw [joined, lines_append, lines_of_not_mem unbroken plain, ih others]
      rfl

theorem lineFeed_not_mem_of_mem_lines {text line : Text} (member : line ∈ text.lines) :
    '\n' ∉ line := by
  obtain ⟨piece, listed, rfl⟩ := List.mem_map.mp member
  intro lineFeed
  apply not_mem_of_mem_splitOn listed
  unfold dropCarriageReturn at lineFeed
  split at lineFeed
  · exact List.dropLast_subset _ lineFeed
  · exact lineFeed

end Text

namespace Failure

/-- The line that tells which name is missing, and where it has been looked for. -/
def missingLine (file : Path) (symbol : Text) : Text :=
  Text.concat ["`", symbol, "` is not declared in `", file.text,
    "` or any other Makefile in the workspace."]

/-- The line that proposes another name. -/
def proposal (name : Text) : Text :=
  Text.concat ["## Did you mean `", name, "`?"]

/-- The lines of the hints about a missing name, by the names that are declared. -/
inductive Hints (symbol : Text) : List Text → List Text → Prop where
  /-- The first declared name that is equal up to case is proposed, and nothing else. -/
  | proposed {before : List Text} {name : Text} {after : List Text} (different : name ≠ symbol)
      (equal : name.EqualUpToCase symbol)
      (first : ∀ other ∈ before, ¬other.EqualUpToCase symbol) :
      Hints symbol (before ++ name :: after) [[], proposal name]
  /-- If there is none, then all declared names are listed. -/
  | listed {declared : List Text} (nonempty : declared ≠ [])
      (noneEqual : ∀ name ∈ declared, ¬name.EqualUpToCase symbol) :
      Hints symbol declared
        ([] :: ("## Declared in this file" : Text) :: [] ::
          declared.map fun name => Text.concat ["- `", name, "`"])
  /-- Where nothing is declared, there are no hints. -/
  | nothing : Hints symbol [] []

variable {file : Path} {symbol : Text} {declared : List Text}

theorem exists_hints (undeclared : symbol ∉ declared) :
    ∃ hints, Hints symbol declared hints ∧
      suggestionSection symbol declared = Text.unlines hints := by
  unfold suggestionSection
  cases closest : closestSuggestion? symbol declared with
  | some name =>
      obtain ⟨before, after, rfl, equal, first⟩ := closestSuggestion?_eq_some_iff.mp closest
      have different : name ≠ symbol := by
        rintro rfl
        exact undeclared List.mem_append_cons_self
      refine ⟨_, .proposed different equal first, ?_⟩
      simp [Text.unlines, proposal, Text.concat]
  | none =>
      have noneEqual := closestSuggestion?_eq_none_iff.mp closest
      cases declared with
      | nil => exact ⟨[], .nothing, rfl⟩
      | cons name rest =>
          refine ⟨_, .listed (List.cons_ne_nil name rest) noneEqual, ?_⟩
          simp [Text.unlines, Text.concat, List.flatMap_map]

/-- The lines of a report of a missing name. -/
def reportLines (file : Path) (symbol : Text) (hints : List Text) : List Text :=
  ("# Error: Symbol Not Found" : Text) :: [] :: missingLine file symbol :: hints

/-- A report of a missing name consists of lines, of which the hints come last. -/
theorem exists_reportLines (file : Path) (undeclared : symbol ∉ declared) :
    ∃ hints, Hints symbol declared hints ∧
      (symbolNotFound file declared symbol).rendered =
        Text.unlines (reportLines file symbol hints) := by
  obtain ⟨hints, isHints, ofSection⟩ := exists_hints undeclared
  refine ⟨hints, isHints, ?_⟩
  simp [rendered, ofSection, reportLines, Text.unlines, missingLine, Text.concat]

/-- Only hints propose other names. -/
private theorem not_proposes {hints : List Text}
    (others : ∀ line ∈ hints, ¬("## Did you mean " : Text) <+: line) :
    ¬∃ line ∈ reportLines file symbol hints, ("## Did you mean " : Text) <+: line := by
  have opening : ∀ line ∈ [("# Error: Symbol Not Found" : Text), [], missingLine file symbol],
      ¬("## Did you mean " : Text) <+: line := by
    simp [missingLine, Text.concat]
  rintro ⟨line, member, starts⟩
  rcases List.mem_append.mp (show line ∈ [_, _, _] ++ hints from member) with first | hint
  · exact opening line first starts
  · exact others line hint starts

/-- A line of the report proposes another name exactly if a declared name is equal up to case. -/
theorem Hints.proposes_iff {hints : List Text} (isHints : Hints symbol declared hints)
    (file : Path) :
    (∃ line ∈ reportLines file symbol hints, ("## Did you mean " : Text) <+: line) ↔
      ∃ name ∈ declared, name.EqualUpToCase symbol := by
  cases isHints with
  | @proposed before name after _ equal _ =>
      refine iff_of_true ⟨proposal name, by simp [reportLines], ?_⟩ ⟨name, by simp, equal⟩
      simp [proposal, Text.concat]
  | listed _ noneEqual =>
      refine iff_of_false (not_proposes ?_) (by simpa using noneEqual)
      simp [Text.concat]
  | nothing => exact iff_of_false (not_proposes (List.forall_mem_nil _)) (by simp)

theorem isLine_missingLine (unbroken : '\n' ∉ symbol) (path : '\n' ∉ file.text) :
    (missingLine file symbol).IsLine := by
  refine Text.isLine_concat [_, symbol, _, file.text] ?_ ?_ ?_
  · simp [unbroken, path]
  · exact ⟨by decide, by decide⟩
  · decide

/-- Names without line feeds make hints that are lines. -/
theorem Hints.isLine {hints : List Text} (isHints : Hints symbol declared hints)
    (unbroken : ∀ name ∈ declared, '\n' ∉ name) : ∀ line ∈ hints, line.IsLine := by
  have empty : Text.IsLine [] := ⟨List.not_mem_nil, by decide⟩
  cases isHints with
  | @proposed before name after _ _ _ =>
      have plain : '\n' ∉ name := unbroken name List.mem_append_cons_self
      have single : (proposal name).IsLine := by
        refine Text.isLine_concat [_, name] ?_ ⟨by decide, by decide⟩ (by decide)
        simp [plain]
      exact List.forall_mem_cons.mpr ⟨empty, List.forall_mem_singleton.mpr single⟩
  | listed _ _ =>
      have title : Text.IsLine ("## Declared in this file" : Text) := ⟨by decide, by decide⟩
      have items : ∀ line ∈ declared.map (fun name => Text.concat ["- `", name, "`"]),
          line.IsLine := by
        intro line member
        obtain ⟨name, declares, rfl⟩ := List.mem_map.mp member
        refine Text.isLine_concat [_, name] ?_ ⟨by decide, by decide⟩ (by decide)
        simp [unbroken name declares]
      exact List.forall_mem_cons.mpr ⟨empty, List.forall_mem_cons.mpr ⟨title,
        List.forall_mem_cons.mpr ⟨empty, items⟩⟩⟩
  | nothing => exact List.forall_mem_nil _

/-- Where names and the path have no line feeds, the lines of the report are those of the text. -/
theorem Hints.lines_eq {hints : List Text} (isHints : Hints symbol declared hints)
    (names : ∀ name ∈ declared, '\n' ∉ name) (unbroken : '\n' ∉ symbol)
    (path : '\n' ∉ file.text) :
    (Text.unlines (reportLines file symbol hints)).lines =
      reportLines file symbol hints ++ [[]] := by
  apply Text.lines_unlines
  have title : Text.IsLine ("# Error: Symbol Not Found" : Text) := ⟨by decide, by decide⟩
  have empty : Text.IsLine [] := ⟨List.not_mem_nil, by decide⟩
  exact List.forall_mem_cons.mpr ⟨title, List.forall_mem_cons.mpr ⟨empty,
    List.forall_mem_cons.mpr ⟨isLine_missingLine unbroken path, isHints.isLine names⟩⟩⟩

end Failure

/-! ### Missing names -/

/-- A cursor is answered with a part of its line. -/
theorem lineFeed_not_mem_of_nameAt? {text name : Text} {place : Position}
    (answered : nameAt? text place = some name) : '\n' ∉ name := by
  cases found : text.lines[place.line]? with
  | none =>
      simp only [nameAt?, found] at answered
      cases answered
  | some line =>
      have snaps := Text.snapsTo_snap line place.character
      rw [nameAt?_of_snapsTo found snaps] at answered
      obtain ⟨_, start, stop, sliced, _, _⟩ := Cursor.exists_slice_of_nameOnLine? snaps.1.1 answered
      obtain ⟨before, after, split, _, _⟩ := Text.slice?_eq_some_iff.mp sliced
      have unbroken := Text.lineFeed_not_mem_of_mem_lines (List.mem_of_getElem? found)
      intro lineFeed
      apply unbroken
      rw [split]
      exact List.mem_append_left _ (List.mem_append_right _ lineFeed)

/-- Declarations are listed in the order of their lines. -/
theorem declarations_pairwise_line (file : Path) (text : Text) :
    (declarations file text).Pairwise fun left right =>
      left.range.start.line ≤ right.range.start.line := by
  have onLine : ∀ number line, ∀ symbol ∈ Line.declarations file number line,
      symbol.range.start.line = Position.clamp number := by
    intro number line symbol declared
    obtain ⟨_, _, rfl⟩ := List.mem_map.mp declared
    rfl
  apply scanLines_pairwise
  · intro number line _
    apply List.pairwise_of_forall_mem_list
    intro left leftDeclared right rightDeclared
    rw [onLine number line left leftDeclared, onLine number line right rightDeclared]
  · intro number line number' line' _ _ before left leftDeclared right rightDeclared
    rw [onLine number line left leftDeclared, onLine number' line' right rightDeclared]
    unfold Position.clamp
    omega

namespace Command

variable {disk : Disk} {root file : Path} {format : Format} {spot : Spot} {declared : List Text}
  {symbol : Text}

/-- Whichever command reports a name missing, it has found the name at its spot and none of the
declarations of its file is one of the name. -/
theorem undeclared_of_symbolNotFound
    (failed : (run disk root format (.definition spot)).start.1 =
          .error (.symbolNotFound file declared symbol) ∨
        (run disk root format (.hover spot)).start.1 =
          .error (.symbolNotFound file declared symbol)) :
    spot.file = file ∧ ∃ text, disk.read spot.file = .ok text ∧
      nameAt? text spot.place = some symbol ∧
      (declarations spot.file text).map Symbol.name = declared ∧ symbol ∉ declared := by
  have missing {text : Text} (undeclares : ¬text.Declares symbol)
      (names : (declarations spot.file text).map Symbol.name = declared) : symbol ∉ declared := by
    rw [← names]
    simpa [Text.declares_iff spot.file] using undeclares
  rcases failed with failed | failed
  · obtain ⟨sameFile, text, _, reading, named, names, _, undeclares, _⟩ :=
      definition_symbolNotFound_iff.mp failed
    exact ⟨sameFile, text, reading, named, names, missing undeclares names⟩
  · obtain ⟨sameFile, text, reading, named, names, undeclares⟩ :=
      hover_symbolNotFound_iff.mp failed
    exact ⟨sameFile, text, reading, named, names, missing undeclares names⟩

end Command

/-- What is offered in place of a missing name.  Whichever command reports the name missing, the
report has the names that its file declares, in the order of their lines, and the missing name
is not among them.  The text of the report proposes the first of these that is equal up to case,
if there is one, and then nothing else.  Otherwise it lists all of them, once for every
declaration.  Names and symbols never have line feeds, and so the lines of the text are those
that it is put together from, unless the path has one. -/
theorem missing_name_hints {disk : Disk} {root file : Path} {format : Format} {spot : Spot}
    {declared : List Text} {symbol : Text}
    (failed : (Command.run disk root format (.definition spot)).start.1 =
          .error (.symbolNotFound file declared symbol) ∨
        (Command.run disk root format (.hover spot)).start.1 =
          .error (.symbolNotFound file declared symbol)) :
    ∃ text hints, spot.file = file ∧ disk.read file = .ok text ∧
      nameAt? text spot.place = some symbol ∧
      declared = (declarations file text).map Symbol.name ∧
      ((declarations file text).Pairwise fun left right =>
        left.range.start.line ≤ right.range.start.line) ∧
      symbol ∉ declared ∧
      Failure.Hints symbol declared hints ∧
      (Failure.symbolNotFound file declared symbol).rendered =
        Text.unlines (Failure.reportLines file symbol hints) ∧
      ((∃ line ∈ Failure.reportLines file symbol hints, ("## Did you mean " : Text) <+: line) ↔
        ∃ name ∈ declared, name.EqualUpToCase symbol) ∧
      ('\n' ∉ file.text → (Failure.symbolNotFound file declared symbol).rendered.lines =
        Failure.reportLines file symbol hints ++ [[]]) := by
  obtain ⟨rfl, text, reading, named, rfl, undeclared⟩ :=
    Command.undeclared_of_symbolNotFound failed
  obtain ⟨hints, isHints, rendered⟩ := Failure.exists_reportLines spot.file undeclared
  have unbroken : ∀ name ∈ (declarations spot.file text).map Symbol.name, '\n' ∉ name := by
    intro name declares
    obtain ⟨declaration, member, rfl⟩ := List.mem_map.mp declares
    exact Text.not_mem_of_accepted (isTargetName_of_mem_declarations member).isTargetChar rfl
  refine ⟨text, hints, rfl, reading, named, rfl, declarations_pairwise_line spot.file text,
    undeclared, isHints, rendered, isHints.proposes_iff spot.file, ?_⟩
  intro path
  rw [rendered]
  exact isHints.lines_eq unbroken (lineFeed_not_mem_of_nameAt? named) path

/-- A name that is declared in capitals, for a description, and a name that nothing is equal to,
for the search for definitions. -/
theorem missing_name_hints_other_case :
    let file : Path := ⟨("Makefile" : Text)⟩
    let disk : Disk := ⟨.directory [(file.text, .file "CC=\nx:cc\ny:b".toUTF8)], []⟩
    let declared : List Text := [("CC" : Text), ("x" : Text), ("y" : Text)]
    let proposing : Failure := .symbolNotFound file declared ("cc" : Text)
    let listing : Failure := .symbolNotFound file declared ("b" : Text)
    ((Command.run disk ⟨['n']⟩ .text (.hover ⟨file, ⟨1, 2⟩⟩)).start.1 = .error proposing ∧
        ("cc" : Text) ∉ declared ∧
        (∃ hints, Failure.Hints ("cc" : Text) declared hints ∧
          proposing.rendered.lines = Failure.reportLines file ("cc" : Text) hints ++ [[]]) ∧
        proposing.rendered.lines.drop 3 = [[], ("## Did you mean `CC`?" : Text), []]) ∧
      (Command.run disk ⟨['n']⟩ .text (.definition ⟨file, ⟨2, 2⟩⟩)).start.1 = .error listing ∧
        ("b" : Text) ∉ declared ∧
        (∃ hints, Failure.Hints ("b" : Text) declared hints ∧
          listing.rendered.lines = Failure.reportLines file ("b" : Text) hints ++ [[]]) ∧
        listing.rendered.lines.drop 3 =
          [[], ("## Declared in this file" : Text), [], ("- `CC`" : Text), ("- `x`" : Text),
            ("- `y`" : Text), []] := by
  intro file disk declared proposing listing
  have path : '\n' ∉ file.text := by decide
  have undescribed : (Command.run disk ⟨['n']⟩ .text (.hover ⟨file, ⟨1, 2⟩⟩)).start.1 =
      .error proposing := by decide
  have undefined : (Command.run disk ⟨['n']⟩ .text (.definition ⟨file, ⟨2, 2⟩⟩)).start.1 =
      .error listing := by
    have nowhere : Workspace.discover ⟨disk, ⟨['n']⟩, {}⟩ = [] :=
      Workspace.discover_eq_of_files (by decide) .nil
    have undeclares : ¬Text.Declares ("CC=\nx:cc\ny:b" : Text) ("b" : Text) := by
      rw [Text.declares_iff file]
      decide
    refine Command.definition_symbolNotFound_iff.mpr
      ⟨rfl, _, {}, by decide, by decide, by decide, by decide, undeclares, ?_⟩
    intro other listed
    rw [nowhere] at listed
    cases listed
  obtain ⟨_, hints, _, _, _, _, _, undeclared, isHints, _, _, lines⟩ :=
    missing_name_hints (Or.inr undescribed)
  obtain ⟨_, hints', _, _, _, _, _, undeclared', isHints', _, _, lines'⟩ :=
    missing_name_hints (Or.inl undefined)
  exact ⟨⟨undescribed, undeclared, ⟨hints, isHints, lines path⟩, by decide +kernel⟩, undefined,
    undeclared', ⟨hints', isHints', lines' path⟩, by decide +kernel⟩

end MakefileNav
