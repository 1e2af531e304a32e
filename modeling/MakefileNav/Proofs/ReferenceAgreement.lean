/-
Module: MakefileNav.Proofs.ReferenceAgreement
Purpose: In a reference the reader of a cursor and the scanner of usages mean the same
  name at the same place.
Main exports:
  Cursor.AnswersByReference, Cursor.AnswersByReference.exists_usage,
  nameAt?_of_refersAt, Usage.ThroughReference, cursor_and_usages_agree_on_references
-/
import MakefileNav.Proofs.CursorReading
import MakefileNav.Proofs.UsageSpecification

namespace MakefileNav

/-!
The reader of a cursor looks back for the last `$(` and forward for the first `)`.  The
scanner of usages goes through the line from left to right and never looks at a character
twice.  What the reader finds between the parentheses contains no `)`, and for such a
name the scanner misses no reference; so it reports the very reference that the cursor is
in.  In the other direction the name of a variable contains neither a `$` nor a `)`, so
that from any place in it the reader comes upon the parentheses of its own reference.
-/

/-! ### From the cursor to the usage -/

namespace Cursor

/-- The reader of a cursor answers with the reference around a column: the column touches a
word, and it lies between the parentheses of the reference. -/
def AnswersByReference (line : Text) (column : Nat) (name : Text) : Prop :=
  (wordAt? line column).isSome = true ∧ referenceAt? line column = some name

theorem AnswersByReference.nameOnLine? {line name : Text} {column : Nat}
    (answers : AnswersByReference line column name) : nameOnLine? line column = some name := by
  obtain ⟨touching, reference⟩ := answers
  obtain ⟨word, touched⟩ := Option.isSome_iff_exists.mp touching
  exact nameOnLine?_of_reference touched reference

/-- The name that is read around a cut is the name of a reference on both sides of it, and
has no closing parenthesis in it. -/
theorem refersAt_of_referenceAt? {before after name : Text}
    (reference : referenceAt? (before ++ after) (Text.byteLength before) = some name) :
    ')' ∉ name ∧ ∃ offset, Line.RefersAt (before ++ after) name offset ∧
      offset ≤ Text.byteLength before ∧
      Text.byteLength before ≤ offset + Text.byteLength name := by
  obtain ⟨inner, rest, isOpen, rfl, _⟩ := referenceAt?_eq_some_iff.mp reference
  obtain ⟨left, rfl⟩ := isOpen.opens
  obtain ⟨right, rfl⟩ := isOpen.closes
  refine ⟨?_, Text.byteLength left + 2, ⟨left, right, by simp, rfl⟩, ?_, ?_⟩
  · intro member
    rcases List.mem_append.mp member with member | member
    · exact isOpen.unclosed member
    · exact isOpen.first member
  · rw [Text.byteLength_append_opening]
    exact Nat.le_add_right _ _
  · rw [Text.byteLength_append_opening, Text.byteLength_append]
    omega

end Cursor

/-- A range on one line contains the columns between its ends. -/
theorem TextRange.contains_onLine {number start stop column : Nat}
    (line : number ≤ Position.limit) (small : column ≤ Position.limit)
    (notBefore : start ≤ column) (notAfter : column ≤ stop) :
    (onLine number start stop).contains ⟨number, column⟩ = true := by
  have lineEq : Position.clamp number = number := Nat.min_eq_left line
  have startLe : Position.clamp start ≤ column := Nat.le_trans (Position.clamp_le start) notBefore
  have leStop : column ≤ Position.clamp stop := Nat.le_min.mpr ⟨notAfter, small⟩
  simp [contains, onLine, Position.notAfter, Position.order, lineEq, startLe, leStop,
    Nat.isLE_compare]

/-- Among the usages of the name that is read around a cursor is the reference that the
cursor is in. -/
theorem Cursor.AnswersByReference.exists_usage (file : Path) {text line name : Text}
    {place : Position} (found : text.lines[place.line]? = some line)
    (answers : AnswersByReference line (line.snap place.character) name)
    (short : Usage.isTooLong name = false) :
    ∃ offset, Line.RefersAt line name offset ∧
      offset ≤ line.snap place.character ∧
      line.snap place.character ≤ offset + Text.byteLength name ∧
      ⟨file, .onLine place.line offset (offset + Text.byteLength name)⟩ ∈
        usages file text name := by
  obtain ⟨before, after, rfl, snapped⟩ := Text.exists_cut_at_snap line place.character
  rw [snapped] at answers ⊢
  obtain ⟨closed, offset, refers, notBefore, notAfter⟩ :=
    refersAt_of_referenceAt? answers.2
  obtain ⟨_, _, _, _, filled⟩ := referenceAt?_eq_some_iff.mp answers.2
  have used : offset ∈ Line.usageOffsets name (before ++ after) :=
    List.mem_append_left _ ((Usage.mem_inReferences_iff closed).mpr refers)
  refine ⟨offset, refers, notBefore, notAfter, ?_⟩
  exact mem_usages_iff.mpr
    ⟨filled, short, place.line, before ++ after, offset, found, used, rfl⟩

/-! ### From the usage to the cursor -/

theorem Line.IsVariableName.isWordChar {name : Text} (isName : IsVariableName name) :
    ∀ c ∈ name, Cursor.isWordChar c = true := by
  have plain : '%' ∉ name := Text.not_mem_of_accepted isName.isIdentifierChar rfl
  exact Cursor.isWordChar_of_isTargetChar isName.isTargetName.isTargetChar plain

/-- A cursor anywhere in the name of a reference is answered with this name. -/
theorem nameAt?_of_refersAt {text line name : Text} {number offset column : Nat}
    (isName : Line.IsVariableName name) (found : text.lines[number]? = some line)
    (refers : Line.RefersAt line name offset) (notBefore : offset ≤ column)
    (notAfter : column ≤ offset + Text.byteLength name) :
    nameAt? text ⟨number, column⟩ = some name := by
  obtain ⟨before, after, rfl, rfl⟩ := refers
  have narrow : ∀ c ∈ name, c.utf8Size = 1 := by
    intro c member
    apply Line.utf8Size_of_isTargetChar
    exact Cursor.isTargetChar_of_isWordChar (isName.isWordChar c member)
  have inside : column - (Text.byteLength before + 2) ≤ Text.byteLength name := by omega
  obtain ⟨inner, rest, rfl, bytes⟩ := Text.exists_cut_of_narrow narrow inside
  have cut : column = Text.byteLength (before ++ '$' :: '(' :: inner) := by
    rw [Text.byteLength_append_opening]
    omega
  have lineEq : before ++ '$' :: '(' :: (inner ++ rest ++ ')' :: after) =
      before ++ '$' :: '(' :: inner ++ (rest ++ ')' :: after) := by simp
  rw [lineEq] at found
  rw [cut, nameAt?_of_cut found]
  exact Cursor.nameOnLine?_in_reference isName.nonempty isName.isWordChar before after

/-- The scanner of usages reports the location because of a reference on some line. -/
def Usage.ThroughReference (file : Path) (text name : Text) (location : Location) : Prop :=
  ∃ number line offset, text.lines[number]? = some line ∧ offset ∈ inReferences name line ∧
    location = ⟨file, .onLine number offset (offset + Text.byteLength name)⟩

/-- The same at the columns that are reported, as long as these are the ones that were
meant. -/
theorem nameAt?_of_throughReference {file : Path} {text name : Text} {location : Location}
    (isName : Line.IsVariableName name)
    (reported : Usage.ThroughReference file text name location)
    (below : location.range.start.BelowLimit) {column : Nat}
    (notBefore : location.range.start.character ≤ column)
    (notAfter : column ≤ location.range.stop.character) :
    nameAt? text ⟨location.range.start.line, column⟩ = some name := by
  obtain ⟨number, line, offset, found, referred, rfl⟩ := reported
  have lineEq : Position.clamp number = number := Position.clamp_of_clamp_lt below.1
  have startEq : Position.clamp offset = offset := Position.clamp_of_clamp_lt below.2
  simp only [TextRange.onLine, startEq] at notBefore notAfter
  simp only [TextRange.onLine, lineEq]
  apply nameAt?_of_refersAt isName found (Usage.refersAt_of_mem_inReferences referred) notBefore
  exact Nat.le_trans notAfter (Position.clamp_le _)

/-- In references the reader of a cursor and the scanner of usages agree.  The reader is in
a reference exactly if one is open at the cursor with something in its parentheses.  The
scanner then reports what is in the parentheses, at a range that the cursor is in.  And at
every column of a usage that is reported because of a reference to a variable, the reader
answers with this variable. -/
theorem cursor_and_usages_agree_on_references (file : Path) (text : Text) :
    (∀ before after name,
        Cursor.referenceAt? (before ++ after) (Text.byteLength before) = some name ↔
          ∃ inner rest, Cursor.OpenAt before after inner rest ∧ name = inner ++ rest ∧
            name ≠ []) ∧
      (∀ place line name, text.lines[place.line]? = some line →
        Cursor.AnswersByReference line (line.snap place.character) name →
        Usage.isTooLong name = false →
        nameAt? text place = some name ∧
          ∃ offset, Line.RefersAt line name offset ∧
            offset ≤ line.snap place.character ∧
            line.snap place.character ≤ offset + Text.byteLength name ∧
            ∃ location ∈ usages file text name,
              location = ⟨file, .onLine place.line offset (offset + Text.byteLength name)⟩ ∧
              (place.line ≤ Position.limit → place.character ≤ Position.limit →
                location.range.contains ⟨place.line, line.snap place.character⟩ = true)) ∧
      (∀ name, Line.IsVariableName name →
        (∀ number line offset column, text.lines[number]? = some line →
          offset ∈ Usage.inReferences name line → offset ≤ column →
          column ≤ offset + Text.byteLength name →
          nameAt? text ⟨number, column⟩ = some name) ∧
        (∀ location, Usage.ThroughReference file text name location →
          location.range.start.BelowLimit → ∀ column,
          location.range.start.character ≤ column → column ≤ location.range.stop.character →
          nameAt? text ⟨location.range.start.line, column⟩ = some name)) := by
  refine ⟨fun _ _ _ => Cursor.referenceAt?_eq_some_iff, ?_, ?_⟩
  · intro place line name found answers short
    obtain ⟨offset, refers, notBefore, notAfter, used⟩ := answers.exists_usage file found short
    refine ⟨?_, offset, refers, notBefore, notAfter, _, used, rfl, ?_⟩
    · simp only [nameAt?, found]
      exact answers.nameOnLine?
    · intro lineSmall columnSmall
      have small := Nat.le_trans (Text.snap_le line place.character) columnSmall
      exact TextRange.contains_onLine lineSmall small notBefore notAfter
  · intro name isName
    refine ⟨?_, ?_⟩
    · intro number line offset column found referred
      exact nameAt?_of_refersAt isName found (Usage.refersAt_of_mem_inReferences referred)
    · intro location reported below column
      exact nameAt?_of_throughReference isName reported below

/-- A cursor in a reference inside which another one begins, and a cursor right behind the
name of the inner one. -/
theorem cursor_and_usages_agree_on_references_nested :
    let file : Path := ⟨['M']⟩
    let text : Text := ['$', '(', 'é', ' ', 'a', '$', '(', 'b', ')']
    let outer : Text := ['é', ' ', 'a', '$', '(', 'b']
    let location : Location := ⟨file, ⟨⟨0, 8⟩, ⟨0, 9⟩⟩⟩
    text.lines[0]? = some text ∧
      Cursor.AnswersByReference text (text.snap 5) outer ∧ Usage.isTooLong outer = false ∧
      nameAt? text ⟨0, 5⟩ = some outer ∧
      (∃ usage ∈ usages file text outer, usage.range.contains ⟨0, text.snap 5⟩ = true) ∧
      Line.IsVariableName ['b'] ∧ 8 ∈ Usage.inReferences ['b'] text ∧
      nameAt? text ⟨0, 9⟩ = some ['b'] ∧
      Usage.ThroughReference file text ['b'] location ∧ location.range.start.BelowLimit ∧
      nameAt? text ⟨location.range.start.line, 8⟩ = some ['b'] := by
  intro file text outer location
  have found : text.lines[0]? = some text := by decide
  have answers : Cursor.AnswersByReference text (text.snap 5) outer := ⟨by decide, by decide⟩
  have short : Usage.isTooLong outer = false := by decide
  have isName : Line.IsVariableName ['b'] := ⟨Or.inl (Or.inl ⟨by decide, by decide⟩), by simp⟩
  have referred : 8 ∈ Usage.inReferences ['b'] text := by decide
  have through : Usage.ThroughReference file text ['b'] location :=
    ⟨0, text, 8, found, referred, rfl⟩
  have below : location.range.start.BelowLimit := ⟨by decide, by decide⟩
  obtain ⟨_, toUsage, toCursor⟩ := cursor_and_usages_agree_on_references file text
  obtain ⟨answer, _, _, _, _, usage, used, _, inside⟩ := toUsage ⟨0, 5⟩ text outer found answers short
  obtain ⟨everyColumn, reportedColumn⟩ := toCursor ['b'] isName
  exact ⟨found, answers, short, answer, ⟨usage, used, inside (by decide) (by decide)⟩, isName,
    referred, everyColumn 0 text 8 9 found referred (by decide) (by decide), through, below,
    reportedColumn location through below 8 (by decide) (by decide)⟩

end MakefileNav
