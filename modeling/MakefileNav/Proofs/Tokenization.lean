/-
Module: MakefileNav.Proofs.Tokenization
Purpose: The words of a text are its only tokenization, and those of a `.PHONY` list have their
  places in the whole line.
Main exports:
  Token.IsWordOf, Token.IsEntryOf, Token.Clears, Token.covers, Token.eq_of_touches,
  Token.StandsIn.exists_of_covers, Text.countP_covers_words, Text.Tokenizes, Text.tokenizes_iff,
  Line.slice?_of_phonyList?, Line.standsIn_of_phonyList?,
  Usage.mem_outsideReferences_iff_word, Usage.mem_outsideReferences_iff_isEntryOf,
  words_tokenize_exactly
-/
import Mathlib.Data.List.Pairwise
import MakefileNav.Proofs.UsageOrder

namespace MakefileNav

/-!
Whether a list of tokens is right can be checked without reading the text again: each token is cut
out of the text and has no white space in it, there is a gap between any two, and only white space
is left over.  Nothing is said of longest tokens, and still a text has only one such list.  A
character next to a token that is not white space would have to be in another token, which would
then touch the first one.

The words of a `.PHONY` list are counted from the start of the list, the list from the start of the
trimmed line, and the trimmed line from behind the indentation.  The three are added up, and in
front of each there may be white space that takes several bytes.
-/

namespace Token

/-- The token is a maximal run of characters of the text that are not white space. -/
def IsWordOf (token : Token) (text : Text) : Prop :=
  ∃ before after, text = before ++ token.text ++ after ∧ Text.byteLength before = token.offset ∧
    Text.MaximalRun (fun c => !isWhitespace c) before token.text after

/-- The token is such a run of what stands behind the first colon of the line, and its place is the
one in the whole line. -/
def IsEntryOf (token : Token) (line : Text) : Prop :=
  ∃ left before after, ':' ∉ left ∧ line = left ++ ':' :: (before ++ token.text ++ after) ∧
    Text.byteLength (left ++ ':' :: before) = token.offset ∧
    Text.MaximalRun (fun c => !isWhitespace c) before token.text after

/-- The token ends before the other one starts, and the two do not touch. -/
def Clears (left right : Token) : Prop :=
  left.stop < right.offset

/-- The byte at the column is one of the token. -/
def covers (token : Token) (column : Nat) : Bool :=
  token.offset ≤ column && column < token.stop

variable {token other : Token} {tokens : List Token} {column : Nat}

theorem covers_iff : token.covers column = true ↔ token.offset ≤ column ∧ column < token.stop := by
  simp [covers]

theorem offset_le_stop (token : Token) : token.offset ≤ token.stop :=
  Nat.le_add_right _ _

instance : Std.Irrefl Clears where
  irrefl token clears := Nat.not_lt.mpr token.offset_le_stop clears

instance : Std.Antisymm Clears where
  antisymm left right clears clears' := by
    have notAfter := left.offset_le_stop
    have notAfter' := right.offset_le_stop
    unfold Clears at clears clears'
    omega

/-! ### Tokens that are clear of each other -/

/-- Where any two tokens are clear of each other, only a token itself touches it. -/
theorem eq_of_touches (apart : tokens.Pairwise Clears) (member : token ∈ tokens)
    (member' : other ∈ tokens) (touches : token.offset ≤ other.stop)
    (touches' : other.offset ≤ token.stop) : token = other := by
  by_contra different
  let either : Token → Token → Prop := fun left right => left.Clears right ∨ right.Clears left
  have : Std.Symm either := ⟨fun _ _ => Or.symm⟩
  have symmetric : tokens.Pairwise either := apart.imp Or.inl
  rcases symmetric.forall member member' different with clear | clear
  · exact Nat.not_lt.mpr touches' clear
  · exact Nat.not_lt.mpr touches clear

/-- A column is covered by one token at most. -/
theorem eq_of_covers (apart : tokens.Pairwise Clears) (member : token ∈ tokens)
    (member' : other ∈ tokens) (covered : token.covers column = true)
    (covered' : other.covers column = true) : token = other := by
  rw [covers_iff] at covered covered'
  exact eq_of_touches apart member member' (by omega) (by omega)

theorem countP_covers_le_one (apart : tokens.Pairwise Clears) (column : Nat) :
    tokens.countP (·.covers column) ≤ 1 := by
  induction tokens with
  | nil => exact Nat.zero_le 1
  | cons first rest ih =>
      obtain ⟨clears, apart'⟩ := List.pairwise_cons.mp apart
      cases covered : first.covers column with
      | false =>
          simpa [List.countP_cons, covered] using ih apart'
      | true =>
          -- All tokens behind the first start further right.
          have uncovered : rest.countP (·.covers column) = 0 := by
            apply List.countP_eq_zero.mpr
            intro token member covered'
            have clear : first.stop < token.offset := clears token member
            rw [covers_iff] at covered covered'
            omega
          simp [covered, uncovered]

/-- A token that has a byte of a character has the whole character. -/
theorem StandsIn.exists_of_covers {before after : Text} {c : Char}
    (stands : token.StandsIn (before ++ c :: after)) (notBefore : Text.byteLength before ≤ column)
    (inside : column < Text.byteLength (before ++ [c])) (covered : token.covers column = true) :
    ∃ left right, token.text = left ++ c :: right ∧
      token.offset + Text.byteLength left = Text.byteLength before := by
  obtain ⟨left, right, split, bytes⟩ := stands
  rw [covers_iff, stop] at covered
  simp only [Text.byteLength_append, Text.byteLength_cons, Text.byteLength_nil] at inside
  rw [List.append_assoc] at split
  rcases Text.append_cons_eq_append_iff.mp split with ⟨passed, rfl, _⟩ | ⟨middle, rfl, rest⟩
  · -- The token would start behind the character.
    rw [Text.byteLength_append, Text.byteLength_cons] at bytes
    omega
  · rw [Text.byteLength_append] at notBefore
    rcases Text.append_cons_eq_append_iff.mp rest.symm with ⟨others, textEq, _⟩ | ⟨gap, rfl, _⟩
    · exact ⟨middle, others, textEq, by rw [Text.byteLength_append, bytes]⟩
    · -- The token would end before the character.
      rw [Text.byteLength_append] at notBefore
      omega

end Token

namespace Text

variable {text before after : Text} {tokens : List Token} {token : Token} {c : Char} {column : Nat}

/-! ### Words cover what is not white space -/

theorem mem_words_iff : token ∈ text.words ↔ token.IsWordOf text :=
  mem_runs_iff

theorem words_pairwise (text : Text) : text.words.Pairwise Token.Clears :=
  runs_pairwise _ text

/-- Each byte of a character that is not white space is in a word. -/
theorem exists_mem_words_covers (split : text = before ++ c :: after)
    (solid : isWhitespace c = false) (notBefore : byteLength before ≤ column)
    (inside : column < byteLength (before ++ [c])) :
    ∃ token ∈ text.words, token.covers column = true := by
  have accepted : ∀ d ∈ [c], (!isWhitespace d) = true := by simpa using solid
  obtain ⟨left, lead, trail, right, rfl, rfl, run, _, _⟩ :=
    MaximalRun.exists_around (List.cons_ne_nil c []) accepted before after
  refine ⟨⟨byteLength left, lead ++ [c] ++ trail⟩, ?_, ?_⟩
  · exact mem_words_iff.mpr ⟨left, right, by simp [split], rfl, run⟩
  · rw [byteLength_append] at notBefore
    simp only [byteLength_append] at inside
    simp only [Token.covers_iff, Token.stop, byteLength_append]
    omega

/-- White space is in no word. -/
theorem covers_eq_false_of_isWhitespace (split : text = before ++ c :: after)
    (white : isWhitespace c = true) (member : token ∈ text.words)
    (notBefore : byteLength before ≤ column) (inside : column < byteLength (before ++ [c])) :
    token.covers column = false := by
  rw [Bool.eq_false_iff]
  intro covered
  have stands := standsIn_of_mem_runs member
  rw [split] at stands
  obtain ⟨left, right, textEq, _⟩ := stands.exists_of_covers notBefore inside covered
  obtain ⟨_, _, _, _, run⟩ := mem_words_iff.mp member
  have solid := run.accepted c (by simp [textEq])
  rw [white] at solid
  cases solid

theorem countP_covers_words (split : text = before ++ c :: after)
    (notBefore : byteLength before ≤ column) (inside : column < byteLength (before ++ [c])) :
    text.words.countP (·.covers column) = if isWhitespace c then 0 else 1 := by
  split_ifs with white
  · apply List.countP_eq_zero.mpr
    intro token member
    rw [covers_eq_false_of_isWhitespace split white member notBefore inside]
    exact Bool.false_ne_true
  · rw [Bool.not_eq_true] at white
    have atMost := Token.countP_covers_le_one (words_pairwise text) column
    have positive :=
      List.countP_pos_iff.mpr (exists_mem_words_covers split white notBefore inside)
    omega

/-! ### There is no other tokenization -/

/-- The tokens are pieces of the text without white space, from left to right and not next to each
other, and all the rest of the text is white space. -/
structure Tokenizes (text : Text) (tokens : List Token) : Prop where
  sliced : ∀ token ∈ tokens, text.slice? token.offset token.stop = some token.text
  nonempty : ∀ token ∈ tokens, token.text ≠ []
  solid : ∀ token ∈ tokens, ∀ c ∈ token.text, isWhitespace c = false
  apart : tokens.Pairwise Token.Clears
  complete : ∀ before c after, text = before ++ c :: after → isWhitespace c = false →
    ∃ token ∈ tokens, token.covers (byteLength before) = true

theorem tokenizes_words (text : Text) : text.Tokenizes text.words where
  sliced _ member := Token.standsIn_iff_slice?.mp (standsIn_of_mem_runs member)
  nonempty _ member := by
    obtain ⟨_, _, _, _, run⟩ := mem_words_iff.mp member
    exact run.nonempty
  solid _ member c inside := by
    obtain ⟨_, _, _, _, run⟩ := mem_words_iff.mp member
    simpa using run.accepted c inside
  apart := words_pairwise text
  complete before c after split solid := by
    have positive := Char.utf8Size_pos c
    exact exists_mem_words_covers split solid (Nat.le_refl _) (by simpa using positive)

namespace Tokenizes

variable (tokenized : text.Tokenizes tokens)

include tokenized

/-- What stands directly before a token is in no other one, since that one has the whole character
and would touch the token. -/
theorem begins (member : token ∈ tokens) (split : text = before ++ token.text ++ after)
    (bytes : byteLength before = token.offset) : ∀ c ∈ before.getLast?, isWhitespace c = true := by
  intro c last
  obtain ⟨before, rfl⟩ := List.getLast?_eq_some_iff.mp last
  by_contra solid
  rw [Bool.not_eq_true] at solid
  rw [List.append_assoc, List.append_assoc, List.singleton_append] at split
  obtain ⟨other, member', covered⟩ := tokenized.complete before c _ split solid
  have positive := Char.utf8Size_pos c
  have stands := Token.standsIn_iff_slice?.mpr (tokenized.sliced other member')
  rw [split] at stands
  obtain ⟨left, right, textEq, leftBytes⟩ :=
    stands.exists_of_covers (Nat.le_refl _) (by simpa using positive) covered
  rw [Token.covers_iff] at covered
  simp only [byteLength_append, byteLength_cons, byteLength_nil] at bytes
  have reaches : token.offset ≤ other.stop := by
    rw [Token.stop, textEq, byteLength_append, byteLength_cons]
    omega
  have notAfter := token.offset_le_stop
  obtain rfl := Token.eq_of_touches tokenized.apart member member' reaches (by omega)
  omega

/-- What stands directly behind a token is in no other one, since that one would touch it. -/
theorem ends (member : token ∈ tokens) (split : text = before ++ token.text ++ after)
    (bytes : byteLength before = token.offset) : ∀ c ∈ after.head?, isWhitespace c = true := by
  intro c first
  obtain ⟨after, rfl⟩ := List.head?_eq_some_iff.mp first
  by_contra solid
  rw [Bool.not_eq_true] at solid
  obtain ⟨other, member', covered⟩ := tokenized.complete _ c after split solid
  rw [byteLength_append, bytes, ← Token.stop, Token.covers_iff] at covered
  have notAfter := token.offset_le_stop
  obtain rfl := Token.eq_of_touches tokenized.apart member member' (by omega) covered.1
  exact Nat.lt_irrefl _ covered.2

/-- So every token is a word. -/
theorem isWordOf (member : token ∈ tokens) : token.IsWordOf text := by
  obtain ⟨before, after, split, bytes⟩ :=
    Token.standsIn_iff_slice?.mpr (tokenized.sliced token member)
  refine ⟨before, after, split, bytes, tokenized.nonempty token member, ?_, ?_, ?_⟩
  · simpa using tokenized.solid token member
  · simpa using tokenized.begins member split bytes
  · simpa using tokenized.ends member split bytes

/-- The first character of a word is in some token, and this token is the word. -/
theorem mem_of_mem_words (found : token ∈ text.words) : token ∈ tokens := by
  obtain ⟨before, after, split, bytes, run⟩ := mem_words_iff.mp found
  obtain ⟨c, rest, textEq⟩ := List.exists_cons_of_ne_nil run.nonempty
  have solid : isWhitespace c = false := by simpa using run.accepted c (by simp [textEq])
  have split' : text = before ++ c :: (rest ++ after) := by simp [split, textEq]
  obtain ⟨other, member, covered⟩ := tokenized.complete before c _ split' solid
  have positive := byteLength_pos run.nonempty
  have covered' : token.covers (byteLength before) = true := by
    rw [Token.covers_iff, bytes, Token.stop]
    omega
  have isWord := mem_words_iff.mpr (tokenized.isWordOf member)
  rwa [Token.eq_of_covers (words_pairwise text) found isWord covered' covered]

end Tokenizes

/-- The words of a text are its only tokenization. -/
theorem tokenizes_iff : text.Tokenizes tokens ↔ tokens = text.words := by
  constructor
  · intro tokenized
    apply tokenized.apart.eq_of_mem_iff (words_pairwise text)
    intro token
    constructor
    · intro member
      exact mem_words_iff.mpr (tokenized.isWordOf member)
    · exact tokenized.mem_of_mem_words
  · rintro rfl
    exact tokenizes_words text

end Text

/-! ### Words of a `.PHONY` list -/

namespace Line

variable {line : Text} {list : Token}

/-- The indentation is what trimming takes away at the start. -/
theorem byteLength_sub_trimStart (line : Text) :
    line.byteLength - line.trimStart.byteLength = line.indent := by
  have split := congrArg Text.byteLength
    (List.takeWhile_append_dropWhile (p := isWhitespace) (l := line))
  rw [Text.byteLength_append] at split
  rw [Text.trimStart, Text.indent]
  omega

/-- A `.PHONY` list goes from its place up to the end of the trimmed line. -/
theorem slice?_of_phonyList? {trimmed : Text} (read : phonyList? trimmed = some list) :
    trimmed.slice? list.offset trimmed.byteLength = some list.text := by
  obtain ⟨blank, blank', _, _, _, _, whole, offset⟩ := phonyList?_eq_some_iff.mp read
  have split : trimmed = phonyTarget ++ blank ++ ':' :: blank' ++ list.text := by simp [whole]
  apply Text.slice?_eq_some_iff.mpr
  refine ⟨_, [], split.trans (List.append_nil _).symm, offset.symm, ?_⟩
  rw [split, Text.byteLength_append, offset]

/-- In the whole line it has its place behind the indentation. -/
theorem standsIn_of_phonyList? (read : phonyList? line.trim = some list) :
    (list.shift line.indent).StandsIn line := by
  obtain ⟨trailing, _, split⟩ := Text.exists_trim line
  obtain ⟨before, after, whole, bytes, _⟩ := Text.slice?_eq_some_iff.mp (slice?_of_phonyList? read)
  have trimmed : Token.StandsIn ⟨line.indent, line.trim⟩ line := ⟨_, trailing, split, rfl⟩
  have inTrimmed : list.StandsIn line.trim := ⟨before, after, whole, bytes⟩
  exact trimmed.shift inTrimmed

end Line

namespace Usage

variable {line name : Text} {list : Token} {column : Nat}

/-- A `.PHONY` line uses a name at the words of its list that are the name. -/
theorem mem_outsideReferences_iff_word (phony : Line.ReadsAsPhonyList line.trim)
    (read : Line.phonyList? line.trim = some list) :
    column ∈ outsideReferences name line ↔
      ∃ token ∈ list.text.words, token.text = name ∧
        column = line.indent + list.offset + token.offset := by
  have noAssignment : ¬Line.isAssignment line = true := by
    rw [Line.isAssignment_iff]
    exact phony.not_readsAsAssignment
  have entries : Line.phonyEntries? line =
      some (list.text.words.map (Token.shift (line.indent + list.offset))) := by
    rw [Line.phonyEntries?, read, Option.map_some]
  rw [outsideReferences, if_neg noAssignment, entries]
  simp only [mem_inEntries_iff, List.mem_map, Token.shift, Token.mk.injEq]
  constructor
  · rintro ⟨token, member, rfl, rfl⟩
    exact ⟨token, member, rfl, rfl⟩
  · rintro ⟨token, member, rfl, rfl⟩
    exact ⟨token, member, rfl, rfl⟩

/-- The places at which a `.PHONY` line uses a name are those of its entries in the whole line. -/
theorem mem_outsideReferences_iff_isEntryOf (phony : Line.ReadsAsPhonyList line.trim) :
    column ∈ outsideReferences name line ↔ Token.IsEntryOf ⟨column, name⟩ line := by
  have noWords : wordOffsets name line = [] := if_pos (Or.inr phony)
  rw [outsideReferences_eq_append, noWords, List.append_nil, mem_entryOffsets_iff]
  constructor
  · rintro ⟨_, _, left, rest, place, absent, rfl, member, rfl⟩
    obtain ⟨before, after, rfl, bytes, run⟩ := Text.mem_words_iff.mp member
    refine ⟨left, before, after, absent, rfl, ?_, run⟩
    rw [Text.byteLength_append_colon, bytes]
  · rintro ⟨left, before, after, absent, rfl, bytes, run⟩
    refine ⟨phony.not_readsAsAssignment, phony, left, _, Text.byteLength before, absent, rfl,
      Text.mem_words_iff.mpr ⟨before, after, rfl, rfl, run⟩, ?_⟩
    rw [← Text.byteLength_append_colon, bytes]

end Usage

/-- The words of a text are its maximal runs of characters that are not white space, and no other
list of pieces of the text tokenizes it.  Each byte of such a character is in exactly one word, and
a byte of white space is in none.  The places at which a `.PHONY` line uses a name are those of the
words of its list, counted behind the indentation and what comes before the list.  They are the
places in the whole line of the words behind its first colon. -/
theorem words_tokenize_exactly (text : Text) :
    (∀ token, token ∈ text.words ↔ token.IsWordOf text) ∧
      (∀ tokens, text.Tokenizes tokens ↔ tokens = text.words) ∧
      (∀ before c after column, text = before ++ c :: after → Text.byteLength before ≤ column →
        column < Text.byteLength (before ++ [c]) →
          text.words.countP (·.covers column) = if isWhitespace c then 0 else 1) ∧
      ∀ line : Text, Line.ReadsAsPhonyList line.trim →
        ∃ list, Line.phonyList? line.trim = some list ∧
          line.byteLength - line.trimStart.byteLength = line.indent ∧
          line.trim.slice? list.offset line.trim.byteLength = some list.text ∧
          (list.shift line.indent).StandsIn line ∧
          ∀ name column,
            (column ∈ Usage.outsideReferences name line ↔
              ∃ token ∈ list.text.words, token.text = name ∧
                column = line.indent + list.offset + token.offset) ∧
            (column ∈ Usage.outsideReferences name line ↔
              Token.IsEntryOf ⟨column, name⟩ line) := by
  refine ⟨fun _ => Text.mem_words_iff, fun _ => Text.tokenizes_iff, ?_, ?_⟩
  · intro before c after column split notBefore inside
    exact Text.countP_covers_words split notBefore inside
  · intro line phony
    have found := (Line.isSome_phonyList?_trim_iff line).mpr phony
    obtain ⟨list, read⟩ := Option.isSome_iff_exists.mp found
    refine ⟨list, read, Line.byteLength_sub_trimStart line, Line.slice?_of_phonyList? read,
      Line.standsIn_of_phonyList? read, ?_⟩
    intro name column
    exact ⟨Usage.mem_outsideReferences_iff_word phony read,
      Usage.mem_outsideReferences_iff_isEntryOf phony⟩

/-- A text and a `.PHONY` line with white space of several bytes: columns inside of characters, and
an entry with such white space everywhere before it. -/
theorem words_tokenize_exactly_wide :
    let text : Text := [' ', 'é', 'a', '\u3000', 'b']
    let list : Token := ⟨12, ['é', '\u2028', 'a']⟩
    let line : Text := '\u3000' :: (Line.phonyTarget ++ '\u00A0' :: ':' :: '\u2003' ::
      (list.text ++ [' ', '\u3000']))
    Token.IsWordOf ⟨1, ['é', 'a']⟩ text ∧
      text.Tokenizes [⟨1, ['é', 'a']⟩, ⟨7, ['b']⟩] ∧
      (text = [' '] ++ 'é' :: ['a', '\u3000', 'b'] ∧ Text.byteLength [' '] ≤ 2 ∧
        2 < Text.byteLength ([' '] ++ ['é']) ∧ text.words.countP (·.covers 2) = 1) ∧
      (text = [' ', 'é', 'a'] ++ '\u3000' :: ['b'] ∧ Text.byteLength [' ', 'é', 'a'] ≤ 6 ∧
        6 < Text.byteLength ([' ', 'é', 'a'] ++ ['\u3000']) ∧
        text.words.countP (·.covers 6) = 0) ∧
      Line.ReadsAsPhonyList line.trim ∧ Line.phonyList? line.trim = some list ∧
      line.byteLength - line.trimStart.byteLength = 3 ∧ (list.shift 3).StandsIn line ∧
      20 ∈ Usage.outsideReferences ['a'] line ∧ Token.IsEntryOf ⟨20, ['a']⟩ line := by
  intro text list line
  obtain ⟨words, tokenizes, counted, atLine⟩ := words_tokenize_exactly text
  have phony : Line.ReadsAsPhonyList line.trim := by decide
  have read : Line.phonyList? line.trim = some list := by decide
  obtain ⟨list', read', indentation, _, stands, used⟩ := atLine line phony
  obtain rfl : list = list' := Option.some.inj (read.symm.trans read')
  obtain ⟨asWord, asEntry⟩ := used ['a'] 20
  have found : 20 ∈ Usage.outsideReferences ['a'] line :=
    asWord.mpr ⟨⟨5, ['a']⟩, by decide, rfl, by decide⟩
  exact ⟨(words _).mp (by decide), (tokenizes _).mpr (by decide),
    ⟨rfl, by decide, by decide, counted [' '] 'é' _ 2 rfl (by decide) (by decide)⟩,
    ⟨rfl, by decide, by decide, counted [' ', 'é', 'a'] '\u3000' _ 6 rfl (by decide) (by decide)⟩,
    phony, read, indentation, stands, found, asEntry.mp found⟩

end MakefileNav
