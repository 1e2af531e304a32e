/-
Module: MakefileNav.Toml.Lexeme
Purpose: The lexemes of a TOML document whose values are strings.
Main exports:
  Toml.Lexeme, Toml.lexemes?
-/
import MakefileNav.Text.Basic

namespace MakefileNav.Toml

/-!
The part of TOML that settings are written in has four kinds of strings, bare
keys, comments and a few signs.  A document is read in one pass.  At each place
the lexeme that starts there is recognized together with its width, and the
characters it covers are then passed over; so the pass is a recursion on the
document itself, and no lexeme is read twice.
-/

/-- What a document is made of.  Blanks and comments are left out. -/
inductive Lexeme where
  /-- The end of a line. -/
  | newline
  /-- The sign between a key and its value. -/
  | equals
  /-- The sign between two elements of an array. -/
  | comma
  /-- The bracket that opens an array. -/
  | openBracket
  /-- The bracket that closes an array. -/
  | closeBracket
  /-- A key without quotes. -/
  | bare (key : Text)
  /-- A quoted string on one line, which can be a key too. -/
  | quoted (content : Text)
  /-- A string in triple quotes. -/
  | block (content : Text)
deriving Repr, DecidableEq

/-! ### Characters -/

/-- Blanks inside a line. -/
def isBlank (c : Char) : Bool :=
  c == ' ' || c == '\t'

/-- Characters that can stand in a string or a comment: the tab and everything that
is not a control character. -/
def isPlain (c : Char) : Bool :=
  c == '\t' || (0x20 ≤ c.toNat && c.toNat != 0x7F)

/-- Characters of a bare key. -/
def isBareChar (c : Char) : Bool :=
  c.isAlphanum || c == '_' || c == '-'

/-- Width of the line ending at the start of a text. -/
def newlineWidth? : Text → Option Nat
  | '\n' :: _ => some 1
  | '\r' :: '\n' :: _ => some 2
  | _ => none

/-- Value of a hexadecimal digit. -/
def hexDigit? (c : Char) : Option Nat :=
  if c.isDigit then some (c.toNat - '0'.toNat)
  else if 'a' ≤ c ∧ c ≤ 'f' then some (c.toNat - 'a'.toNat + 10)
  else if 'A' ≤ c ∧ c ≤ 'F' then some (c.toNat - 'A'.toNat + 10)
  else none

/-- Character whose code point is written with `count` hexadecimal digits at the
start of a text. -/
def hexChar? (count : Nat) (text : Text) : Option Char :=
  let digits := text.take count
  if digits.length < count then none
  else
    match digits.foldlM (fun value c => (hexDigit? c).map (value * 16 + ·)) 0 with
    | none => none
    | some value => if value.isValidChar then some (Char.ofNat value) else none

/-- Character that an escape stands for, and the width of the escape.  The text
starts after the backslash. -/
def escape? : Text → Option (Char × Nat)
  | 'b' :: _ => some ('\x08', 1)
  | 't' :: _ => some ('\t', 1)
  | 'n' :: _ => some ('\n', 1)
  | 'f' :: _ => some ('\x0c', 1)
  | 'r' :: _ => some ('\r', 1)
  | '"' :: _ => some ('"', 1)
  | '\\' :: _ => some ('\\', 1)
  | 'u' :: rest => (hexChar? 4 rest).map (·, 5)
  | 'U' :: rest => (hexChar? 8 rest).map (·, 9)
  | _ => none

/-! ### Strings

Each reader starts after the opening quotes and gives the content of the string
and its width, closing quotes included.  `passed` counts the characters of an
escape that are still to be passed over, `width` those read so far, and `content`
has its last character first. -/

/-- A string in double quotes. -/
def quotedString? : Text → Nat → Nat → Text → Option (Text × Nat)
  | [], _, _, _ => none
  | _ :: rest, passed + 1, width, content =>
      quotedString? rest passed (width + 1) content
  | c :: rest, 0, width, content =>
      if c = '"' then some (content.reverse, width + 1)
      else if c = '\\' then
        match escape? rest with
        | none => none
        | some (d, escapeWidth) => quotedString? rest escapeWidth (width + 1) (d :: content)
      else if isPlain c then quotedString? rest 0 (width + 1) (c :: content)
      else none

/-- A string in single quotes, which knows no escapes. -/
def literalString? (text : Text) : Option (Text × Nat) :=
  let content := text.takeWhile fun c => isPlain c && c != Char.ofNat 0x27
  if text[content.length]? = some (Char.ofNat 0x27) then some (content, content.length + 1)
  else none

/-- Number of quotes at the start of a text, five at most. -/
def quoteCount (quote : Char) (text : Text) : Nat :=
  ((text.take 5).takeWhile (· == quote)).length

/-- Width of the blanks and line endings at the start of a text. -/
def blankWidth : Text → Nat → Nat
  | ' ' :: rest, width => blankWidth rest (width + 1)
  | '\t' :: rest, width => blankWidth rest (width + 1)
  | '\n' :: rest, width => blankWidth rest (width + 1)
  | '\r' :: '\n' :: rest, width => blankWidth rest (width + 2)
  | _, width => width

/-- Width of what a backslash at the end of a line removes: the line ending and all
blanks around it.  The text starts after the backslash. -/
def continuationWidth? (text : Text) : Option Nat :=
  (newlineWidth? (text.dropWhile isBlank)).map fun _ => blankWidth text 0

/-- A string in triple quotes.  In double quotes, escapes count and a backslash
joins lines.  One or two quotes belong to the content, also directly before the
closing ones. -/
def blockString? (quote : Char) : Text → Nat → Nat → Text → Option (Text × Nat)
  | [], _, _, _ => none
  | _ :: rest, passed + 1, width, content =>
      blockString? quote rest passed (width + 1) content
  | c :: rest, 0, width, content =>
      if c = quote then
        let count := quoteCount quote (c :: rest)
        if 3 ≤ count then
          some (content.reverse ++ List.replicate (count - 3) quote, width + count)
        else blockString? quote rest 0 (width + 1) (c :: content)
      else if c = '\\' ∧ quote = '"' then
        match continuationWidth? rest with
        | some removed => blockString? quote rest removed (width + 1) content
        | none =>
            match escape? rest with
            | none => none
            | some (d, escapeWidth) =>
                blockString? quote rest escapeWidth (width + 1) (d :: content)
      else
        match newlineWidth? (c :: rest) with
        | some newlineWidth =>
            blockString? quote rest (newlineWidth - 1) (width + 1) ('\n' :: content)
        | none =>
            if isPlain c then blockString? quote rest 0 (width + 1) (c :: content)
            else none

/-- A string in triple quotes, whose content does not include a line ending directly
after the opening quotes. -/
def tripleQuoted? (quote : Char) (text : Text) : Option (Lexeme × Nat) :=
  let skipped := (newlineWidth? text).getD 0
  (blockString? quote (text.drop skipped) 0 (skipped + 3) []).map fun (content, width) =>
    (.block content, width)

/-- The string at the start of a text and its width. -/
def string? (quote : Char) (text : Text) : Option (Lexeme × Nat) :=
  if 3 ≤ quoteCount quote text then tripleQuoted? quote (text.drop 3)
  else
    let body := text.drop 1
    let single := if quote = '"' then quotedString? body 0 0 [] else literalString? body
    single.map fun (content, width) => (.quoted content, width + 1)

/-! ### Lexemes -/

/-- What starts at the start of a text: a lexeme, or nothing for blanks and
comments, and the width. -/
def lexemeAt? (text : Text) : Option (Option Lexeme × Nat) :=
  match text with
  | [] => none
  | c :: rest =>
      if isBlank c then some (none, 1)
      else if c = '#' then some (none, (rest.takeWhile isPlain).length + 1)
      else if c = '=' then some (some .equals, 1)
      else if c = ',' then some (some .comma, 1)
      else if c = '[' then some (some .openBracket, 1)
      else if c = ']' then some (some .closeBracket, 1)
      else if c = '"' ∨ c = Char.ofNat 0x27 then
        (string? c text).map fun (lexeme, width) => (some lexeme, width)
      else if isBareChar c then
        let key := text.takeWhile isBareChar
        some (some (.bare key), key.length)
      else (newlineWidth? text).map fun width => (some .newline, width)

/-- Worker of `lexemes?`; `passed` counts the characters of the last lexeme that are
still to be passed over and `found` has its last element first. -/
def lexemes?.go : Text → Nat → List Lexeme → Option (List Lexeme)
  | [], _, found => some found.reverse
  | _ :: rest, passed + 1, found => lexemes?.go rest passed found
  | c :: rest, 0, found =>
      match lexemeAt? (c :: rest) with
      | none => none
      | some (none, width) => lexemes?.go rest (width - 1) found
      | some (some lexeme, width) => lexemes?.go rest (width - 1) (lexeme :: found)

/-- The lexemes of a document, unless a character of it belongs to none.  A byte
order mark at the very start is passed over. -/
def lexemes? (document : Text) : Option (List Lexeme) :=
  match document with
  | c :: rest =>
      if c = Char.ofNat 0xFEFF then lexemes?.go rest 0 [] else lexemes?.go document 0 []
  | [] => some []

end MakefileNav.Toml
