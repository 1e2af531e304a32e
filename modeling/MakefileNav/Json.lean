/-
Module: MakefileNav.Json
Purpose: Structured output.
Main exports:
  Json, Json.quote, Json.pretty
-/
import MakefileNav.Text.Basic

namespace MakefileNav

/-- A value of structured output.  The members of an object are written in the order
given. -/
inductive Json where
  | null
  | number (value : Nat)
  | string (value : Text)
  | array (elements : List Json)
  | object (members : List (Text × Json))

namespace Json

/-- A string, or the null value. -/
def ofOption : Option Text → Json
  | none => .null
  | some value => .string value

/-! ### Strings -/

/-- Digit of a number below sixteen. -/
def hexDigit (n : Nat) : Char :=
  Nat.digitChar n

/-- A character inside a string.  Quotes, backslashes and control characters are
escaped, the latter by their short form where there is one. -/
def escape (c : Char) : Text :=
  if c = '"' then ['\\', '"']
  else if c = '\\' then ['\\', '\\']
  else if c = '\n' then ['\\', 'n']
  else if c = '\r' then ['\\', 'r']
  else if c = '\t' then ['\\', 't']
  else if c = '\x08' then ['\\', 'b']
  else if c = '\x0c' then ['\\', 'f']
  else if c.toNat < 0x20 then
    ['\\', 'u', '0', '0', hexDigit (c.toNat / 16), hexDigit (c.toNat % 16)]
  else [c]

/-- A text as a string in quotes. -/
def quote (text : Text) : Text :=
  '"' :: (text.flatMap escape ++ ['"'])

/-! ### Layout -/

/-- Start of a line at a depth of nesting: two spaces for each level. -/
def newLine (depth : Nat) : Text :=
  '\n' :: List.replicate (2 * depth) ' '

/-- Items between two signs, each on a line of its own.  Without any items the signs
stand together. -/
def layout (opening closing : Char) (depth : Nat) (items : List Text) : Text :=
  if items.isEmpty then [opening, closing]
  else
    opening :: (List.intercalate [','] (items.map (newLine (depth + 1) ++ ·)) ++
      newLine depth ++ [closing])

mutual

/-- A value at a depth of nesting, over as many lines as it has parts. -/
def pretty (depth : Nat) : Json → Text
  | .null => "null"
  | .number value => Text.ofNat value
  | .string value => quote value
  | .array elements => layout '[' ']' depth (prettyElements (depth + 1) elements)
  | .object members => layout '\x7b' '\x7d' depth (prettyMembers (depth + 1) members)

/-- The elements of an array. -/
def prettyElements (depth : Nat) : List Json → List Text
  | [] => []
  | element :: rest => pretty depth element :: prettyElements depth rest

/-- The members of an object. -/
def prettyMembers (depth : Nat) : List (Text × Json) → List Text
  | [] => []
  | member :: rest => prettyMember depth member :: prettyMembers depth rest

/-- One member of an object. -/
def prettyMember (depth : Nat) : Text × Json → Text
  | (key, value) => quote key ++ ':' :: ' ' :: pretty depth value

end

end Json

end MakefileNav
