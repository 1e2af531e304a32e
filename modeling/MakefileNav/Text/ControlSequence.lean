/-
Module: MakefileNav.Text.ControlSequence
Purpose: Text without the controls that only a terminal understands.
Main exports:
  ControlSequence.State, ControlSequence.State.advance, ControlSequence.Reader,
  Text.withoutControls
-/
import MakefileNav.Text.Basic

namespace MakefileNav

namespace ControlSequence

/-!
A control sequence starts with an escape character.  What follows tells how far it
goes: a sequence with parameters ends at its first letter, a control string only at
a terminator, and any sequence is cut short by another escape character.  Outside
sequences, control characters other than white space and the delete character are
not shown either.

A reader either skips or prints.  It starts to print at the first character that is
to be shown, which can be white space in the middle of a sequence, and then goes on
printing up to the next character that is not; the sequence it was in is only taken
up again there.
-/

/-- Where a reader is in a control sequence. -/
inductive State where
  /-- Outside. -/
  | ground
  /-- After the escape character. -/
  | escape
  /-- After an intermediate character of a short sequence. -/
  | escapeIntermediate
  /-- At the start of a sequence with parameters. -/
  | csiEntry
  /-- In its parameters. -/
  | csiParameter
  /-- In its intermediate characters. -/
  | csiIntermediate
  /-- In a sequence that is malformed. -/
  | csiIgnore
  /-- At the start of a device control string. -/
  | dcsEntry
  /-- In its parameters. -/
  | dcsParameter
  /-- In its intermediate characters. -/
  | dcsIntermediate
  /-- In the data of a control string. -/
  | controlString
  /-- In an operating system command, which a bell ends. -/
  | osc
deriving Repr, DecidableEq

namespace State

/-- State after an ASCII character.  Cancel, substitute and escape have the same
effect everywhere; other control characters, the bell apart, have none. -/
def advance (state : State) (code : Nat) : State :=
  let within (low high : Nat) : Bool := low ≤ code && code ≤ high
  if code = 0x18 ∨ code = 0x1A then .ground
  else if code = 0x1B then .escape
  else
    match state with
    | .ground => .ground
    | .escape =>
        if within 0x20 0x2F then .escapeIntermediate
        else if code = 0x5B then .csiEntry
        else if code = 0x5D then .osc
        else if code = 0x50 then .dcsEntry
        else if code = 0x58 ∨ code = 0x5E ∨ code = 0x5F then .controlString
        else if within 0x30 0x7E then .ground
        else .escape
    | .escapeIntermediate => if within 0x30 0x7E then .ground else .escapeIntermediate
    | .csiEntry =>
        if within 0x20 0x2F then .csiIntermediate
        else if within 0x30 0x3F then .csiParameter
        else if within 0x40 0x7E then .ground
        else .csiEntry
    | .csiParameter =>
        if within 0x20 0x2F then .csiIntermediate
        else if within 0x3C 0x3F then .csiIgnore
        else if within 0x40 0x7E then .ground
        else .csiParameter
    | .csiIntermediate =>
        if within 0x30 0x3F then .csiIgnore
        else if within 0x40 0x7E then .ground
        else .csiIntermediate
    | .csiIgnore => if within 0x40 0x7E then .ground else .csiIgnore
    | .dcsEntry =>
        if within 0x20 0x2F then .dcsIntermediate
        else if within 0x30 0x3F then .dcsParameter
        else if within 0x40 0x7E then .controlString
        else .dcsEntry
    | .dcsParameter =>
        if within 0x20 0x2F then .dcsIntermediate
        else if within 0x3C 0x7E then .controlString
        else .dcsParameter
    | .dcsIntermediate => if within 0x30 0x7E then .controlString else .dcsIntermediate
    | .controlString => .controlString
    | .osc => if code = 0x07 then .ground else .osc

/-- Whether control characters act in a state.  In strings they are data. -/
def actsOnControls : State → Bool
  | .ground | .escape | .escapeIntermediate => true
  | .csiEntry | .csiParameter | .csiIntermediate | .csiIgnore => true
  | .dcsEntry | .dcsParameter | .dcsIntermediate | .controlString | .osc => false

end State

/-- White space among the control characters: tab, line feed, form feed and carriage
return. -/
def isSpaceControl (code : Nat) : Bool :=
  code == 0x09 || code == 0x0A || code == 0x0C || code == 0x0D

/-- ASCII characters that have a glyph, the space included. -/
def isGraphic (code : Nat) : Bool :=
  0x20 ≤ code && code < 0x7F

/-- Whether the byte `9C`, which terminates control strings, is in the UTF-8 encoding
of a code point beyond ASCII. -/
def holdsTerminator (code : Nat) : Bool :=
  code % 64 == 0x1C || (0x800 ≤ code && code / 64 % 64 == 0x1C) ||
    (0x10000 ≤ code && code / 4096 % 64 == 0x1C)

/-- What a reader does at the moment. -/
structure Reader where
  printing : Bool
  state : State
deriving Repr, DecidableEq

namespace Reader

/-- Skip a character, or start to print with it.  The answer tells whether it is
shown. -/
def skip (state : State) (c : Char) : Reader × Bool :=
  if 0x80 ≤ c.toNat then
    match state with
    | .ground => (⟨true, .ground⟩, true)
    | .controlString =>
        (⟨false, if holdsTerminator c.toNat then .ground else .controlString⟩, false)
    | _ => (⟨false, state⟩, false)
  else
    let shown :=
      (state = .ground && isGraphic c.toNat) ||
        (state.actsOnControls && isSpaceControl c.toNat)
    (⟨shown, state.advance c.toNat⟩, shown)

/-- Read a character. -/
def step (reader : Reader) (c : Char) : Reader × Bool :=
  if !reader.printing then skip reader.state c
  else if 0x80 ≤ c.toNat then (⟨true, .ground⟩, true)
  else if isGraphic c.toNat || isSpaceControl c.toNat then (reader, true)
  else skip reader.state c

end Reader

end ControlSequence

/-- What is shown of a text where there is no terminal: everything apart from control
sequences and control characters that are not white space. -/
def Text.withoutControls (text : Text) : Text :=
  (text.foldl
    (fun (reader, shown) c =>
      match ControlSequence.Reader.step reader c with
      | (reader, true) => (reader, c :: shown)
      | (reader, false) => (reader, shown))
    ((⟨false, .ground⟩ : ControlSequence.Reader), ([] : Text))).2.reverse

end MakefileNav
