/-
Module: MakefileNav.Proofs.FindingOrder
Purpose: In which order the findings in a document are listed.
Main exports:
  Lint.sweep_pairwise_line, Lint.exists_filter_sweep, Lint.LineOrder, Lint.lineOrder_checkLine,
  variables_pairwise_line, Lint.unusedVariables_pairwise_line, findings_in_order
-/
import MakefileNav.Proofs.LintFindings

namespace MakefileNav

/-!
The checks of the lines append to one list, and the search for unused variables goes on behind
it.  The first part is in the order of the lines because every finding names the line that it
is made on, whatever is carried from line to line.  The second part is in the order of the
declarations, and since no line assigns to two variables these are on different lines.
-/

namespace Lint

/-! ### Line after line -/

section Sweep

variable {check : Nat → Option Text → Text → List Diagnostic}

/-- Each finding names the line that it is made on, as far as there are numbers for lines. -/
def NamesLine (check : Nat → Option Text → Text → List Diagnostic) : Prop :=
  ∀ number previous line, number < 2 ^ 32 → ∀ diagnostic ∈ check number previous line,
    diagnostic.range.start.line = number

variable (names : NamesLine check)

include names

theorem line_of_mem_sweep {previous : Option Text} {number : Nat} {lines : List Text}
    (few : number + lines.length ≤ 2 ^ 32) {diagnostic : Diagnostic}
    (found : diagnostic ∈ sweep check previous number lines) :
    number ≤ diagnostic.range.start.line ∧
      diagnostic.range.start.line < number + lines.length := by
  induction lines generalizing previous number with
  | nil => cases found
  | cons line rest ih =>
      rw [List.length_cons] at few ⊢
      rcases List.mem_append.mp found with here | later
      · have same := names number previous line (by omega) diagnostic here
        omega
      · have inRest := ih (by omega) later
        omega

theorem sweep_pairwise_line {previous : Option Text} {number : Nat} {lines : List Text}
    (few : number + lines.length ≤ 2 ^ 32) :
    (sweep check previous number lines).Pairwise fun left right =>
      left.range.start.line ≤ right.range.start.line := by
  induction lines generalizing previous number with
  | nil => exact .nil
  | cons line rest ih =>
      rw [List.length_cons] at few
      have onLine := names number previous line (by omega)
      rw [sweep, List.pairwise_append]
      refine ⟨?_, ih (by omega), ?_⟩
      · apply List.pairwise_of_forall_mem_list
        intro left leftFound right rightFound
        rw [onLine left leftFound, onLine right rightFound]
      · intro left leftFound right rightFound
        have after := (line_of_mem_sweep names (by omega) rightFound).1
        rw [onLine left leftFound]
        omega

/-- The findings that name a line are those that the check of this line makes, beside some line
before it. -/
theorem exists_filter_sweep (previous : Option Text) {number index : Nat} {lines : List Text}
    {line : Text} (few : number + lines.length ≤ 2 ^ 32) (found : lines[index]? = some line) :
    ∃ above, (sweep check previous number lines).filter
        (·.range.start.line = number + index) = check (number + index) above line := by
  induction lines generalizing previous number index with
  | nil => cases found
  | cons head rest ih =>
      rw [List.length_cons] at few
      have onHead := names number previous head (by omega)
      rw [sweep, List.filter_append]
      cases index with
      | zero =>
          cases found
          have here : (check number previous line).filter (·.range.start.line = number + 0) =
              check number previous line := by
            rw [List.filter_eq_self]
            intro diagnostic member
            exact decide_eq_true (onHead diagnostic member)
          have later : (sweep check (some line) (number + 1) rest).filter
              (·.range.start.line = number + 0) = [] := by
            rw [List.filter_eq_nil_iff]
            intro diagnostic member
            have after := (line_of_mem_sweep names (by omega) member).1
            rw [decide_eq_true_eq]
            omega
          exact ⟨previous, by rw [here, later, List.append_nil, Nat.add_zero]⟩
      | succ index =>
          have earlier : (check number previous head).filter
              (·.range.start.line = number + (index + 1)) = [] := by
            rw [List.filter_eq_nil_iff]
            intro diagnostic member
            rw [onHead diagnostic member, decide_eq_true_eq]
            omega
          have next : number + 1 + index = number + (index + 1) := by omega
          obtain ⟨above, inRest⟩ := @ih (some head) (number + 1) index (by omega) found
          rw [next] at inRest
          exact ⟨above, by rw [earlier, inRest, List.nil_append]⟩

end Sweep

/-! ### The findings on one line -/

theorem namesLine_checkLine (known targets : List Text) :
    NamesLine (checkLine known targets) := by
  intro number previous line inLines diagnostic reported
  obtain ⟨start, stop, range⟩ := exists_onLine_of_mem_checkLine reported
  rw [range]
  exact Position.clamp_of_lt inLines

/-- Tokens that come from left to right in a line are reported from left to right. -/
theorem pairwise_start_of_tokens {line : Text} {tokens : List Token} (finding : Text → Finding)
    (number : Nat) (short : Text.byteLength line < 2 ^ 32)
    (stand : ∀ token ∈ tokens, token.StandsIn line)
    (ordered : tokens.Pairwise fun left right => left.offset < right.offset) :
    (tokens.map fun token =>
        (⟨finding token.text, .onLine number token.offset token.stop⟩ : Diagnostic)).Pairwise
      fun left right => left.range.start.character < right.range.start.character := by
  have column : ∀ token ∈ tokens, Position.clamp token.offset = token.offset := by
    intro token member
    have inside := (stand token member).stop_le
    rw [Token.stop] at inside
    exact Position.clamp_of_lt (by omega)
  rw [List.pairwise_map]
  refine ordered.imp_of_mem ?_
  intro left right leftMember rightMember before
  simp only [TextRange.onLine, column left leftMember, column right rightMember]
  exact before

end Lint

theorem Line.dependencies_pairwise (line : Text) :
    (dependencies line).Pairwise fun left right => left.offset < right.offset := by
  unfold dependencies
  split
  · exact .nil
  · rename_i list _
    rw [List.pairwise_map]
    apply (Text.runs_pairwise (fun c => !isWhitespace c) list.text).imp
    intro left right apart
    rw [Token.stop] at apart
    rw [Token.shift_offset, Token.shift_offset]
    omega

namespace Lint

/-- How the findings on one line are listed: the missing tab, the undefined variables and the
undefined targets. -/
structure LineOrder (found tabs unset undeclared : List Diagnostic) : Prop where
  listed : found = tabs ++ (unset ++ undeclared)
  tab : ∀ diagnostic ∈ tabs, diagnostic.finding = .tabRequired
  oneTab : tabs.length ≤ 1
  ofVariable : ∀ diagnostic ∈ unset, ∃ name, diagnostic.finding = .undefinedVariable name
  /-- Undefined variables come from left to right. -/
  unsetAscend : unset.Pairwise fun left right =>
    left.range.start.character < right.range.start.character
  ofTarget : ∀ diagnostic ∈ undeclared, ∃ name, diagnostic.finding = .undefinedTarget name
  /-- Undefined targets come from left to right. -/
  undeclaredAscend : undeclared.Pairwise fun left right =>
    left.range.start.character < right.range.start.character

theorem LineOrder.nil : LineOrder [] [] [] [] where
  listed := rfl
  tab := List.forall_mem_nil _
  oneTab := Nat.zero_le 1
  ofVariable := List.forall_mem_nil _
  unsetAscend := .nil
  ofTarget := List.forall_mem_nil _
  undeclaredAscend := .nil

theorem lineOrder_checkLine (known targets : List Text) (number : Nat) (previous : Option Text)
    {line : Text} (short : Text.byteLength line < 2 ^ 32) :
    LineOrder (checkLine known targets number previous line)
      (tabRequired? number previous line).toList (undefinedVariables known number line)
      (undefinedTargets targets number line) where
  listed := List.append_assoc _ _ _
  tab _ reported := finding_of_tabRequired? (Option.mem_toList.mp reported)
  oneTab := Option.length_toList_le
  ofVariable _ := finding_of_mem_undefinedVariables
  unsetAscend := by
    apply pairwise_start_of_tokens .undefinedVariable number short
    · intro token kept
      exact Line.standsIn_of_mem_variableUses (List.mem_filter.mp kept).1
    · exact (Line.variableUses_pairwise line).filter _
  ofTarget _ := finding_of_mem_undefinedTargets
  undeclaredAscend := by
    apply pairwise_start_of_tokens .undefinedTarget number short
    · intro token kept
      exact Line.standsIn_of_mem_dependencies (List.mem_filter.mp kept).1
    · exact (Line.dependencies_pairwise line).filter _

/-- In the findings of all lines, those that name a line are in the order of a line. -/
theorem exists_lineOrder_filter {known targets lines : List Text}
    (few : lines.length ≤ 2 ^ 32) (short : ∀ line ∈ lines, Text.byteLength line < 2 ^ 32)
    (number : Nat) :
    ∃ tabs unset undeclared,
      LineOrder ((sweep (checkLine known targets) none 0 lines).filter
        (·.range.start.line = number)) tabs unset undeclared := by
  have few' : 0 + lines.length ≤ 2 ^ 32 := by omega
  have names := namesLine_checkLine known targets
  cases found : lines[number]? with
  | none =>
      have outside : (sweep (checkLine known targets) none 0 lines).filter
          (·.range.start.line = number) = [] := by
        rw [List.filter_eq_nil_iff]
        intro diagnostic member
        have inside := (line_of_mem_sweep names few' member).2
        rw [List.getElem?_eq_none_iff] at found
        rw [decide_eq_true_eq]
        omega
      rw [outside]
      exact ⟨[], [], [], .nil⟩
  | some line =>
      obtain ⟨above, here⟩ := exists_filter_sweep names none few' found
      rw [Nat.zero_add] at here
      rw [here]
      exact ⟨_, _, _, lineOrder_checkLine known targets number above
        (short line (List.mem_of_getElem? found))⟩

end Lint

/-! ### Unused variables -/

private theorem pairwise_of_length_le_one {α : Type} {R : α → α → Prop} {list : List α}
    (short : list.length ≤ 1) : list.Pairwise R := by
  match list with
  | [] => exact .nil
  | [_] => exact List.pairwise_singleton _ _
  | _ :: _ :: _ => simp at short

/-- The variables of a document are declared on one line after the other. -/
theorem variables_pairwise_line (file : Path) {text : Text} (few : text.lines.length ≤ 2 ^ 32) :
    ((declarations file text).filter (·.kind = .variable)).Pairwise fun left right =>
      left.range.start.line < right.range.start.line := by
  have ofLines : (declarations file text).filter (·.kind = .variable) =
      scanLines (fun number line =>
        (Line.declarations file number line).filter (·.kind = .variable)) 0 text.lines :=
    List.filter_flatMap ..
  have onLine : ∀ number line, text.lines[number]? = some line →
      ∀ symbol ∈ (Line.declarations file number line).filter (·.kind = .variable),
        symbol.range.start.line = number := by
    intro number line found symbol kept
    obtain ⟨_, _, rfl⟩ := List.mem_map.mp (List.mem_filter.mp kept).1
    obtain ⟨inside, _⟩ := List.getElem?_eq_some_iff.mp found
    exact Position.clamp_of_lt (Nat.lt_of_lt_of_le inside few)
  rw [ofLines]
  apply scanLines_pairwise
  · intro number line _
    exact pairwise_of_length_le_one (Line.declarations_once file number line .variable)
  · intro number line number' line' found found' before symbol declared symbol' declared'
    rw [onLine number line found symbol declared, onLine number' line' found' symbol' declared']
    exact before

namespace Lint

variable {file : Path} {text : Text}

theorem mem_unusedVariables_iff {diagnostic : Diagnostic} :
    diagnostic ∈ unusedVariables file text.lines (declarations file text) ↔
      ∃ symbol ∈ declarations file text, symbol.kind = .variable ∧
        usages file text symbol.name = [] ∧
        diagnostic = ⟨.unusedVariable symbol.name, symbol.range⟩ := by
  simp only [unusedVariables, List.mem_map, List.mem_filter, Bool.and_eq_true,
    decide_eq_true_eq, List.isEmpty_iff, and_assoc, @eq_comm _ _ diagnostic]
  rfl

/-- Unused variables are reported on one line after the other. -/
theorem unusedVariables_pairwise_line (file : Path) (few : text.lines.length ≤ 2 ^ 32) :
    (unusedVariables file text.lines (declarations file text)).Pairwise fun left right =>
      left.range.start.line < right.range.start.line := by
  have ordered := List.pairwise_filter.mp (variables_pairwise_line file few)
  rw [unusedVariables, List.pairwise_map, List.pairwise_filter]
  refine ordered.imp ?_
  intro left right before keptLeft keptRight
  rw [Bool.and_eq_true] at keptLeft keptRight
  exact before keptLeft.1 keptRight.1

/-- An unused variable is reported once, and a variable with usages is not. -/
theorem count_unusedVariables (few : text.lines.length ≤ 2 ^ 32) {symbol : Symbol}
    (declared : symbol ∈ declarations file text) (assigned : symbol.kind = .variable) :
    (unusedVariables file text.lines (declarations file text)).count
        ⟨.unusedVariable symbol.name, symbol.range⟩ =
      if usages file text symbol.name = [] then 1 else 0 := by
  have distinct : (unusedVariables file text.lines (declarations file text)).Nodup := by
    refine (unusedVariables_pairwise_line file few).imp ?_
    rintro left right before rfl
    exact Nat.lt_irrefl _ before
  have listed : ⟨.unusedVariable symbol.name, symbol.range⟩ ∈
      unusedVariables file text.lines (declarations file text) ↔
        usages file text symbol.name = [] := by
    rw [mem_unusedVariables_iff]
    constructor
    · rintro ⟨other, _, _, unused, same⟩
      obtain ⟨sameName, _⟩ := Diagnostic.mk.inj same
      rwa [Finding.unusedVariable.inj sameName]
    · intro unused
      exact ⟨symbol, declared, assigned, unused, rfl⟩
  rw [distinct.count]
  simp only [listed]

end Lint

/-! ### The findings of a document -/

/-- The findings in a document are those of its lines and behind them the unused variables.
The first are listed in the order of the lines, and on one line come a missing tab, the
undefined variables and the undefined targets, both from left to right.  The unused variables
are listed in the order of their declarations, each of which has a line of its own: a declared
variable is among them once if nothing uses it, and else it is not. -/
theorem findings_in_order (file : Path) {text : Text} (predefined : List Text)
    (few : text.lines.length ≤ 2 ^ 32)
    (short : ∀ line ∈ text.lines, Text.byteLength line < 2 ^ 32) :
    ∃ onLines unused, lint file text predefined = onLines ++ unused ∧
      (∀ diagnostic ∈ onLines, ∀ name, diagnostic.finding ≠ .unusedVariable name) ∧
      (onLines.Pairwise fun left right => left.range.start.line ≤ right.range.start.line) ∧
      (∀ number, ∃ tabs unset undeclared,
        Lint.LineOrder (onLines.filter (·.range.start.line = number)) tabs unset undeclared) ∧
      (∀ diagnostic ∈ unused, ∃ symbol ∈ declarations file text, symbol.kind = .variable ∧
        diagnostic = ⟨.unusedVariable symbol.name, symbol.range⟩) ∧
      (unused.Pairwise fun left right => left.range.start.line < right.range.start.line) ∧
      ∀ symbol ∈ declarations file text, symbol.kind = .variable →
        unused.count ⟨.unusedVariable symbol.name, symbol.range⟩ =
          if usages file text symbol.name = [] then 1 else 0 := by
  have few' : 0 + text.lines.length ≤ 2 ^ 32 := by omega
  refine ⟨_, _, lint_eq file text predefined, ?_,
    Lint.sweep_pairwise_line (Lint.namesLine_checkLine _ _) few',
    Lint.exists_lineOrder_filter few short, ?_, Lint.unusedVariables_pairwise_line file few,
    fun _ => Lint.count_unusedVariables few⟩
  · intro diagnostic reported name
    rw [← Lint.checkLines_eq] at reported
    obtain ⟨_, _, _, _, _, onLine⟩ := Lint.mem_checkLines_iff.mp reported
    rcases Lint.finding_of_mem_checkLine onLine with tab | ⟨_, unset⟩ | ⟨_, undeclared⟩
    · rw [tab]
      exact Finding.noConfusion
    · rw [unset]
      exact Finding.noConfusion
    · rw [undeclared]
      exact Finding.noConfusion
  · intro diagnostic reported
    obtain ⟨symbol, declared, assigned, _, same⟩ := Lint.mem_unusedVariables_iff.mp reported
    exact ⟨symbol, declared, assigned, same⟩

/-- All four kinds of findings, with the undefined variables of a line before its undefined
targets, and with the unused variable of the first line behind them. -/
theorem findings_in_order_all_kinds :
    let file : Path := ⟨['M']⟩
    let text : Text := "A=\nb:c $(X) d $(Y)\n $(Z)"
    let unusedA : Diagnostic := ⟨.unusedVariable ['A'], ⟨⟨0, 0⟩, ⟨0, 1⟩⟩⟩
    text.lines.length ≤ 2 ^ 32 ∧ (∀ line ∈ text.lines, Text.byteLength line < 2 ^ 32) ∧
      lint file text [] =
        [⟨.undefinedVariable ['X'], ⟨⟨1, 6⟩, ⟨1, 7⟩⟩⟩,
          ⟨.undefinedVariable ['Y'], ⟨⟨1, 13⟩, ⟨1, 14⟩⟩⟩,
          ⟨.undefinedTarget ['c'], ⟨⟨1, 2⟩, ⟨1, 3⟩⟩⟩, ⟨.undefinedTarget ['d'], ⟨⟨1, 9⟩, ⟨1, 10⟩⟩⟩,
          ⟨.tabRequired, ⟨⟨2, 0⟩, ⟨2, 1⟩⟩⟩, ⟨.undefinedVariable ['Z'], ⟨⟨2, 3⟩, ⟨2, 4⟩⟩⟩, unusedA] ∧
      ∃ onLines unused, lint file text [] = onLines ++ unused ∧
        (∃ tabs unset undeclared,
          Lint.LineOrder (onLines.filter (·.range.start.line = 1)) tabs unset undeclared) ∧
        unused.count unusedA = 1 := by
  intro file text unusedA
  have few : text.lines.length ≤ 2 ^ 32 := by decide
  have short : ∀ line ∈ text.lines, Text.byteLength line < 2 ^ 32 := by decide
  have declared : ⟨.variable, ['A'], ⟨file, ⟨⟨0, 0⟩, ⟨0, 1⟩⟩⟩⟩ ∈ declarations file text := by decide
  have unusedName : usages file text ['A'] = [] := by decide
  obtain ⟨onLines, unused, split, _, _, lines, _, _, once⟩ := findings_in_order file [] few short
  exact ⟨few, short, by decide, onLines, unused, split, lines 1,
    (once _ declared rfl).trans (if_pos unusedName)⟩

end MakefileNav
