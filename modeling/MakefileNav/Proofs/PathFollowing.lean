/-
Module: MakefileNav.Proofs.PathFollowing
Purpose: Where the steps of a path lead in a tree of files.
Main exports:
  Disk.Leads, Disk.walk_eq_ok_iff, Disk.Leads.append_names, Disk.Leads.filter_dots,
  Disk.Leads.unique, Disk.read_eq_ok_iff, Disk.exists_canonical?_of_read,
  Disk.locate_eq_of_same, Disk.locate_names
-/
import MakefileNav.Proofs.PathComponents

namespace MakefileNav

namespace Disk

/-!
Following a path is a computation with a budget of links.  `Leads` describes its successful
runs by one rule for each kind of step, and looks at the tree only through what it shows at
single places.  The facts about paths are inductions over these runs: dots may be left out,
a place is reached in one way only, and names that follow a path are entered one by one.
-/

/-! ### Runs -/

/-- A step that goes down from a directory. -/
def GoesDown (step : Text) : Prop :=
  step ≠ ['.'] ∧ step ≠ ['.', '.'] ∧ step.byteLength ≤ nameLimit

theorem goesDown_of_isEntryName {name : Text} (isName : Node.IsEntryName name) :
    GoesDown name :=
  ⟨isName.2.1, isName.2.2.1, isName.2.2.2.2.2⟩

/-- Steps lead from one place of a tree to another, through a number of links at most. -/
inductive Leads (root : Node) (ending : Ending) :
    Nat → List Text → List Text → List Text → Prop where
  | done {links : Nat} {here : List Text} : Leads root ending links here [] here
  /-- A dot stays in a directory. -/
  | stay {links : Nat} {here rest place : List Text}
      (inDirectory : root.outline? here = some .directory)
      (next : Leads root ending links here rest place) :
      Leads root ending links here (['.'] :: rest) place
  /-- Two dots leave a directory. -/
  | leave {links : Nat} {here rest place : List Text}
      (inDirectory : root.outline? here = some .directory)
      (next : Leads root ending links here.dropLast rest place) :
      Leads root ending links here (['.', '.'] :: rest) place
  /-- A name leads to a file or a directory. -/
  | enter {links : Nat} {here rest place : List Text} {step : Text} {shown : Node.Outline}
      (inDirectory : root.outline? here = some .directory) (down : GoesDown step)
      (found : root.outline? (here ++ [step]) = some shown)
      (noLink : ∀ target, shown ≠ .link target)
      (next : Leads root ending links (here ++ [step]) rest place) :
      Leads root ending links here (step :: rest) place
  /-- A link at the end may be kept. -/
  | keep {links : Nat} {here : List Text} {step target : Text}
      (inDirectory : root.outline? here = some .directory) (down : GoesDown step)
      (found : root.outline? (here ++ [step]) = some (.link target))
      (kept : ending = .keepLink) :
      Leads root ending links here [step] (here ++ [step])
  /-- Any other link is replaced by the steps of its target. -/
  | follow {links : Nat} {here rest place : List Text} {step target : Text}
      (inDirectory : root.outline? here = some .directory) (down : GoesDown step)
      (found : root.outline? (here ++ [step]) = some (.link target))
      (followed : ¬(rest = [] ∧ ending = .keepLink)) (nonempty : target ≠ [])
      (next : Leads root ending links (startOf here target) (steps target ++ rest) place) :
      Leads root ending (links + 1) here (step :: rest) place

variable {root : Node} {ending : Ending}

section Adequacy

/-- Going down from a directory depends on what is found there. -/
theorem takeSteps_down {follow : List Text → List Text → Except Fault (List Text)}
    {here rest : List Text} {step : Text} (inDirectory : root.outline? here = some .directory)
    (down : GoesDown step) (notMake : ending ≠ .make) :
    takeSteps root ending follow here (step :: rest) =
      match root.outline? (here ++ [step]) with
      | none => .error .notFound
      | some (.link target) =>
          if rest = [] ∧ ending = .keepLink then .ok (here ++ [step])
          else if target = [] then .error .notFound
          else follow (startOf here target) (steps target ++ rest)
      | some _ => takeSteps root ending follow (here ++ [step]) rest := by
  obtain ⟨entries, found⟩ := Node.outline?_eq_directory_iff.mp inDirectory
  obtain ⟨notDot, notDots, short⟩ := down
  rw [Node.outline?_append found, Node.outline?_directory_cons, takeSteps]
  simp only [found, notDot, notDots, Nat.not_lt.mpr short, if_false]
  cases entries.lookup step with
  | none => simp [notMake]
  | some node => cases node <;> rfl

/-- Where steps lead, given that links are followed to where they lead. -/
theorem leads_of_takeSteps {follow : List Text → List Text → Except Fault (List Text)}
    {links : Nat} (notMake : ending ≠ .make)
    (sound : ∀ here steps place, follow here steps = .ok place →
      ∃ fewer, links = fewer + 1 ∧ Leads root ending fewer here steps place)
    {here steps place : List Text}
    (taken : takeSteps root ending follow here steps = .ok place) :
    Leads root ending links here steps place := by
  induction steps generalizing here with
  | nil =>
      cases taken
      exact .done
  | cons step rest ih =>
      by_cases inDirectory : root.outline? here = some .directory
      · obtain ⟨entries, found⟩ := Node.outline?_eq_directory_iff.mp inDirectory
        by_cases dot : step = ['.']
        · subst dot
          simp only [takeSteps, found, if_true] at taken
          exact .stay inDirectory (ih taken)
        by_cases dots : step = ['.', '.']
        · subst dots
          simp only [takeSteps, found, dot, if_false, if_true] at taken
          exact .leave inDirectory (ih taken)
        by_cases long : nameLimit < step.byteLength
        · simp [takeSteps, found, dot, dots, long] at taken
        have down : GoesDown step := ⟨dot, dots, Nat.not_lt.mp long⟩
        rw [takeSteps_down inDirectory down notMake] at taken
        split at taken
        · cases taken
        · rename_i target foundLink
          split at taken
          · rename_i kept
            cases taken
            obtain rfl := kept.1
            exact .keep inDirectory down foundLink kept.2
          · rename_i followed
            split at taken
            · cases taken
            · rename_i nonempty
              obtain ⟨fewer, rfl, next⟩ := sound _ _ _ taken
              exact .follow inDirectory down foundLink followed nonempty next
        · rename_i shown noLink foundNode
          refine .enter inDirectory down foundNode ?_ (ih taken)
          rintro target rfl
          exact noLink target rfl
      · -- Nothing can be done outside of a directory.
        have outside : takeSteps root ending follow here (step :: rest) = .error .notDirectory := by
          rw [takeSteps]
          split
          · rename_i entries found
            exact absurd (Node.outline?_eq_directory_iff.mpr ⟨entries, found⟩) inDirectory
          · rfl
        rw [outside] at taken
        cases taken

theorem leads_of_walk (notMake : ending ≠ .make) {links : Nat} {here steps place : List Text}
    (walked : walk root ending links here steps = .ok place) :
    Leads root ending links here steps place := by
  induction links generalizing here steps place with
  | zero =>
      refine leads_of_takeSteps notMake ?_ walked
      intro _ _ _ impossible
      cases impossible
  | succ fewer ih =>
      refine leads_of_takeSteps notMake ?_ walked
      intro _ _ _ followed
      exact ⟨fewer, rfl, ih followed⟩

/-- What a walk does with a link. -/
def followWithin (root : Node) (ending : Ending) :
    Nat → List Text → List Text → Except Fault (List Text)
  | 0 => fun _ _ => .error .tooManyLinks
  | links + 1 => walk root ending links

theorem walk_eq (links : Nat) :
    walk root ending links = takeSteps root ending (followWithin root ending links) := by
  cases links <;> rfl

theorem walk_of_leads (notMake : ending ≠ .make) {links : Nat} {here steps place : List Text}
    (leads : Leads root ending links here steps place) :
    walk root ending links here steps = .ok place := by
  induction leads with
  | done => rw [walk_eq, takeSteps]
  | stay inDirectory _ ih =>
      obtain ⟨entries, found⟩ := Node.outline?_eq_directory_iff.mp inDirectory
      rw [walk_eq] at ih ⊢
      simpa only [takeSteps, found, if_true] using ih
  | leave inDirectory _ ih =>
      obtain ⟨entries, found⟩ := Node.outline?_eq_directory_iff.mp inDirectory
      rw [walk_eq] at ih ⊢
      simpa [takeSteps, found] using ih
  | @enter links here rest place step shown inDirectory down found noLink _ ih =>
      rw [walk_eq] at ih ⊢
      rw [takeSteps_down inDirectory down notMake, found]
      cases shown with
      | link target => exact absurd rfl (noLink target)
      | file bytes => exact ih
      | directory => exact ih
  | keep inDirectory down found kept =>
      rw [walk_eq, takeSteps_down inDirectory down notMake, found]
      simp [kept]
  | follow inDirectory down found followed nonempty _ ih =>
      rw [walk_eq, takeSteps_down inDirectory down notMake, found]
      simpa only [followed, nonempty, if_false, followWithin] using ih

/-- A walk succeeds exactly with what the rules lead to. -/
theorem walk_eq_ok_iff (notMake : ending ≠ .make) {links : Nat} {here steps place : List Text} :
    walk root ending links here steps = .ok place ↔ Leads root ending links here steps place :=
  ⟨leads_of_walk notMake, walk_of_leads notMake⟩

end Adequacy

/-! ### What runs have in common -/

variable {links : Nat} {here steps place : List Text}

/-- Outside of a directory no step can be taken. -/
theorem Leads.eq_of_not_directory (leads : Leads root ending links here steps place)
    (outside : root.outline? here ≠ some .directory) : steps = [] ∧ place = here := by
  cases leads with
  | done => exact ⟨rfl, rfl⟩
  | stay inDirectory _ => exact absurd inDirectory outside
  | leave inDirectory _ => exact absurd inDirectory outside
  | enter inDirectory _ _ _ _ => exact absurd inDirectory outside
  | keep inDirectory _ _ _ => exact absurd inDirectory outside
  | follow inDirectory _ _ _ _ _ => exact absurd inDirectory outside

theorem Leads.unique (notMake : ending ≠ .make) {other : List Text}
    (leads : Leads root ending links here steps place)
    (leads' : Leads root ending links here steps other) : place = other := by
  have walked := walk_of_leads notMake leads
  rw [walk_of_leads notMake leads'] at walked
  exact (Except.ok.inj walked).symm

/-- A dot can be left out.  It may come after a link, and then it is left out behind the
steps of the target. -/
theorem Leads.drop_dot (leads : Leads root .followLink links here steps place) :
    ∀ {before after : List Text}, steps = before ++ ['.'] :: after →
      Leads root .followLink links here (before ++ after) place := by
  induction leads with
  | done =>
      intro before after split
      cases before <;> cases split
  | stay inDirectory next ih =>
      intro before after split
      cases before with
      | nil =>
          cases split
          exact next
      | cons step before =>
          obtain ⟨rfl, rfl⟩ := List.cons.inj split
          exact .stay inDirectory (ih rfl)
  | leave inDirectory next ih =>
      intro before after split
      cases before with
      | nil => cases split
      | cons step before =>
          obtain ⟨rfl, rfl⟩ := List.cons.inj split
          exact .leave inDirectory (ih rfl)
  | enter inDirectory down found noLink next ih =>
      intro before after split
      cases before with
      | nil =>
          cases split
          exact absurd rfl down.1
      | cons step before =>
          obtain ⟨rfl, rfl⟩ := List.cons.inj split
          exact .enter inDirectory down found noLink (ih rfl)
  | keep _ _ _ kept => cases kept
  | follow inDirectory down found followed nonempty next ih =>
      intro before after split
      cases before with
      | nil =>
          cases split
          exact absurd rfl down.1
      | cons step before =>
          obtain ⟨rfl, rfl⟩ := List.cons.inj split
          have shorter := ih (List.append_assoc _ _ _).symm
          rw [List.append_assoc] at shorter
          exact .follow inDirectory down found (by simp) nonempty shorter

theorem Leads.filter_dots_after (before : List Text)
    (leads : Leads root .followLink links here (before ++ steps) place) :
    Leads root .followLink links here (before ++ steps.filter (· ≠ ['.'])) place := by
  induction steps generalizing before with
  | nil => exact leads
  | cons step rest ih =>
      by_cases dot : step = ['.']
      · subst dot
        simpa using ih before (leads.drop_dot rfl)
      · rw [List.filter_cons_of_pos (by simpa using dot)]
        rw [List.append_cons] at leads ⊢
        exact ih (before ++ [step]) leads

/-- All dots can be left out. -/
theorem Leads.filter_dots (leads : Leads root .followLink links here steps place) :
    Leads root .followLink links here (steps.filter (· ≠ ['.'])) place :=
  filter_dots_after [] leads

/-- Names that are found below a place are entered one after the other. -/
theorem leads_names {names : List Text} {shown : Node.Outline}
    (areNames : ∀ name ∈ names, Node.IsEntryName name)
    (found : root.outline? (here ++ names) = some shown) (noLink : ∀ target, shown ≠ .link target) :
    Leads root ending links here names (here ++ names) := by
  induction names generalizing here with
  | nil =>
      rw [List.append_nil]
      exact .done
  | cons name rest ih =>
      obtain ⟨isName, areNames⟩ := List.forall_mem_cons.mp areNames
      obtain ⟨top, foundHere, foundBelow⟩ : ∃ top, root.at? here = some top ∧
          top.outline? (name :: rest) = some shown := by
        cases foundHere : root.at? here with
        | none => simp [Node.outline?, Node.at?_append, foundHere] at found
        | some top => exact ⟨top, rfl, by rwa [Node.outline?_append foundHere] at found⟩
      obtain ⟨entries, child, rfl, entry, below⟩ := Node.outline?_cons foundBelow
      have inDirectory : root.outline? here = some .directory :=
        Node.outline?_eq_directory_iff.mpr ⟨entries, foundHere⟩
      have foundNext : root.outline? (here ++ [name]) = some child.outline := by
        rw [Node.outline?_append foundHere, Node.outline?_directory_cons, entry]
        rfl
      rw [List.append_cons] at found ⊢
      refine .enter inDirectory (goesDown_of_isEntryName isName) foundNext ?_ (ih areNames found)
      cases rest with
      | nil =>
          obtain rfl : child.outline = shown := by simpa using below
          exact noLink
      | cons next others =>
          obtain ⟨_, _, rfl, _⟩ := Node.outline?_cons below
          intro target isLink
          cases isLink

/-- Names that follow a path are looked for where the path leads. -/
theorem Leads.append_names (leads : Leads root .followLink links here steps place)
    {names : List Text} {shown : Node.Outline}
    (areNames : ∀ name ∈ names, Node.IsEntryName name)
    (found : root.outline? (place ++ names) = some shown)
    (noLink : ∀ target, shown ≠ .link target) :
    Leads root .followLink links here (steps ++ names) (place ++ names) := by
  induction leads with
  | done => exact leads_names areNames found noLink
  | stay inDirectory _ ih => exact .stay inDirectory (ih found)
  | leave inDirectory _ ih => exact .leave inDirectory (ih found)
  | enter inDirectory down foundStep noLinkStep _ ih =>
      exact .enter inDirectory down foundStep noLinkStep (ih found)
  | keep _ _ _ kept => cases kept
  | follow inDirectory down foundLink _ nonempty _ ih =>
      have longer := ih found
      rw [List.append_assoc] at longer
      exact .follow inDirectory down foundLink (by simp) nonempty longer

/-! ### Links at the end -/

/-- Where no link is at the end, it makes no difference what is done with one. -/
theorem Leads.followLink_of_keepLink (leads : Leads root .keepLink links here steps place)
    (noLink : ∀ target, root.outline? place ≠ some (.link target)) :
    Leads root .followLink links here steps place := by
  induction leads with
  | done => exact .done
  | stay inDirectory _ ih => exact .stay inDirectory (ih noLink)
  | leave inDirectory _ ih => exact .leave inDirectory (ih noLink)
  | enter inDirectory down found noLinkStep _ ih =>
      exact .enter inDirectory down found noLinkStep (ih noLink)
  | keep _ _ found _ => exact absurd found (noLink _)
  | follow inDirectory down found _ nonempty _ ih =>
      exact .follow inDirectory down found (by simp) nonempty (ih noLink)

/-- Steps that lead somewhere after all links lead there, or to a link, before the last. -/
theorem Leads.exists_keepLink (leads : Leads root .followLink links here steps place) :
    ∃ place', Leads root .keepLink links here steps place' ∧
      (place' = place ∨ ∃ target, root.outline? place' = some (.link target)) := by
  induction leads with
  | done => exact ⟨_, .done, Or.inl rfl⟩
  | stay inDirectory _ ih =>
      obtain ⟨place', next, last⟩ := ih
      exact ⟨place', .stay inDirectory next, last⟩
  | leave inDirectory _ ih =>
      obtain ⟨place', next, last⟩ := ih
      exact ⟨place', .leave inDirectory next, last⟩
  | enter inDirectory down found noLink _ ih =>
      obtain ⟨place', next, last⟩ := ih
      exact ⟨place', .enter inDirectory down found noLink next, last⟩
  | keep _ _ _ kept => cases kept
  | @follow links here rest place step target inDirectory down found _ nonempty _ ih =>
      by_cases last : rest = []
      · subst last
        exact ⟨here ++ [step], .keep inDirectory down found rfl, Or.inr ⟨target, found⟩⟩
      · obtain ⟨place', next, kept⟩ := ih
        exact ⟨place', .follow inDirectory down found (by simp [last]) nonempty next, kept⟩

/-! ### Paths on a disk -/

variable {disk : Disk} {path : Path}

theorem locate_eq_ok_iff (notMake : ending ≠ .make) :
    disk.locate ending path = .ok place ↔
      path.text ≠ [] ∧ Char.ofNat 0 ∉ path.text ∧
        Leads disk.root ending linkLimit (startOf disk.workingDirectory path.text)
          (Disk.steps path.text) place := by
  rw [← walk_eq_ok_iff notMake, locate]
  by_cases empty : path.text = []
  · simp [empty]
  · by_cases zero : Char.ofNat 0 ∈ path.text <;> simp [empty, zero]

/-- A path that is used as a whole has to be short, and that is all. -/
theorem resolve_eq_ok_iff (notMake : ending ≠ .make) :
    disk.resolve ending path = .ok place ↔
      admits path = true ∧ disk.locate ending path = .ok place := by
  rw [resolve]
  by_cases short : admits path = true
  · simp [short]
  · by_cases zero : Char.ofNat 0 ∈ path.text
    · have nowhere : disk.locate ending path ≠ .ok place := by
        intro located
        exact ((locate_eq_ok_iff notMake).mp located).2.1 zero
      simp [short, zero, nowhere]
    · simp [short, zero]

theorem resolve_followLink_of_keepLink (resolved : disk.resolve .keepLink path = .ok place)
    (noLink : ∀ target, disk.root.outline? place ≠ some (.link target)) :
    disk.resolve .followLink path = .ok place := by
  obtain ⟨short, located⟩ := (resolve_eq_ok_iff (by decide)).mp resolved
  obtain ⟨nonempty, noZero, leads⟩ := (locate_eq_ok_iff (by decide)).mp located
  exact (resolve_eq_ok_iff (by decide)).mpr ⟨short, (locate_eq_ok_iff (by decide)).mpr
    ⟨nonempty, noZero, leads.followLink_of_keepLink noLink⟩⟩

theorem exists_resolve_keepLink (resolved : disk.resolve .followLink path = .ok place) :
    ∃ place', disk.resolve .keepLink path = .ok place' ∧
      (place' = place ∨ ∃ target, disk.root.outline? place' = some (.link target)) := by
  obtain ⟨short, located⟩ := (resolve_eq_ok_iff (by decide)).mp resolved
  obtain ⟨nonempty, noZero, leads⟩ := (locate_eq_ok_iff (by decide)).mp located
  obtain ⟨place', kept, last⟩ := leads.exists_keepLink
  exact ⟨place', (resolve_eq_ok_iff (by decide)).mpr ⟨short, (locate_eq_ok_iff (by decide)).mpr
    ⟨nonempty, noZero, kept⟩⟩, last⟩

theorem status_eq_ok_iff {node : Node} :
    disk.status ending path = .ok node ↔
      ∃ place, disk.resolve ending path = .ok place ∧ disk.root.at? place = some node := by
  rw [status]
  cases disk.resolve ending path with
  | error fault => simp
  | ok place => cases found : disk.root.at? place <;> simp [found]

theorem canonical?_eq_some_iff :
    disk.canonical? path = some place ↔ disk.locate .followLink path = .ok place := by
  rw [canonical?]
  cases disk.locate .followLink path <;> simp

/-- Reading gives the text of the regular file that a path leads to. -/
theorem read_eq_ok_iff {text : Text} :
    disk.read path = .ok text ↔
      ∃ place bytes, disk.resolve .followLink path = .ok place ∧
        disk.root.outline? place = some (.file bytes) ∧ decode? bytes = some text := by
  rw [read, status]
  cases disk.resolve .followLink path with
  | error fault => simp
  | ok place =>
      cases found : disk.root.at? place with
      | none => simp [Node.outline?, found]
      | some node =>
          cases node with
          | file bytes =>
              cases decoded : decode? bytes <;>
                simp [Node.outline?, found, Node.outline, decoded]
          | directory entries => simp [Node.outline?, found, Node.outline]
          | link target => simp [Node.outline?, found, Node.outline]

/-- A path that can be used as a whole leads to its canonical place. -/
theorem canonical?_of_resolve (resolved : disk.resolve .followLink path = .ok place) :
    disk.canonical? path = some place :=
  canonical?_eq_some_iff.mpr ((resolve_eq_ok_iff (by decide)).mp resolved).2

/-- What can be read is in a regular file at the canonical place of its path. -/
theorem exists_canonical?_of_read {text : Text} (reading : disk.read path = .ok text) :
    ∃ place bytes, disk.canonical? path = some place ∧
      disk.root.outline? place = some (.file bytes) ∧ decode? bytes = some text := by
  obtain ⟨place, bytes, resolved, isFile, decoded⟩ := read_eq_ok_iff.mp reading
  exact ⟨place, bytes, canonical?_of_resolve resolved, isFile, decoded⟩

/-- Two spellings of a path that both lead somewhere lead to the same place. -/
theorem locate_eq_of_same {other : Path} {place' : List Text} (same : path.same other = true)
    (located : disk.locate .followLink path = .ok place)
    (located' : disk.locate .followLink other = .ok place') : place = place' := by
  have notMake : Ending.followLink ≠ .make := by decide
  have components := Path.same_iff.mp same
  have leads := ((locate_eq_ok_iff notMake).mp located).2.2.filter_dots
  have leads' := ((locate_eq_ok_iff notMake).mp located').2.2.filter_dots
  rw [Path.startOf_eq, Path.filter_steps] at leads leads'
  rw [components] at leads
  exact leads.unique notMake leads'

/-- If the path of what names lead to below a place can be followed, it leads there. -/
theorem locate_names {names : List Text} {shown : Node.Outline} {place' : List Text}
    (areNames : ∀ name ∈ names, Node.IsEntryName name)
    (located : disk.locate .followLink path = .ok place)
    (found : disk.root.outline? (place ++ names) = some shown)
    (noLink : ∀ target, shown ≠ .link target)
    (located' : disk.locate .followLink (names.foldl Path.child path) = .ok place') :
    place' = place ++ names := by
  have notMake : Ending.followLink ≠ .make := by decide
  have leads := ((locate_eq_ok_iff notMake).mp located).2.2.filter_dots
  have leads' := ((locate_eq_ok_iff notMake).mp located').2.2.filter_dots
  have components := Path.components_foldl_child path areNames
  have steps : (names.map Path.Component.name).filterMap Path.Component.step? = names := by
    rw [List.filterMap_map]
    exact List.filterMap_some
  rw [Path.filter_steps, components, List.filterMap_append, steps, ← Path.filter_steps] at leads'
  have start : startOf disk.workingDirectory (names.foldl Path.child path).text =
      startOf disk.workingDirectory path.text := by
    rw [Path.startOf_eq, Path.startOf_eq, components]
    cases path.components <;> cases names <;> simp
  rw [start] at leads'
  exact leads'.unique notMake (leads.append_names areNames found noLink)

end Disk

end MakefileNav
