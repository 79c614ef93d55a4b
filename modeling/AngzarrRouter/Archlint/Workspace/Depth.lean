import AngzarrRouter.Archlint.Scan.Depth
import AngzarrRouter.Archlint.Workspace.Written

open calls calls.MutCall
open text archlint.model archlint.scan archlint.syntax

namespace archlint.workspace

section

variable {α : Type} {body longer : Scanner → α → MutCall Scanner String Unit} {p : α → Prop}

/-- A loop runs out where one of its passes does. -/
theorem runsOut_for_each (hbody : ∀ scanner item, RunsOut (body scanner item) (p item))
    (scanner : Scanner) (items : List α) :
    RunsOut (for_each body scanner items) (∃ item ∈ items, p item) := by
  induction items generalizing scanner with
  | nil => exact (RunsOut.done scanner).congr (by simp)
  | cons item items ih =>
    rw [for_each_cons]
    exact ((hbody scanner item).andThen ih).congr (by rw [List.exists_mem_cons_iff])

/-- A loop lasts on a larger stack if its body does. -/
theorem lasts_for_each (hbody : ∀ scanner item, Lasts (body scanner item) (longer scanner item))
    (scanner : Scanner) (items : List α) :
    Lasts (for_each body scanner items) (for_each longer scanner items) := by
  induction items generalizing scanner with
  | nil => exact fun _ => rfl
  | cons item items ih =>
    rw [for_each_cons, for_each_cons]
    exact (hbody scanner item).andThen ih

end

section

variable [Alphanumeric] {sources : Sources} {stack larger depth : Nat} {metadata : Metadata}

/-- A target of the workspace whose modules are declared in a chain of files,
so many below its own. -/
def HasDeep (sources : Sources) (metadata : Metadata) (depth : Nat) : Prop :=
  ∃ p ∈ metadata.packages, ∃ t, FirstOfRoot p.lib_name p.targets t ∧
    Deep sources depth (t.ctx p.lib_name)

/-- A package's targets run out where a fresh one of them does. -/
theorem runsOut_add_targets (p : Package) (scanner : Scanner) (seen : BTreeSet)
    (targets : List Target) :
    RunsOut (add_targets sources stack p scanner seen targets)
      (∃ t, Fresh p.lib_name seen targets t ∧ Deep sources stack (t.ctx p.lib_name)) := by
  induction targets generalizing scanner seen with
  | nil => exact (RunsOut.done scanner).congr (by simp [fresh_nil])
  | cons target targets ih =>
    unfold add_targets
    dsimp only
    split
    · rename_i hseen
      simp only [fresh_cons_of_mem (Std.ExtTreeSet.contains_iff_mem.mp hseen)]
      exact ih scanner seen
    · rename_i hseen
      simp only [fresh_cons_of_not_mem (mt Std.ExtTreeSet.contains_iff_mem.mpr hseen)]
      have hadded := runsOut_walk_file sources stack (target.root_module p.lib_name)
        { scanner with known := scanner.known.insert (target.root_module p.lib_name) p.known }
        (target.ctx p.lib_name)
      refine (hadded.andThen fun scanner => ih scanner _).congr ?_
      simp only [or_and_right, exists_or, exists_eq_left]

theorem lasts_add_targets (hlarger : stack ≤ larger) (p : Package) (scanner : Scanner)
    (seen : BTreeSet) (targets : List Target) :
    Lasts (add_targets sources stack p scanner seen targets)
      (add_targets sources larger p scanner seen targets) := by
  induction targets generalizing scanner seen with
  | nil => exact fun _ => rfl
  | cons target targets ih =>
    unfold add_targets
    dsimp only
    split
    · exact ih scanner seen
    · exact (lasts_walk_file sources hlarger _ _ _).andThen fun scanner => ih scanner _

/-- A package runs out where the first target of some root does. -/
theorem runsOut_scan_package (p : Package) (scanner : Scanner) :
    RunsOut (scan_package sources stack metadata scanner p)
      (∃ t, FirstOfRoot p.lib_name p.targets t ∧ Deep sources stack (t.ctx p.lib_name)) := by
  refine ((runsOut_add_targets p scanner ∅ p.targets).andThen fun scanner => RunsOut.done _).congr ?_
  simp only [fresh_empty, or_false]

/-- A scan of a workspace dies only where a target's modules are declared in a
chain of as many files as its stack holds, and ends well only where none are. -/
theorem runsOut_scan_workspace :
    (scan_workspace sources stack metadata = .panic → HasDeep sources metadata stack) ∧
      ∀ scanner, scan_workspace sources stack metadata = .ok scanner →
        ¬ HasDeep sources metadata stack := by
  have hpackage : ∀ scanner p, RunsOut (scan_package sources stack metadata scanner p)
      (∃ t, FirstOfRoot p.lib_name p.targets t ∧ Deep sources stack (t.ctx p.lib_name)) :=
    fun scanner p => runsOut_scan_package p scanner
  have hpackages := runsOut_for_each hpackage
    (metadata.packages.foldl (fun scanner package => scanner.add_workspace_crate package.lib_name)
      (.new metadata.workspace_root)) metadata.packages
  unfold scan_workspace
  dsimp only
  revert hpackages
  generalize for_each _ _ metadata.packages = call
  intro hpackages
  obtain ⟨scanner, ⟨⟩ | error | _⟩ := call
  · exact ⟨nofun, fun _ _ => hpackages.of_ok rfl⟩
  · exact ⟨nofun, nofun⟩
  · exact ⟨fun _ => hpackages.of_panic rfl, nofun⟩

/-- A scan that its stack suffices for comes out the same with a larger one. -/
theorem scan_workspace_lasts (hlarger : stack ≤ larger)
    (hends : scan_workspace sources stack metadata ≠ .panic) :
    scan_workspace sources larger metadata = scan_workspace sources stack metadata := by
  have hpackage : ∀ scanner p, Lasts (scan_package sources stack metadata scanner p)
      (scan_package sources larger metadata scanner p) := fun scanner p =>
    (lasts_add_targets hlarger p scanner ∅ p.targets).andThen fun _ _ => rfl
  have hlasts := lasts_for_each hpackage (metadata.packages.foldl (fun scanner package =>
    scanner.add_workspace_crate package.lib_name) (.new metadata.workspace_root)) metadata.packages
  unfold scan_workspace at hends ⊢
  dsimp only at hends ⊢
  rw [hlasts fun hpanic => hends ?_]
  rw [owned_eq_panic_iff.mpr hpanic]
  rfl

/-- Where modules lie in the files that their names say, a scan ends for any
workspace, and with one result whatever its stack: one file deeper than the
files' paths is enough. -/
theorem scan_workspace_ends (hsources : Conventional sources depth) (metadata : Metadata) :
    scan_workspace sources (depth + 1) metadata ≠ .panic ∧ ∀ stack, depth < stack →
      scan_workspace sources stack metadata = scan_workspace sources (depth + 1) metadata := by
  have hends : scan_workspace sources (depth + 1) metadata ≠ .panic := by
    intro hpanic
    obtain ⟨p, _, t, _, hdeep⟩ := runsOut_scan_workspace.1 hpanic
    exact hsources.not_deep _ hdeep
  exact ⟨hends, fun stack hstack => scan_workspace_lasts hstack hends⟩

end

section

/-- Source files of one text, which declares a module `a` under attributes. -/
def shelf.declaring (text : String) (attrs : List Attribute) : Sources where
  read _ := some text
  is_file _ := true
  parse_file source := .ok (if source = text then [.Mod attrs ⟨"a", by decide, by decide⟩ none] else [])

/-- A file that is its own module, by its path. -/
def shelf.cycle : Sources :=
  shelf.declaring "#[path = \"lib.rs\"]\nmod a;\n"
    [{ ident := some "path", contents := .NameValue (some "lib.rs") }]

theorem runsOut_scan_workspace_shelf : HasDeep shelf.cycle (shelf.metadata none) 3 ∧
    ¬ HasDeep blank (shelf.metadata none) 1 := by
  obtain ⟨scanner, hscan⟩ : ∃ scanner, scan_workspace blank 1 (shelf.metadata none) = .ok scanner :=
    ⟨_, rfl⟩
  exact ⟨runsOut_scan_workspace.1 (by rfl), runsOut_scan_workspace.2 scanner hscan⟩

/-- Source files that each declare a module `a`, down to six components. -/
def shelf.nested : Sources :=
  { shelf.declaring "mod a;\n" [] with is_file := fun path => decide (path.components.length ≤ 6) }

theorem shelf.conventional : Conventional shelf.nested 6 := by
  have hmod : ∀ {path source items attrs ident}, shelf.nested.read path = some source →
      shelf.nested.parse_file source = .ok items →
        HasMod items attrs ident → attrs = [] ∧ ident.to_string = "a" := by
    intro path source items attrs ident hread hparse hmod
    obtain rfl : "mod a;\n" = source := Option.some.inj hread
    obtain rfl : [.Mod [] ⟨"a", by decide, by decide⟩ none] = items := Except.ok.inj hparse
    cases hmod with
    | here hitem =>
      obtain ⟨rfl, rfl, _⟩ := Item.Mod.inj (List.mem_singleton.mp hitem)
      exact ⟨rfl, rfl⟩
    | inside hitem _ => exact absurd (Item.Mod.inj (List.mem_singleton.mp hitem)).2.2 nofun
  refine ⟨fun path hfile => of_decide_eq_true hfile, fun hread hparse hmods => ?_,
    fun hread hparse hmods => ?_⟩
  · rw [(hmod hread hparse hmods).1]
    rfl
  · rw [(hmod hread hparse hmods).2]
    exact ⟨by decide, by decide⟩

theorem scan_workspace_ends_shelf :
    scan_workspace shelf.nested 7 (shelf.metadata none) ≠ .panic ∧ ∀ stack, 6 < stack →
      scan_workspace shelf.nested stack (shelf.metadata none) =
        scan_workspace shelf.nested 7 (shelf.metadata none) :=
  scan_workspace_ends shelf.conventional (shelf.metadata none)

end

end archlint.workspace
