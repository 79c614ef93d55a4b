import AngzarrRouter.Archlint.Scan.Registered

open text archlint.model archlint.syntax

namespace archlint.scan

/-- A path that resolving one may read: the one written, or one imported in the
referencing crate. -/
inductive Read (scanner : Scanner) (home : String) (segs : List String) : List String → Prop where
  | written : Read scanner home segs segs
  | imported {module name : String} {info : ModuleInfo} {path : List String}
    (hinfo : scanner.modules[module]? = some info) (hhome : info.root = home)
    (halias : info.aliases[name]? = some path) : Read scanner home segs path

/-- Where the whole of a path leads from a crate's root, by `self`, `super` and
child modules alone. -/
inductive Descends (scanner : Scanner) (root : String) : List String → String → Prop where
  | root : Descends scanner root [] root
  | up {path : List String} {cur : String} {info : ModuleInfo} (hcur : Descends scanner root path cur)
    (hinfo : scanner.modules[cur]? = some info) :
    Descends scanner root (path ++ ["super"]) (parent_of cur info.root)
  | stay {path : List String} {cur : String} (hcur : Descends scanner root path cur) :
    Descends scanner root (path ++ ["self"]) cur
  | child {path : List String} {cur seg : String} {info : ModuleInfo}
    (hcur : Descends scanner root path cur) (hinfo : scanner.modules[cur]? = some info)
    (hchild : seg ∈ info.children) : Descends scanner root (path ++ [seg]) (child_path cur seg)

section

variable (scanner : Scanner) (home : String) (segs : List String)

/-- A name that heads a path that is read. -/
def Heads (name : String) : Prop := ∃ rest, Read scanner home segs (name :: rest)

/-- A segment of a path that is read. -/
def Spelled (seg : String) : Prop := ∃ path, Read scanner home segs path ∧ seg ∈ path

/-- A module that a path written in `home` leads to: one of that crate, or one
of another that was named, and is reached from its root. -/
inductive Reached : String → Prop where
  | inside {target : String} {info : ModuleInfo} (hinfo : scanner.modules[target]? = some info)
    (hhome : info.root = home) : Reached target
  | descended {target : String} {info : ModuleInfo} {path : List String}
    (hinfo : scanner.modules[target]? = some info) (haway : info.root ≠ home)
    (hcrate : info.root ∈ scanner.workspace_crates) (hheads : Heads scanner home segs info.root)
    (hspelled : ∀ seg ∈ path, Spelled scanner home segs seg)
    (hpath : Descends scanner info.root path target) : Reached target

/-- Where a path written in `home` lands: at a module, or outside the
workspace, on a path that begins in the crate that was named. -/
inductive Lands : String → Prop where
  | reached {target : String} (htarget : Reached scanner home segs target) : Lands target
  | outside {name : String} {rest : List String} (hheads : Heads scanner home segs name)
    (houtside : Outside scanner name rest) : Lands (join name rest)

end

section

variable {scanner : Scanner} {home cur target name : String} {segs path rest : List String}
  {info : ModuleInfo} {depth : Nat}

/-- What holds of a resolution however many aliases it follows first holds of
all: it holds of one that may follow no more, and of each where it holds of the
next. -/
theorem depth_induction {P : Nat → Prop}
    (hstep : ∀ depth, (depth < ALIAS_DEPTH → P (depth + 1)) → P depth) (depth : Nat) : P depth := by
  induction hleft : ALIAS_DEPTH - depth generalizing depth with
  | zero => exact hstep depth fun hdepth => by omega
  | succ left ih => exact hstep depth fun hdepth => ih (depth + 1) (by omega)

/-- What is read is made of segments. -/
theorem Read.segments (hforest : Forest scanner) (hsegs : Segments segs)
    (hread : Read scanner home segs path) : Segments path := by
  cases hread with
  | written => exact hsegs
  | imported hinfo _ halias => exact (hforest.entry hinfo).aliases _ _ halias

theorem Spelled.segment (hforest : Forest scanner) (hsegs : Segments segs) {seg : String}
    (hspelled : Spelled scanner home segs seg) : Segment seg := by
  obtain ⟨path, hread, hseg⟩ := hspelled
  exact hread.segments hforest hsegs seg hseg

theorem Read.spelled (hread : Read scanner home segs (name :: rest)) :
    ∀ seg ∈ rest, Spelled scanner home segs seg :=
  fun _ hseg => ⟨_, hread, List.mem_cons_of_mem _ hseg⟩

/-- What is reached is there. -/
theorem Reached.there (hreached : Reached scanner home segs target) :
    ∃ info, scanner.modules[target]? = some info := by
  cases hreached with
  | inside hinfo _ => exact ⟨_, hinfo⟩
  | descended hinfo _ _ _ _ _ => exact ⟨_, hinfo⟩

/-- A module of the referencing crate's is reached, wherever it is reached from. -/
theorem Rooted.reached (hrooted : Rooted scanner home cur) : Reached scanner home segs cur := by
  obtain ⟨info, hinfo, hhome⟩ := hrooted
  exact .inside hinfo hhome

/-- From a module that is reached, a step to one with the same root reaches it,
where that step is no alias. -/
theorem Reached.step (hreached : Reached scanner home segs cur)
    (hinfo : scanner.modules[cur]? = some info) {seg : String}
    (hspelled : Spelled scanner home segs seg) (hrooted : Rooted scanner info.root target)
    (hstep : ∀ {path}, Descends scanner info.root path cur →
      Descends scanner info.root (path ++ [seg]) target) : Reached scanner home segs target := by
  obtain ⟨found, hfound, hroot⟩ := hrooted
  cases hreached with
  | inside hcur hhome =>
    obtain rfl := Option.some.inj (hcur.symm.trans hinfo)
    exact .inside hfound (hroot.trans hhome)
  | descended hcur haway hcrate hheads hspells hpath =>
    obtain rfl := Option.some.inj (hcur.symm.trans hinfo)
    rw [← hroot] at haway hcrate hheads hpath hstep
    exact .descended hfound haway hcrate hheads
      (List.forall_mem_append.mpr ⟨hspells, List.forall_mem_singleton.mpr hspelled⟩) (hstep hpath)

/-- A crate that is named is entered at its root. -/
theorem Heads.reached (hforest : Forest scanner)
    (hheads : Heads scanner home segs name) (hcrate : name ∈ scanner.workspace_crates)
    (hthere : name ∈ scanner.modules) : Reached scanner home segs name := by
  obtain ⟨info, hinfo⟩ := exists_of_mem hthere
  have hroot := hforest.root_eq hinfo .root ⟨name, hcrate, .library⟩
  by_cases hhome : name = home
  · exact .inside hinfo (hroot.trans hhome)
  · rw [← hroot] at hcrate hheads hhome
    refine .descended hinfo hhome hcrate hheads (fun _ hseg => absurd hseg List.not_mem_nil) ?_
    rw [hroot]
    exact .root

/-- Every walk, with so many aliases followed, lands where it may. -/
def WalksLand (scanner : Scanner) (home : String) (segs : List String) (depth : Nat) : Prop :=
  ∀ ⦃cur rest⦄, Reached scanner home segs cur → (∀ seg ∈ rest, Spelled scanner home segs seg) →
    Lands scanner home segs (scanner.walk cur rest home depth)

/-- So does every path resolved in the referencing crate. -/
def ResolvesLand (scanner : Scanner) (home : String) (segs : List String) (depth : Nat) : Prop :=
  ∀ ⦃module path leading_colon target⦄, Rooted scanner home module → Read scanner home segs path →
    scanner.resolve module path leading_colon home depth = some target →
    Lands scanner home segs target

/-- A path that goes on from where it may land lands where it may. -/
theorem WalksLand.continue_from (hforest : Forest scanner) (hsegs : Segments segs)
    (hwalks : WalksLand scanner home segs depth) {stop : String} (hstop : Lands scanner home segs stop)
    (hrest : ∀ seg ∈ rest, Spelled scanner home segs seg)
    (hcontinue : scanner.continue_from stop rest home depth = some target) :
    Lands scanner home segs target := by
  unfold Scanner.continue_from at hcontinue
  cases hstop with
  | reached hreached =>
    obtain ⟨info, hinfo⟩ := hreached.there
    have hthere : scanner.modules.contains stop = true := by
      rw [Std.ExtTreeMap.contains_eq_isSome_getElem?, hinfo, Option.isSome_some]
    rw [if_pos hthere] at hcontinue
    exact Option.some.inj hcontinue ▸ hwalks hreached hrest
  | @outside name front hheads houtside =>
    have hgone := hforest.not_mem_of_outside houtside
    rw [if_neg (fun hthere => hgone (Std.ExtTreeMap.contains_iff_mem.mp hthere)), join_append]
      at hcontinue
    refine Option.some.inj hcontinue ▸ .outside hheads ⟨houtside.unscanned, houtside.first, ?_⟩
    exact List.forall_mem_append.mpr
      ⟨houtside.others, fun seg hseg => (hrest seg hseg).segment hforest hsegs⟩

/-- A path that enters a crate it names lands where it may. -/
theorem WalksLand.enter_crate (hforest : Forest scanner) (hsegs : Segments segs)
    (hwalks : WalksLand scanner home segs depth) (hread : Read scanner home segs (name :: rest))
    (henter : scanner.enter_crate name rest home depth = some target) :
    Lands scanner home segs target := by
  unfold Scanner.enter_crate at henter
  split at henter
  · rename_i hscanned
    obtain ⟨hcrate, hthere⟩ := scanned_iff.mp hscanned
    have hreached := Heads.reached hforest ⟨rest, hread⟩ hcrate hthere
    exact Option.some.inj henter ▸ hwalks hreached hread.spelled
  · rename_i hunscanned
    obtain ⟨hname, hrest⟩ := List.forall_mem_cons.mp (hread.segments hforest hsegs)
    exact Option.some.inj henter ▸ .outside ⟨rest, hread⟩ ⟨mt scanned_iff.mpr hunscanned, hname, hrest⟩

/-- A walk lands where it may, if what follows an alias of its does. -/
theorem walksLand_step (hforest : Forest scanner) (hsegs : Segments segs)
    (hdeeper : depth < ALIAS_DEPTH → WalksLand scanner home segs (depth + 1) ∧
      ResolvesLand scanner home segs (depth + 1)) : WalksLand scanner home segs depth := by
  intro cur rest hcur hrest
  induction rest generalizing cur with
  | nil =>
    rw [Scanner.walk_nil]
    exact .reached hcur
  | cons seg rest ih =>
    obtain ⟨info, hinfo⟩ := hcur.there
    obtain ⟨hseg, hothers⟩ := List.forall_mem_cons.mp hrest
    rw [Scanner.walk_cons hinfo]
    split
    · rename_i hsuper
      rw [hsuper] at hseg
      exact ih (hcur.step hinfo hseg (hforest.parent hinfo) fun hpath => .up hpath hinfo) hothers
    split
    · exact ih hcur hothers
    split
    · rename_i hchild
      have hchild := Std.ExtTreeSet.contains_iff_mem.mp hchild
      have hrooted := hforest.child hinfo (hseg.segment hforest hsegs) hchild
      exact ih (hcur.step hinfo hseg hrooted fun hpath => .child hpath hinfo hchild) hothers
    split
    · rename_i path halias
      obtain ⟨halias, hdepth, hinside⟩ := ModuleInfo.alias_of_eq_some_iff.mp halias
      have hhome : info.root = home := by simpa using hinside
      obtain ⟨hwalks, hresolves⟩ := hdeeper hdepth
      split
      · rename_i stop hstop
        have hlands := hresolves ⟨info, hinfo, hhome⟩ (.imported hinfo hhome halias) hstop
        cases hcontinue : scanner.continue_from stop rest home (depth + 1) with
        | some target => exact hwalks.continue_from hforest hsegs hlands hothers hcontinue
        | none => exact .reached hcur
      · exact .reached hcur
    · exact .reached hcur

/-- Paths land where they may if walks do, and paths behind one more alias. -/
theorem resolvesLand_step (hforest : Forest scanner) (hsegs : Segments segs)
    (hwalks : WalksLand scanner home segs depth)
    (hdeeper : depth < ALIAS_DEPTH → ResolvesLand scanner home segs (depth + 1)) :
    ResolvesLand scanner home segs depth := by
  intro module path leading_colon target hmodule hread hresolve
  obtain ⟨info, hinfo, hhome⟩ := hmodule
  cases path with
  | nil =>
    unfold Scanner.resolve at hresolve
    split at hresolve
    · rename_i heq
      cases heq
    · cases hresolve
  | cons first rest =>
    cases leading_colon with
    | true =>
      rw [Scanner.resolve_rooted hinfo] at hresolve
      exact hwalks.enter_crate hforest hsegs hread hresolve
    | false =>
      have hinside : ∀ {start}, Rooted scanner info.root start →
          some (scanner.walk start rest home depth) = some target → Lands scanner home segs target := by
        intro start hstart hwalk
        exact Option.some.inj hwalk ▸ hwalks (hhome ▸ hstart).reached hread.spelled
      rw [Scanner.resolve_cons hinfo] at hresolve
      split at hresolve
      · exact hinside (hforest.root hinfo) hresolve
      split at hresolve
      · exact hinside ⟨info, hinfo, rfl⟩ hresolve
      split at hresolve
      · exact hinside (hforest.parent hinfo) hresolve
      split at hresolve
      · rename_i hchild
        have hfirst := hread.segments hforest hsegs first (List.mem_cons_self ..)
        exact hinside (hforest.child hinfo hfirst (Std.ExtTreeSet.contains_iff_mem.mp hchild)) hresolve
      split at hresolve
      · rename_i imported halias
        obtain ⟨halias, hdepth, _⟩ := ModuleInfo.alias_of_eq_some_iff.mp halias
        split at hresolve
        · rename_i stop hstop
          have hlands := hdeeper hdepth ⟨info, hinfo, hhome⟩ (.imported hinfo hhome halias) hstop
          exact hwalks.continue_from hforest hsegs hlands hread.spelled hresolve
        · cases hresolve
      · split at hresolve
        · exact hwalks.enter_crate hforest hsegs hread hresolve
        · cases hresolve

/-- Whatever a path resolves to in a crate's code, it lands where it may. -/
theorem resolvesLand (hforest : Forest scanner) (hsegs : Segments segs) (depth : Nat) :
    ResolvesLand scanner home segs depth := by
  have hboth : ∀ depth, WalksLand scanner home segs depth ∧ ResolvesLand scanner home segs depth := by
    refine depth_induction fun depth hdeeper => ?_
    have hwalks := walksLand_step hforest hsegs hdeeper
    exact ⟨hwalks, resolvesLand_step hforest hsegs hwalks fun hdepth => (hdeeper hdepth).2⟩
  exact (hboth depth).2

end

/-- A module as the code of a crate sees it: no other crate's aliases. -/
def ModuleInfo.seen_from (info : ModuleInfo) (home : String) : ModuleInfo :=
  if info.root = home then info else { info with aliases := ∅ }

namespace ModuleInfo

variable (info : ModuleInfo) (home : String)

@[simp] theorem seen_from_root : (info.seen_from home).root = info.root := by
  unfold seen_from
  split <;> rfl

@[simp] theorem seen_from_children : (info.seen_from home).children = info.children := by
  unfold seen_from
  split <;> rfl

/-- A crate's code sees every alias that it may follow. -/
theorem seen_from_alias_of (name : String) (depth : Nat) :
    (info.seen_from home).alias_of name depth (info.root = home) =
      info.alias_of name depth (info.root = home) := by
  unfold seen_from
  split
  · rfl
  · rename_i haway
    simp [alias_of, haway]

end ModuleInfo

namespace Scanner

/-- The scanner with no alias but the ones of the crate at `home`. -/
def seen_from (self : Scanner) (home : String) : Scanner :=
  { self with modules := self.modules.map fun _ info => info.seen_from home }

section

variable {self : Scanner} {cur home name : String} {path rest : List String} {info : ModuleInfo}
  {depth : Nat}

theorem seen_from_getElem? (self : Scanner) (home path : String) :
    (self.seen_from home).modules[path]? = (self.modules[path]?).map (·.seen_from home) :=
  Std.ExtTreeMap.getElem?_map ..

@[simp] theorem seen_from_contains (self : Scanner) (home path : String) :
    (self.seen_from home).modules.contains path = self.modules.contains path :=
  Std.ExtTreeMap.contains_map ..

/-- Walks that have followed so many aliases go where they go without the other
crates' aliases. -/
def WalksUnseen (self : Scanner) (home : String) (depth : Nat) : Prop :=
  ∀ cur rest, (self.seen_from home).walk cur rest home depth = self.walk cur rest home depth

def ResolvesUnseen (self : Scanner) (home : String) (depth : Nat) : Prop :=
  ∀ ⦃module⦄, Rooted self home module → ∀ path leading_colon,
    (self.seen_from home).resolve module path leading_colon home depth =
      self.resolve module path leading_colon home depth

/-- Going on from a target sees no other crate's aliases. -/
theorem WalksUnseen.continue_from (hwalks : WalksUnseen self home depth) (target : String)
    (rest : List String) : (self.seen_from home).continue_from target rest home depth =
      self.continue_from target rest home depth := by
  unfold Scanner.continue_from
  rw [seen_from_contains, hwalks]

/-- Nor does entering a crate. -/
theorem WalksUnseen.enter_crate (hwalks : WalksUnseen self home depth) (name : String)
    (rest : List String) : (self.seen_from home).enter_crate name rest home depth =
      self.enter_crate name rest home depth := by
  unfold Scanner.enter_crate
  rw [seen_from_contains, hwalks]
  rfl

/-- Walks see none if what is behind one more alias does not. -/
theorem walksUnseen_step
    (hdeeper : depth < ALIAS_DEPTH → WalksUnseen self home (depth + 1) ∧
      ResolvesUnseen self home (depth + 1)) : WalksUnseen self home depth := by
  intro cur rest
  induction rest generalizing cur with
  | nil => rw [walk_nil, walk_nil]
  | cons seg rest ih =>
    cases hinfo : self.modules[cur]? with
    | none =>
      have hseen : (self.seen_from home).modules[cur]? = none := by
        rw [seen_from_getElem?, hinfo, Option.map_none]
      rw [walk_of_unknown hinfo, walk_of_unknown hseen]
    | some info =>
      have hseen : (self.seen_from home).modules[cur]? = some (info.seen_from home) := by
        rw [seen_from_getElem?, hinfo, Option.map_some]
      rw [walk_cons hinfo, walk_cons hseen]
      simp only [ModuleInfo.seen_from_root, ModuleInfo.seen_from_children,
        ModuleInfo.seen_from_alias_of, ih]
      cases halias : info.alias_of seg depth (info.root = home) with
      | none => rfl
      | some path =>
        obtain ⟨_, hdepth, hinside⟩ := ModuleInfo.alias_of_eq_some_iff.mp halias
        obtain ⟨hwalks, hresolves⟩ := hdeeper hdepth
        dsimp only
        rw [hresolves ⟨info, hinfo, by simpa using hinside⟩]
        simp only [hwalks.continue_from]

/-- Nor do paths if walks do not. -/
theorem resolvesUnseen_step (hwalks : WalksUnseen self home depth)
    (hdeeper : depth < ALIAS_DEPTH → ResolvesUnseen self home (depth + 1)) :
    ResolvesUnseen self home depth := by
  intro module hmodule path leading_colon
  obtain ⟨info, hinfo, hhome⟩ := id hmodule
  have hseen : (self.seen_from home).modules[module]? = some (info.seen_from home) := by
    rw [seen_from_getElem?, hinfo, Option.map_some]
  cases path with
  | nil =>
    unfold Scanner.resolve
    rw [hinfo, hseen]
  | cons first rest =>
    cases leading_colon with
    | true => rw [resolve_rooted hinfo, resolve_rooted hseen, hwalks.enter_crate]
    | false =>
      have halias := info.seen_from_alias_of home first depth
      rw [decide_eq_true hhome] at halias
      rw [resolve_cons hinfo, resolve_cons hseen, halias]
      simp only [ModuleInfo.seen_from_root, ModuleInfo.seen_from_children, hwalks _ _,
        hwalks.enter_crate, hwalks.continue_from]
      cases hpath : info.alias_of first depth true with
      | none => rfl
      | some path =>
        obtain ⟨_, hdepth, _⟩ := ModuleInfo.alias_of_eq_some_iff.mp hpath
        dsimp only
        rw [hdeeper hdepth hmodule]

/-- What a crate's code resolves a path to depends on no other crate's aliases. -/
theorem resolvesUnseen (self : Scanner) (home : String) (depth : Nat) :
    ResolvesUnseen self home depth := by
  have hboth : ∀ depth, WalksUnseen self home depth ∧ ResolvesUnseen self home depth := by
    refine depth_induction fun depth hdeeper => ?_
    have hwalks := walksUnseen_step hdeeper
    exact ⟨hwalks, resolvesUnseen_step hwalks fun hdepth => (hdeeper hdepth).2⟩
  exact (hboth depth).2

/-- A walk through another crate ends at a module that has no such child, though
it may import the name. -/
theorem walk_ends (hinfo : self.modules[cur]? = some info) (haway : info.root ≠ home)
    (hsuper : name ≠ "super") (hself : name ≠ "self") (hchild : name ∉ info.children) :
    self.walk cur (name :: rest) home depth = cur := by
  have halias : info.alias_of name depth (info.root = home) = none := by
    simp [ModuleInfo.alias_of, haway]
  rw [walk_cons hinfo, if_neg hsuper, if_neg hself,
    if_neg (fun hthere => hchild (Std.ExtTreeSet.contains_iff_mem.mp hthere)), halias]

end

/-- In no module, no path resolves. -/
theorem resolve_of_unknown {self : Scanner} {module : String} {segs : List String}
    {leading_colon : Bool} {home : String} {depth : Nat} (hmodule : self.modules[module]? = none) :
    self.resolve module segs leading_colon home depth = none := by
  unfold resolve
  rw [hmodule]

/-- A reference's home is its module's root. -/
theorem rooted_home_of {scanner : Scanner} {r : RawRef} {info : ModuleInfo}
    (hinfo : scanner.modules[r.module]? = some info) :
    Rooted scanner (scanner.home_of r) r.module :=
  ⟨info, hinfo, by simp [home_of, hinfo]⟩

/-- How a reference resolves: it lands where it may, no other crate's aliases
have a part in it, and in another crate a path ends at the first name that is no
child module. -/
structure ResolvesWell (scanner : Scanner) (r : RawRef) : Prop where
  lands : ∀ {target}, scanner.ref_target r = some target →
    Lands scanner (scanner.home_of r) r.segs target
  unseen : (scanner.seen_from (scanner.home_of r)).ref_target r = scanner.ref_target r
  ends : ∀ {cur info name rest depth}, scanner.modules[cur]? = some info →
    info.root ≠ scanner.home_of r → name ≠ "super" → name ≠ "self" → name ∉ info.children →
      scanner.walk cur (name :: rest) (scanner.home_of r) depth = cur

/-- Every path that the code of a registered module may write resolves, within
finitely many steps, to a registered module or to a path out of the workspace. -/
theorem resolves_well {scanner : Scanner} (hscanner : Registered scanner) (r : RawRef)
    (hsegs : Segments r.segs) : scanner.ResolvesWell r := by
  have hforest := hscanner.forest
  refine ⟨fun {target} htarget => ?_, ?_, fun hinfo haway hsuper hself hchild => ?_⟩
  · cases hinfo : scanner.modules[r.module]? with
    | none =>
      rw [ref_target, resolve_of_unknown hinfo] at htarget
      cases htarget
    | some info =>
      exact resolvesLand hforest hsegs 0 (rooted_home_of hinfo) .written htarget
  · have hhome : (scanner.seen_from (scanner.home_of r)).home_of r = scanner.home_of r := by
      have hroots : ModuleInfo.root ∘ (·.seen_from (scanner.home_of r)) = ModuleInfo.root :=
        funext fun info => info.seen_from_root _
      rw [home_of, seen_from_getElem?, Option.map_map, hroots, home_of]
    rw [ref_target, ref_target, hhome]
    cases hinfo : scanner.modules[r.module]? with
    | none =>
      have hunseen : (scanner.seen_from (scanner.home_of r)).modules[r.module]? = none := by
        rw [seen_from_getElem?, hinfo, Option.map_none]
      rw [resolve_of_unknown hinfo, resolve_of_unknown hunseen]
    | some info =>
      exact resolvesUnseen scanner _ 0 (rooted_home_of hinfo) _ _
  · exact walk_ends hinfo haway hsuper hself hchild

end Scanner

namespace shelf

def ctx (module : String) : Ctx :=
  { module, file := .of "lib.rs", child_dir := .empty, scope := .Lib }

/-- `use self::count::{Item, bulk};` -/
def use_count : ItemUse :=
  { attrs := [], leading_colon := false, line := 2
    tree := .Path ⟨"self", by decide, by decide⟩ (.Path ⟨"count", by decide, by decide⟩
      (.Group [.Name ⟨"Item", by decide, by decide⟩, .Name ⟨"bulk", by decide, by decide⟩])) }

/-- `use ::stock::count as tally;` -/
def use_tally : ItemUse :=
  { attrs := [], leading_colon := true, line := 2
    tree := .Path ⟨"stock", by decide, by decide⟩
      (.Rename ⟨"count", by decide, by decide⟩ ⟨"tally", by decide, by decide⟩) }

/-- The crate `stock`, which keeps its `Item` in a module below and exports it,
and `shelf`, which has a module of that crate's name. -/
def scanner : Scanner :=
  let scanner := ((Scanner.new .empty).add_workspace_crate "stock").add_workspace_crate "shelf"
  let scanner := scanner.register "stock" (ctx "stock")
  let scanner := scanner.register "stock" (ctx "stock::count")
  let scanner := scanner.register "stock" (ctx "stock::count::bulk")
  let scanner := scanner.record_use (ctx "stock") use_count .Lib true
  let scanner := scanner.register "shelf" (ctx "shelf")
  let scanner := scanner.register "shelf" (ctx "shelf::stock")
  scanner.record_use (ctx "shelf") use_tally .Lib true

theorem registered : Registered scanner := by
  have hcrates := ((Registered.new .empty).add_workspace_crate "stock" (by decide)).add_workspace_crate
    "shelf" (by decide)
  have hstock := hcrates.target "stock" (by decide) (ctx "stock") .library
  have hcount := hstock.nested "stock" "stock" "count" (by decide)
    (segment_of_letters (by decide) (by decide)) (ctx "stock::count") rfl
  have hbulk := hcount.nested "stock" "stock::count" "bulk" (by decide)
    (segment_of_letters (by decide) (by decide)) (ctx "stock::count::bulk") rfl
  have hexport := hbulk.record_use (ctx "stock") use_count .Lib true fun leaf hleaf =>
    segments_of_letters (by revert leaf; decide)
  have hshelf := hexport.target "shelf" (by decide) (ctx "shelf") .library
  have hmodule := hshelf.nested "shelf" "shelf" "stock" (by decide)
    (segment_of_letters (by decide) (by decide)) (ctx "shelf::stock") rfl
  exact hmodule.record_use (ctx "shelf") use_tally .Lib true fun leaf hleaf =>
    segments_of_letters (by revert leaf; decide)

/-- `::stock::Item`, in the other crate. -/
def item : RawRef :=
  { module := "shelf", scope := .Lib, segs := ["stock", "Item"], leading_colon := true
    file := .of "lib.rs", line := 3 }

theorem resolves_well_item : scanner.ResolvesWell item :=
  Scanner.resolves_well registered item (segments_of_letters (by decide))

end shelf

end archlint.scan
