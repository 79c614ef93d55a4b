import AngzarrRouter.Archlint.Scan.Mentions

open calls calls.MutCall
open text archlint.model archlint.syntax

namespace archlint.scan

/-- What scanning finds: a module, a reference written in one, an edge, or a
module declaration that there is no file for. -/
inductive Finding where
  | Module (path : String)
  | Ref (r : RawRef)
  | Edge (edge : Edge)
  | Warning (text : String)
deriving DecidableEq, Repr

def Scanner.Has (self : Scanner) : Finding → Prop
  | .Module path => path ∈ self.modules
  | .Ref r => r ∈ self.refs
  | .Edge edge => edge ∈ self.edges
  | .Warning text => text ∈ self.warnings

/-- The edge of an `include!` to the file it names. -/
def include_edge (workspace_root : PathBuf) (ctx : Ctx) (scope : Scope) (line : Nat)
    (lit : String) : Edge :=
  let scanner := Scanner.new workspace_root
  let target := scanner.relative ((parent_dir ctx.file).join (.of lit))
  { from_module := ctx.module, to_target := "path:" ++ target.display, scope
    file := scanner.relative ctx.file, line, via := "include!(\"" ++ lit ++ "\")" }

def missing_file (workspace_root : PathBuf) (ctx : Ctx) (name : String) : String :=
  ((Scanner.new workspace_root).relative ctx.file).display ++ ": module `" ++ name ++
    "` has no source file"

section

variable [Alphanumeric]

/-- The scope of an item of a module. -/
def Ctx.item_scope (ctx : Ctx) (attrs : List Attribute) : Scope :=
  if is_cfg_test attrs then .Test else ctx.scope

/-- Where the items of `mod name { .. }` are read from. -/
def Ctx.inline (ctx : Ctx) (attrs : List Attribute) (ident : Ident) : Ctx :=
  { module := child_path ctx.module ident.to_string, file := ctx.file
    child_dir := ctx.child_dir.join (.of ident.to_string), scope := ctx.item_scope attrs }

/-- Where those of `mod name;` are, whose file is found. -/
def Ctx.declared (ctx : Ctx) (attrs : List Attribute) (ident : Ident)
    (found : PathBuf × PathBuf) : Ctx :=
  { module := child_path ctx.module ident.to_string, file := normalise found.1
    child_dir := found.2, scope := ctx.item_scope attrs }

mutual

/-- What an item of a module has scanning find, in it and in the modules that
lie in it. -/
inductive Writes (sources : Sources) (workspace_root : PathBuf) : Ctx → Item → Finding → Prop where
  | imports {ctx : Ctx} {u : ItemUse} {segs : List String} {imported : Option String}
    (hleaf : (segs, imported) ∈ flatten_use u.tree []) :
    Writes sources workspace_root ctx (.Use u)
      (.Ref (path_ref ctx (ctx.item_scope u.attrs) segs u.leading_colon u.line))
  | path {ctx : Ctx} {attrs : List Attribute} {children : List Node} {gates : List Gate}
    {segs : List String} {leading_colon : Bool} {line : Nat}
    (hpath : Mentions (.Item attrs children) gates (.Path segs leading_colon line)) :
    Writes sources workspace_root ctx (.Other attrs children)
      (.Ref (path_ref ctx (gated ctx.scope gates) segs leading_colon line))
  -- Its scope is its item's: the source passes over the attributes further in.
  | file {ctx : Ctx} {attrs : List Attribute} {children : List Node} {gates : List Gate}
    {line : Nat} {lit : String} (hfile : Mentions (.Item attrs children) gates (.File line lit)) :
    Writes sources workspace_root ctx (.Other attrs children)
      (.Edge (include_edge workspace_root ctx (ctx.item_scope attrs) line lit))
  | missing {ctx : Ctx} {attrs : List Attribute} {ident : Ident}
    (hmissing : Scanner.mod_file sources ctx ident.to_string attrs = none) :
    Writes sources workspace_root ctx (.Mod attrs ident none)
      (.Warning (missing_file workspace_root ctx ident.to_string))
  | inline_module {ctx : Ctx} {attrs : List Attribute} {ident : Ident} {items : List Item} :
    Writes sources workspace_root ctx (.Mod attrs ident (some items))
      (.Module (child_path ctx.module ident.to_string))
  | inline {ctx : Ctx} {attrs : List Attribute} {ident : Ident} {items : List Item} {item : Item}
    {finding : Finding} (hitem : item ∈ items)
    (hinside : Writes sources workspace_root (ctx.inline attrs ident) item finding) :
    Writes sources workspace_root ctx (.Mod attrs ident (some items)) finding
  | declared {ctx : Ctx} {attrs : List Attribute} {ident : Ident} {found : PathBuf × PathBuf}
    {finding : Finding} (hfile : Scanner.mod_file sources ctx ident.to_string attrs = some found)
    (hinside : FileWrites sources workspace_root (ctx.declared attrs ident found) finding) :
    Writes sources workspace_root ctx (.Mod attrs ident none) finding

/-- What the file of a module has scanning find. -/
inductive FileWrites (sources : Sources) (workspace_root : PathBuf) : Ctx → Finding → Prop where
  | module {ctx : Ctx} : FileWrites sources workspace_root ctx (.Module ctx.module)
  | item {ctx : Ctx} {source : String} {items : List Item} {item : Item} {finding : Finding}
    (hread : sources.read ctx.file = some source) (hparse : sources.parse_file source = .ok items)
    (hitem : item ∈ items) (hinside : Writes sources workspace_root ctx item finding) :
    FileWrites sources workspace_root ctx finding

end

end

/-- A scanner finds what is written, and nothing else. -/
structure Finds (before after : Scanner) (written : Finding → Prop) : Prop where
  workspace_root : after.workspace_root = before.workspace_root
  workspace_crates : after.workspace_crates = before.workspace_crates
  has : ∀ finding, after.Has finding ↔ before.Has finding ∨ written finding

section

variable {before middle after scanner : Scanner} {written more : Finding → Prop}

theorem Finds.refl (scanner : Scanner) : Finds scanner scanner fun _ => False :=
  ⟨rfl, rfl, fun finding => by simp⟩

theorem Finds.congr (hfinds : Finds before after written)
    (hsame : ∀ finding, written finding ↔ more finding) : Finds before after more := by
  obtain rfl : written = more := funext fun finding => propext (hsame finding)
  exact hfinds

/-- One scan after another finds what either does. -/
theorem Finds.trans (hfirst : Finds before middle written) (hrest : Finds middle after more) :
    Finds before after fun finding => written finding ∨ more finding :=
  ⟨hrest.workspace_root.trans hfirst.workspace_root,
    hrest.workspace_crates.trans hfirst.workspace_crates, fun finding => by
      rw [hrest.has, hfirst.has, or_assoc]⟩

/-- A change to a module's entry is none to what is found. -/
theorem finds_insert_of_mem {path : String} (hpath : path ∈ scanner.modules) (info : ModuleInfo) :
    Finds scanner { scanner with modules := scanner.modules.insert path info } fun _ => False := by
  refine ⟨rfl, rfl, fun finding => ?_⟩
  cases finding with
  | Module other =>
    simp only [Scanner.Has, Std.ExtTreeMap.mem_insert, Std.LawfulEqOrd.compare_eq_iff_eq, or_false]
    exact ⟨fun hother => hother.elim (fun heq => heq ▸ hpath) id, .inr⟩
  | Ref r => simp [Scanner.Has]
  | Edge edge => simp [Scanner.Has]
  | Warning text => simp [Scanner.Has]

theorem finds_enter (scanner : Scanner) (root : String) (ctx : Ctx) :
    Finds scanner (scanner.enter root ctx) fun finding => finding = .Module ctx.module := by
  refine ⟨rfl, rfl, fun finding => ?_⟩
  cases finding with
  | Module other =>
    simp only [Scanner.Has, Scanner.enter, Std.ExtTreeMap.mem_insert,
      Std.LawfulEqOrd.compare_eq_iff_eq, Finding.Module.injEq]
    rw [or_comm, eq_comm]
  | Ref r => simp [Scanner.Has, Scanner.enter]
  | Edge edge => simp [Scanner.Has, Scanner.enter]
  | Warning text => simp [Scanner.Has, Scanner.enter]

theorem finds_adopt (scanner : Scanner) (parent name : String) :
    Finds scanner (scanner.adopt parent name) fun _ => False := by
  unfold Scanner.adopt
  split
  · rename_i p hp
    exact finds_insert_of_mem (mem_of_getElem? hp) _
  · exact .refl scanner

/-- Registering a module finds that module alone. -/
theorem finds_register (scanner : Scanner) (root : String) (ctx : Ctx) :
    Finds scanner (scanner.register root ctx) fun finding => finding = .Module ctx.module := by
  have hentered := finds_enter scanner root ctx
  unfold Scanner.register
  split
  · exact (hentered.trans (finds_adopt ..)).congr fun finding => by simp
  · exact hentered

/-- An alias is nothing to find. -/
theorem finds_add_alias (scanner : Scanner) (module : String) (imported : Option String)
    (segs : List String) : Finds scanner (scanner.add_alias module imported segs) fun _ => False := by
  unfold Scanner.add_alias
  split
  · rename_i info hinfo
    exact finds_insert_of_mem (mem_of_getElem? hinfo) _
  · exact .refl scanner

theorem finds_push_refs (scanner : Scanner) (refs : List RawRef) :
    Finds scanner (scanner.push_refs refs) fun finding => ∃ r ∈ refs, finding = .Ref r := by
  refine ⟨rfl, rfl, fun finding => ?_⟩
  cases finding <;> simp [Scanner.Has, Scanner.push_refs]

theorem finds_push_edge (scanner : Scanner) (edge : Edge) :
    Finds scanner (scanner.push_edge edge) fun finding => finding = .Edge edge := by
  refine ⟨rfl, rfl, fun finding => ?_⟩
  cases finding <;> simp [Scanner.Has, Scanner.push_edge]

theorem finds_warning (scanner : Scanner) (text : String) :
    Finds scanner { scanner with warnings := scanner.warnings ++ [text] }
      fun finding => finding = .Warning text := by
  refine ⟨rfl, rfl, fun finding => ?_⟩
  cases finding <;> simp [Scanner.Has]

/-- A loop finds what each pass of it does, which may read the workspace's root. -/
theorem Finds.foldl {α : Type} {body : Scanner → α → Scanner} {workspace_root : PathBuf}
    {written : α → Finding → Prop} (hroot : before.workspace_root = workspace_root)
    (hbody : ∀ scanner item, scanner.workspace_root = workspace_root →
      Finds scanner (body scanner item) (written item)) (items : List α) :
    Finds before (items.foldl body before) fun finding => ∃ item ∈ items, written item finding := by
  induction items generalizing before with
  | nil => exact (Finds.refl before).congr fun finding => by simp
  | cons item items ih =>
    have hfirst := hbody before item hroot
    refine (hfirst.trans (ih (hfirst.workspace_root.trans hroot))).congr fun finding => ?_
    rw [List.exists_mem_cons_iff]

/-- A `use` writes each of its leaves. -/
theorem finds_record_use (scanner : Scanner) (ctx : Ctx) (u : ItemUse) (scope : Scope)
    (module_level : Bool) :
    Finds scanner (scanner.record_use ctx u scope module_level) fun finding =>
      ∃ leaf ∈ flatten_use u.tree [],
        finding = .Ref (path_ref ctx scope leaf.1 u.leading_colon u.line) := by
  refine .foldl rfl (fun scanner leaf _ => ?_) _
  have haliased : Finds scanner
      (if module_level then scanner.add_alias ctx.module leaf.2 leaf.1 else scanner) fun _ => False := by
    split
    · exact finds_add_alias ..
    · exact .refl scanner
  refine (haliased.trans (finds_push_refs _ _)).congr fun finding => ?_
  simp [path_ref]

end

section

variable [Alphanumeric] {scanner after : Scanner} {workspace_root : PathBuf} {root : String}
  {ctx : Ctx}

/-- Any other item writes the paths and the files that its code names. -/
theorem finds_record_other (hroot : scanner.workspace_root = workspace_root) (ctx : Ctx)
    (sources : Sources) (attrs : List Attribute) (children : List Node) :
    Finds scanner (scanner.record_other ctx (ctx.item_scope attrs) attrs children)
      (Writes sources workspace_root ctx (.Other attrs children)) := by
  have hvisits := (Collector.new ctx (ctx.item_scope attrs)).visits (.Item attrs children)
  have hrefs := finds_push_refs scanner
    ((Collector.new ctx (ctx.item_scope attrs)).visit (.Item attrs children)).refs
  have hinclude : ∀ scanner found, scanner.workspace_root = workspace_root →
      Finds scanner (scanner.record_include ctx (ctx.item_scope attrs) found) fun finding =>
        finding = .Edge (include_edge workspace_root ctx (ctx.item_scope attrs) found.1 found.2) := by
    intro scanner found hroot
    subst hroot
    exact finds_push_edge ..
  have hincludes := Finds.foldl (hrefs.workspace_root.trans hroot) hinclude
    ((Collector.new ctx (ctx.item_scope attrs)).visit (.Item attrs children)).includes
  have hscope : ∀ gates, gated (Collector.new ctx (ctx.item_scope attrs)).scope
      (⟨attrs, true⟩ :: gates) = gated ctx.scope (⟨attrs, true⟩ :: gates) := by
    intro gates
    rw [gated_read, gated_read]
    change gated (if is_cfg_test attrs then .Test else ctx.item_scope attrs) gates = _
    unfold Ctx.item_scope
    split <;> rfl
  refine (hrefs.trans hincludes).congr fun finding => ⟨?_, ?_⟩
  · rintro (⟨r, hr, rfl⟩ | ⟨⟨line, lit⟩, hfound, rfl⟩)
    · obtain hbefore | ⟨gates, segs, leading_colon, line, hpath, rfl⟩ := (hvisits.refs r).mp hr
      · exact absurd hbefore List.not_mem_nil
      · cases hpath with
        | item hnode hinside =>
          rw [hscope]
          exact .path (.item hnode hinside)
    · obtain hbefore | ⟨gates, hfile⟩ := (hvisits.includes line lit).mp hfound
      · exact absurd hbefore List.not_mem_nil
      · exact .file hfile
  · intro hwrites
    cases hwrites with
    | path hpath =>
      refine .inl ⟨_, (hvisits.refs _).mpr (.inr ⟨_, _, _, _, hpath, rfl⟩), ?_⟩
      cases hpath with
      | item hnode hinside =>
        rw [hscope]
        rfl
    | file hfile => exact .inr ⟨_, (hvisits.includes _ _).mpr (.inr ⟨_, hfile⟩), rfl⟩

/-- A walk of files finds what is written in them, where it ends well. -/
def FilesFind (sources : Sources) (root : String) (workspace_root : PathBuf)
    (walk_file : Scanner → String → Ctx → MutCall Scanner String Unit) : Prop :=
  ∀ ⦃scanner ctx after⦄, scanner.workspace_root = workspace_root →
    walk_file scanner root ctx = (after, .ok ()) →
      Finds scanner after (FileWrites sources workspace_root ctx)

mutual

/-- A walk of a module's items finds what they have it find, where walks of
files do. -/
theorem finds_walk_items {sources : Sources}
    {walk_file : Scanner → String → Ctx → MutCall Scanner String Unit}
    (hfile : FilesFind sources root workspace_root walk_file) {scanner after : Scanner} {ctx : Ctx}
    (hroot : scanner.workspace_root = workspace_root) :
    ∀ items, scanner.walk_items sources walk_file root ctx items = (after, .ok ()) →
      Finds scanner after fun finding => ∃ item ∈ items, Writes sources workspace_root ctx item finding
  | [], hwalk => by
    obtain ⟨rfl, _⟩ := Prod.mk.inj hwalk
    exact (Finds.refl _).congr fun finding => by simp
  | item :: items, hwalk => by
    obtain ⟨middle, _, hitem, hitems⟩ := andThen_eq_ok_iff.mp hwalk
    have hfirst := finds_walk_item hfile hroot item hitem
    have hrest := finds_walk_items hfile (hfirst.workspace_root.trans hroot) items hitems
    refine (hfirst.trans hrest).congr fun finding => ?_
    rw [List.exists_mem_cons_iff]

/-- Walking an item finds what the item writes, if walking a file does. -/
theorem finds_walk_item {sources : Sources}
    {walk_file : Scanner → String → Ctx → MutCall Scanner String Unit}
    (hfile : FilesFind sources root workspace_root walk_file) {scanner after : Scanner} {ctx : Ctx}
    (hroot : scanner.workspace_root = workspace_root) :
    ∀ item, scanner.walk_item sources walk_file root ctx item = (after, .ok ()) →
      Finds scanner after (Writes sources workspace_root ctx item)
  | .Mod attrs ident none, hwalk => by
    rw [Scanner.walk_item, Scanner.walk_mod] at hwalk
    dsimp only at hwalk
    split at hwalk
    · rename_i file child_dir hfound
      refine (hfile hroot hwalk).congr
        fun finding => ⟨.declared hfound, fun hwrites => ?_⟩
      cases hwrites with
      | missing hmissing => exact absurd (hmissing.symm.trans hfound) nofun
      | declared hfile hinside =>
        obtain rfl := Option.some.inj (hfile.symm.trans hfound)
        exact hinside
    · rename_i hmissing
      obtain ⟨rfl, _⟩ := Prod.mk.inj hwalk
      subst hroot
      refine (finds_warning scanner _).congr fun finding => ⟨?_, fun hwrites => ?_⟩
      · rintro rfl
        exact .missing hmissing
      · cases hwrites with
        | missing _ => rfl
        | declared hfile _ => exact absurd (hfile.symm.trans hmissing) nofun
  | .Mod attrs ident (some items), hwalk => by
    rw [Scanner.walk_item, Scanner.walk_mod] at hwalk
    have hentered := finds_register scanner root (ctx.inline attrs ident)
    have hinside := finds_walk_items hfile
      (hentered.workspace_root.trans hroot) items hwalk
    refine (hentered.trans hinside).congr fun finding => ⟨?_, fun hwrites => ?_⟩
    · rintro (rfl | ⟨item, hitem, hwrites⟩)
      · exact .inline_module
      · exact .inline hitem hwrites
    · cases hwrites with
      | inline_module => exact .inl rfl
      | inline hitem hwrites => exact .inr ⟨_, hitem, hwrites⟩
  | .Use u, hwalk => by
    obtain ⟨rfl, _⟩ := Prod.mk.inj hwalk
    refine (finds_record_use scanner ctx u _ true).congr fun finding => ⟨?_, fun hwrites => ?_⟩
    · rintro ⟨⟨segs, imported⟩, hleaf, rfl⟩
      exact .imports hleaf
    · cases hwrites with
      | imports hleaf => exact ⟨_, hleaf, rfl⟩
  | .Other attrs children, hwalk => by
    obtain ⟨rfl, _⟩ := Prod.mk.inj hwalk
    exact finds_record_other hroot ctx sources attrs children

end

/-- A walk of a file that ends well finds what is written in it, and in the
modules that lie in its module. -/
theorem finds_walk_file (sources : Sources) (root : String) (workspace_root : PathBuf)
    (stack : Nat) : FilesFind sources root workspace_root (Scanner.walk_file sources stack) := by
  induction stack with
  | zero =>
    intro scanner ctx after _ hwalk
    cases hwalk
  | succ stack ih =>
    intro scanner ctx after hroot hwalk
    unfold Scanner.walk_file at hwalk
    split at hwalk
    · cases hwalk
    rename_i source hread
    split at hwalk
    · cases hwalk
    rename_i items hparse
    have hentered := finds_register scanner root ctx
    have hinside := finds_walk_items ih (hentered.workspace_root.trans hroot) items hwalk
    refine (hentered.trans hinside).congr fun finding => ⟨?_, fun hwrites => ?_⟩
    · rintro (rfl | ⟨item, hitem, hwrites⟩)
      · exact .module
      · exact .item hread hparse hitem hwrites
    · cases hwrites with
      | module => exact .inl rfl
      | item hread' hparse' hitem hwrites =>
        obtain rfl := Option.some.inj (hread'.symm.trans hread)
        obtain rfl := Except.ok.inj (hparse'.symm.trans hparse)
        exact .inr ⟨_, hitem, hwrites⟩

end

end archlint.scan
