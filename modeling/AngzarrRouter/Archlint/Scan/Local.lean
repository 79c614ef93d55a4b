import AngzarrRouter.Archlint.Scan.Crates
import AngzarrRouter.Archlint.Scan.Written

open calls calls.MutCall
open text archlint.model archlint.syntax

namespace archlint.scan

/-- What a scanner's tables hold of a module path. -/
def Scanner.held (self : Scanner) (path : String) : Option ModuleInfo × Option BTreeSet :=
  (self.modules[path]?, self.known[path]?)

/-- Two scanners hold the same of a crate. -/
def Agree (lib : String) (left right : Scanner) : Prop :=
  ∀ path, InCrate lib path → left.held path = right.held path

/-- A change to a scanner that reads and writes one crate in its tables. -/
structure Keeps (lib : String) (change : Scanner → Scanner) : Prop where
  frame : ∀ scanner path, ¬ InCrate lib path → (change scanner).held path = scanner.held path
  agree : ∀ {left right}, Agree lib left right → Agree lib (change left) (change right)

/-- A call that does, and whose outcome no scanner decides. -/
structure Local (lib : String) (call : Scanner → MutCall Scanner String Unit) : Prop where
  keeps : Keeps lib fun scanner => (call scanner).1
  outcome : ∀ left right, (call left).2 = (call right).2

section

variable {lib path : String}

/-- What keeps to a crate does so twice over. -/
theorem Keeps.comp {change next : Scanner → Scanner} (hchange : Keeps lib change)
    (hnext : Keeps lib next) : Keeps lib fun scanner => next (change scanner) where
  frame scanner path hpath :=
    (hnext.frame _ path hpath).trans (hchange.frame scanner path hpath)
  agree hagree := hnext.agree (hchange.agree hagree)

/-- What leaves the tables as they are keeps to any crate. -/
theorem keeps_of_held {change : Scanner → Scanner}
    (hheld : ∀ scanner path, (change scanner).held path = scanner.held path) : Keeps lib change where
  frame scanner path _ := hheld scanner path
  agree hagree path hpath := by rw [hheld, hheld, hagree path hpath]

/-- What changes the entry of one module, by what it is, keeps to its crate. -/
theorem keeps_of_entry (hpath : InCrate lib path) {change : Scanner → Scanner}
    (entry : Option ModuleInfo → Option ModuleInfo)
    (hthere : ∀ scanner, (change scanner).modules[path]? = entry scanner.modules[path]?)
    (hothers : ∀ scanner other, path ≠ other →
      (change scanner).modules[other]? = scanner.modules[other]?)
    (hknown : ∀ scanner, (change scanner).known = scanner.known) : Keeps lib change where
  frame scanner other hother := by
    have hne : path ≠ other := fun heq => hother (heq ▸ hpath)
    simp only [Scanner.held, hothers scanner other hne, hknown]
  agree {left right} hagree other hother := by
    have hsame := hagree other hother
    by_cases heq : path = other
    · subst heq
      simp only [Scanner.held, Prod.mk.injEq] at hsame ⊢
      rw [hthere, hthere, hknown, hknown, hsame.1]
      exact ⟨rfl, hsame.2⟩
    · simp only [Scanner.held, hothers _ other heq, hknown] at hsame ⊢
      exact hsame

/-- A loop keeps to a crate that its body keeps to. -/
theorem Keeps.foldl {α : Type} {body : Scanner → α → Scanner} (items : List α)
    (hbody : ∀ item ∈ items, Keeps lib fun scanner => body scanner item) :
    Keeps lib fun scanner => items.foldl body scanner := by
  induction items with
  | nil => exact keeps_of_held fun _ _ => rfl
  | cons item items ih =>
    obtain ⟨hitem, hitems⟩ := List.forall_mem_cons.mp hbody
    exact hitem.comp (ih hitems)

theorem Keeps.call {change : Scanner → Scanner} (hchange : Keeps lib change) :
    Local lib fun scanner => (change scanner, .ok ()) :=
  ⟨hchange, fun _ _ => rfl⟩

/-- Calls that are local to a crate are so one after another. -/
theorem Local.andThen {call next : Scanner → MutCall Scanner String Unit} (hcall : Local lib call)
    (hnext : Local lib next) : Local lib fun scanner =>
      (call scanner).andThen fun scanner _ => next scanner := by
  have hcases : ∀ scanner, ((call scanner).andThen fun scanner _ => next scanner) =
      match (call scanner).2 with
      | .ok _ => next (call scanner).1
      | .err error => ((call scanner).1, .err error)
      | .panic => ((call scanner).1, .panic) := by
    intro scanner
    obtain ⟨left, ⟨⟩ | error | _⟩ := call scanner <;> rfl
  refine ⟨⟨fun scanner path hpath => ?_, fun {left right} hagree => ?_⟩, fun left right => ?_⟩
  · have hfirst := hcall.keeps.frame scanner path hpath
    rw [hcases]
    split
    · exact (hnext.keeps.frame _ path hpath).trans hfirst
    · exact hfirst
    · exact hfirst
  · have hfirst := hcall.keeps.agree hagree
    rw [hcases, hcases, hcall.outcome right left]
    split
    · exact hnext.keeps.agree hfirst
    · exact hfirst
    · exact hfirst
  · rw [hcases, hcases, hcall.outcome right left]
    split
    · exact hnext.outcome _ _
    · rfl
    · rfl

/-- A step after a change is one step. -/
theorem Local.after {change : Scanner → Scanner} {call : Scanner → MutCall Scanner String Unit}
    (hchange : Keeps lib change) (hcall : Local lib call) :
    Local lib fun scanner => call (change scanner) :=
  ⟨hchange.comp hcall.keeps, fun _ _ => hcall.outcome _ _⟩

end

section

variable {lib root parent name module : String} {ctx : Ctx}

/-- Entering a module of a crate keeps to it. -/
theorem keeps_enter (hctx : InCrate lib ctx.module) :
    Keeps lib fun scanner => scanner.enter root ctx := by
  refine keeps_of_entry hctx
    (fun info => some { info.getD .default with file := ctx.file, root }) ?_ ?_ fun _ => rfl
  · exact fun scanner => Std.ExtTreeMap.getElem?_insert_self
  · intro scanner other hne
    rw [Scanner.enter, Std.ExtTreeMap.getElem?_insert, if_neg (by simpa using hne)]

/-- So does adopting one. -/
theorem keeps_adopt (hparent : InCrate lib parent) :
    Keeps lib fun scanner => scanner.adopt parent name := by
  refine keeps_of_entry hparent (fun info => info.map fun p =>
    { p with children := p.children.insert name }) ?_ ?_ ?_
  · intro scanner
    unfold Scanner.adopt
    split
    · rename_i p hp
      rw [hp]
      exact Std.ExtTreeMap.getElem?_insert_self
    · rename_i hnone
      rw [hnone]
      rfl
  · intro scanner other hne
    unfold Scanner.adopt
    split
    · rw [Std.ExtTreeMap.getElem?_insert, if_neg (by simpa using hne)]
    · rfl
  · intro scanner
    unfold Scanner.adopt
    split <;> rfl

/-- So does registering one. -/
theorem keeps_register (hlib : CrateName lib) (hctx : InCrate lib ctx.module) :
    Keeps lib fun scanner => scanner.register root ctx := by
  have hentered : Keeps lib fun scanner => scanner.enter root ctx := keeps_enter hctx
  unfold Scanner.register
  dsimp only
  split
  · rename_i parent name hsplit
    exact hentered.comp (keeps_adopt (hctx.parent hlib hsplit))
  · exact hentered

/-- So does an import of one. -/
theorem keeps_add_alias (hmodule : InCrate lib module) (imported : Option String)
    (segs : List String) : Keeps lib fun scanner => scanner.add_alias module imported segs := by
  cases imported with
  | none => exact keeps_of_held fun _ _ => rfl
  | some imported =>
    refine keeps_of_entry hmodule (fun info => info.map fun p =>
      { p with aliases := p.aliases.insert imported segs }) ?_ ?_ ?_
    · intro scanner
      unfold Scanner.add_alias
      cases hinfo : scanner.modules[module]? with
      | some info => exact Std.ExtTreeMap.getElem?_insert_self
      | none => exact hinfo
    · intro scanner other hne
      unfold Scanner.add_alias
      cases hinfo : scanner.modules[module]? with
      | some info =>
        dsimp only
        rw [Std.ExtTreeMap.getElem?_insert, if_neg (by simpa using hne)]
      | none => rfl
    · intro scanner
      unfold Scanner.add_alias
      cases scanner.modules[module]? <;> rfl

theorem keeps_push_refs (refs : List RawRef) : Keeps lib fun scanner => scanner.push_refs refs :=
  keeps_of_held fun _ _ => rfl

/-- A `use` keeps to its module's crate. -/
theorem keeps_record_use (hctx : InCrate lib ctx.module) (u : ItemUse) (scope : Scope) :
    Keeps lib fun scanner => scanner.record_use ctx u scope true :=
  .foldl _ fun leaf _ => (keeps_add_alias hctx leaf.2 leaf.1).comp (keeps_push_refs _)

/-- Any other item changes no module. -/
theorem keeps_record_other [Alphanumeric] (ctx : Ctx) (scope : Scope) (attrs : List Attribute)
    (children : List Node) :
    Keeps lib fun scanner => scanner.record_other ctx scope attrs children := by
  have hinclude : ∀ found, Keeps lib fun scanner => Scanner.record_include ctx scope scanner found :=
    fun found => keeps_of_held fun _ _ => rfl
  exact (keeps_push_refs _).comp (.foldl _ fun found _ => hinclude found)

end

section

variable [Alphanumeric] {lib root : String}
  {walk_file : Scanner → String → Ctx → MutCall Scanner String Unit}

mutual

/-- A walk of a crate's items keeps to it, where walks of its files do. -/
theorem local_walk_items (hlib : CrateName lib) (sources : Sources)
    (hfile : ∀ ctx : Ctx, InCrate lib ctx.module → Local lib fun scanner => walk_file scanner root ctx)
    {ctx : Ctx} (hctx : InCrate lib ctx.module) :
    ∀ items, Local lib fun scanner => scanner.walk_items sources walk_file root ctx items
  | [] => (keeps_of_held fun _ _ => rfl).call
  | item :: items =>
    (local_walk_item hlib sources hfile hctx item).andThen
      (local_walk_items hlib sources hfile hctx items)

/-- Walking an item is local to its crate, if walking files is. -/
theorem local_walk_item (hlib : CrateName lib) (sources : Sources)
    (hfile : ∀ ctx : Ctx, InCrate lib ctx.module → Local lib fun scanner => walk_file scanner root ctx)
    {ctx : Ctx} (hctx : InCrate lib ctx.module) :
    ∀ item, Local lib fun scanner => scanner.walk_item sources walk_file root ctx item
  | .Mod attrs ident none => by
    have hchild := hctx.child (begins_ident ident)
    simp only [Scanner.walk_item, Scanner.walk_mod]
    split
    · exact hfile _ hchild
    · exact ⟨keeps_of_held fun _ _ => rfl, fun _ _ => rfl⟩
  | .Mod attrs ident (some items) => by
    have hchild := hctx.child (begins_ident ident)
    simp only [Scanner.walk_item, Scanner.walk_mod]
    exact .after (keeps_register hlib hchild) (local_walk_items hlib sources hfile hchild items)
  | .Use u => (keeps_record_use hctx u _).call
  | .Other attrs children => (keeps_record_other ctx _ attrs children).call

end

/-- A walk of a file of a crate reads and writes no other in the tables, and
how it ends is decided by the sources alone. -/
theorem local_walk_file (hlib : CrateName lib) (sources : Sources) (stack : Nat) (root : String)
    {ctx : Ctx} (hctx : InCrate lib ctx.module) :
    Local lib fun scanner => scanner.walk_file sources stack root ctx := by
  induction stack generalizing ctx with
  | zero => exact ⟨keeps_of_held fun _ _ => rfl, fun _ _ => rfl⟩
  | succ stack ih =>
    unfold Scanner.walk_file
    split
    · exact ⟨keeps_of_held fun _ _ => rfl, fun _ _ => rfl⟩
    split
    · exact ⟨keeps_of_held fun _ _ => rfl, fun _ _ => rfl⟩
    · exact .after (keeps_register hlib hctx)
        (local_walk_items hlib sources (fun ctx hctx => ih hctx) hctx _)

end

/-- A call that adds the same warnings to every scanner of a workspace, and ends
the same. -/
def Warns (workspace_root : PathBuf) (call : Scanner → MutCall Scanner String Unit) : Prop :=
  ∃ added outcome, ∀ scanner : Scanner, scanner.workspace_root = workspace_root →
    (call scanner).1.workspace_root = workspace_root ∧
      (call scanner).1.warnings = scanner.warnings ++ added ∧ (call scanner).2 = outcome

section

variable {workspace_root : PathBuf}

/-- What changes neither the root nor the warnings adds none. -/
theorem warns_of_quiet {change : Scanner → Scanner} (outcome : Outcome String Unit)
    (hroot : ∀ scanner, (change scanner).workspace_root = scanner.workspace_root)
    (hwarnings : ∀ scanner, (change scanner).warnings = scanner.warnings) :
    Warns workspace_root fun scanner => (change scanner, outcome) :=
  ⟨[], outcome, fun scanner hscanner =>
    ⟨(hroot scanner).trans hscanner, by rw [hwarnings, List.append_nil], rfl⟩⟩

/-- Calls that warn alike, whatever was found before, do so one after another. -/
theorem Warns.andThen {call next : Scanner → MutCall Scanner String Unit}
    (hcall : Warns workspace_root call) (hnext : Warns workspace_root next) :
    Warns workspace_root fun scanner => (call scanner).andThen fun scanner _ => next scanner := by
  obtain ⟨added, outcome, hcall⟩ := hcall
  obtain ⟨more, last, hnext⟩ := hnext
  cases outcome with
  | ok _ =>
    refine ⟨added ++ more, last, fun scanner hscanner => ?_⟩
    obtain ⟨hroot, hwarnings, hok⟩ := hcall scanner hscanner
    obtain ⟨hroot', hwarnings', hlast⟩ := hnext _ hroot
    have hthen : ((call scanner).andThen fun scanner _ => next scanner) = next (call scanner).1 := by
      rw [← Prod.eta (call scanner), hok, andThen_ok]
    dsimp only
    rw [hthen, hwarnings', hwarnings, List.append_assoc]
    exact ⟨hroot', rfl, hlast⟩
  | err error =>
    refine ⟨added, .err error, fun scanner hscanner => ?_⟩
    obtain ⟨hroot, hwarnings, herr⟩ := hcall scanner hscanner
    dsimp only
    rw [← Prod.eta (call scanner), herr, andThen_err]
    exact ⟨hroot, hwarnings, rfl⟩
  | panic =>
    refine ⟨added, .panic, fun scanner hscanner => ?_⟩
    obtain ⟨hroot, hwarnings, hpanic⟩ := hcall scanner hscanner
    dsimp only
    rw [← Prod.eta (call scanner), hpanic, andThen_panic]
    exact ⟨hroot, hwarnings, rfl⟩

/-- A step after a quiet change is one step. -/
theorem Warns.after {change : Scanner → Scanner} {call : Scanner → MutCall Scanner String Unit}
    (hroot : ∀ scanner, (change scanner).workspace_root = scanner.workspace_root)
    (hwarnings : ∀ scanner, (change scanner).warnings = scanner.warnings)
    (hcall : Warns workspace_root call) : Warns workspace_root fun scanner => call (change scanner) :=
  (warns_of_quiet (.ok ()) hroot hwarnings).andThen hcall

/-- Entering a module warns of nothing, and neither does recording what it names. -/
theorem register_quiet (scanner : Scanner) (root : String) (ctx : Ctx) :
    (scanner.register root ctx).workspace_root = scanner.workspace_root ∧
      (scanner.register root ctx).warnings = scanner.warnings := by
  have hadopt : ∀ (scanner : Scanner) (parent name : String),
      (scanner.adopt parent name).workspace_root = scanner.workspace_root ∧
        (scanner.adopt parent name).warnings = scanner.warnings := by
    intro scanner parent name
    unfold Scanner.adopt
    split <;> exact ⟨rfl, rfl⟩
  unfold Scanner.register
  split
  · exact hadopt (scanner.enter root ctx) _ _
  · exact ⟨rfl, rfl⟩

/-- A `use` warns of nothing. -/
theorem record_use_quiet (scanner : Scanner) (ctx : Ctx) (u : ItemUse) (scope : Scope) :
    (scanner.record_use ctx u scope true).workspace_root = scanner.workspace_root ∧
      (scanner.record_use ctx u scope true).warnings = scanner.warnings := by
  unfold Scanner.record_use
  refine List.foldlRecOn (motive := fun after : Scanner =>
    after.workspace_root = scanner.workspace_root ∧ after.warnings = scanner.warnings) _ _ ⟨rfl, rfl⟩
    fun before hquiet leaf _ => ?_
  obtain ⟨hroot, hwarnings⟩ := hquiet
  have halias : ∀ (scanner : Scanner) (imported : Option String) (segs : List String),
      (scanner.add_alias ctx.module imported segs).workspace_root = scanner.workspace_root ∧
        (scanner.add_alias ctx.module imported segs).warnings = scanner.warnings := by
    intro scanner imported segs
    unfold Scanner.add_alias
    split <;> exact ⟨rfl, rfl⟩
  obtain ⟨hroot', hwarnings'⟩ := halias before leaf.2 leaf.1
  exact ⟨hroot'.trans hroot, hwarnings'.trans hwarnings⟩

variable [Alphanumeric]

/-- Nor does any other item. -/
theorem record_other_quiet (scanner : Scanner) (ctx : Ctx) (scope : Scope) (attrs : List Attribute)
    (children : List Node) :
    (scanner.record_other ctx scope attrs children).workspace_root = scanner.workspace_root ∧
      (scanner.record_other ctx scope attrs children).warnings = scanner.warnings := by
  refine List.foldlRecOn (motive := fun after : Scanner =>
    after.workspace_root = scanner.workspace_root ∧ after.warnings = scanner.warnings) _ _ ⟨rfl, rfl⟩
    fun before hquiet found _ => ?_
  exact hquiet

variable {root : String} {walk_file : Scanner → String → Ctx → MutCall Scanner String Unit}

mutual

/-- A walk of items adds the warnings that the sources and the root decide, where
walks of its files do. -/
theorem warns_walk_items (sources : Sources)
    (hfile : ∀ ctx, Warns workspace_root fun scanner => walk_file scanner root ctx) (ctx : Ctx) :
    ∀ items, Warns workspace_root fun scanner => scanner.walk_items sources walk_file root ctx items
  | [] => warns_of_quiet (.ok ()) (fun _ => rfl) fun _ => rfl
  | item :: items =>
    (warns_walk_item sources hfile ctx item).andThen (warns_walk_items sources hfile ctx items)

/-- Walking an item warns alike, if walking files does. -/
theorem warns_walk_item (sources : Sources)
    (hfile : ∀ ctx, Warns workspace_root fun scanner => walk_file scanner root ctx) (ctx : Ctx) :
    ∀ item, Warns workspace_root fun scanner => scanner.walk_item sources walk_file root ctx item
  | .Mod attrs ident none => by
    simp only [Scanner.walk_item, Scanner.walk_mod]
    split
    · exact hfile _
    · refine ⟨[missing_file workspace_root ctx ident.to_string], .ok (), fun scanner hscanner => ?_⟩
      subst hscanner
      exact ⟨rfl, rfl, rfl⟩
  | .Mod attrs ident (some items) => by
    simp only [Scanner.walk_item, Scanner.walk_mod]
    exact .after (fun scanner => (register_quiet scanner root _).1)
      (fun scanner => (register_quiet scanner root _).2) (warns_walk_items sources hfile _ items)
  | .Use u => warns_of_quiet (.ok ()) (fun scanner => (record_use_quiet scanner ctx u _).1)
      fun scanner => (record_use_quiet scanner ctx u _).2
  | .Other attrs children => warns_of_quiet (.ok ())
      (fun scanner => (record_other_quiet scanner ctx _ attrs children).1)
      fun scanner => (record_other_quiet scanner ctx _ attrs children).2

end

/-- And so does a walk of a file. -/
theorem warns_walk_file (sources : Sources) (stack : Nat) (root : String) (ctx : Ctx) :
    Warns workspace_root fun scanner => scanner.walk_file sources stack root ctx := by
  induction stack generalizing ctx with
  | zero => exact warns_of_quiet .panic (fun _ => rfl) fun _ => rfl
  | succ stack ih =>
    unfold Scanner.walk_file
    split
    · exact warns_of_quiet (.err _) (fun _ => rfl) fun _ => rfl
    split
    · exact warns_of_quiet (.err _) (fun _ => rfl) fun _ => rfl
    · exact .after (fun scanner => (register_quiet scanner root ctx).1)
        (fun scanner => (register_quiet scanner root ctx).2) (warns_walk_items sources ih ctx _)

end

end archlint.scan
