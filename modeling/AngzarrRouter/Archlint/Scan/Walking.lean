import AngzarrRouter.Archlint.Scan

open calls calls.MutCall
open text archlint.model archlint.syntax

namespace archlint.scan

/-- An item whose modules have such names, and whose `use` items are such. -/
inductive Named (names : Ident → Prop) (imports : ItemUse → Prop) : Item → Prop where
  | declared {attrs : List Attribute} {ident : Ident} (hident : names ident) :
    Named names imports (.Mod attrs ident none)
  | inline {attrs : List Attribute} {ident : Ident} {items : List Item} (hident : names ident)
    (hitems : ∀ item ∈ items, Named names imports item) :
    Named names imports (.Mod attrs ident (some items))
  | imports {u : ItemUse} (hu : imports u) : Named names imports (.Use u)
  | other {attrs : List Attribute} {children : List Node} : Named names imports (.Other attrs children)

mutual

theorem named_of_forall {names : Ident → Prop} {imports : ItemUse → Prop}
    (hnames : ∀ ident, names ident) (himports : ∀ u, imports u) :
    ∀ item, Named names imports item
  | .Mod _ ident none => .declared (hnames ident)
  | .Mod _ ident (some items) => .inline (hnames ident) (named_all_of_forall hnames himports items)
  | .Use u => .imports (himports u)
  | .Other _ _ => .other

theorem named_all_of_forall {names : Ident → Prop} {imports : ItemUse → Prop}
    (hnames : ∀ ident, names ident) (himports : ∀ u, imports u) :
    ∀ items : List Item, ∀ item ∈ items, Named names imports item
  | [] => List.forall_mem_nil _
  | item :: items => List.forall_mem_cons.mpr
      ⟨named_of_forall hnames himports item, named_all_of_forall hnames himports items⟩

end

/-- What scanning the files of one target preserves: a property of the scanner,
how it changes, and what makes a module's items ready to be walked. -/
structure Preserved [Alphanumeric] (root : String) where
  Holds : Scanner → Prop
  Becomes : Scanner → Scanner → Prop
  Ready : Scanner → String → Prop
  names : Ident → Prop
  imports : ItemUse → Prop
  refl : ∀ {scanner}, Holds scanner → Becomes scanner scanner
  trans : ∀ {before middle after}, Becomes before middle → Becomes middle after → Becomes before after
  holds : ∀ {before after}, Becomes before after → Holds after
  ready : ∀ {before after module}, Becomes before after → Ready before module → Ready after module
  register : ∀ {scanner parent ident}, Holds scanner → Ready scanner parent → names ident →
    ∀ ctx : Ctx, ctx.module = child_path parent ident.to_string →
      Becomes scanner (scanner.register root ctx) ∧ Ready (scanner.register root ctx) ctx.module
  record_use : ∀ {scanner} {ctx : Ctx} {u}, Holds scanner → Ready scanner ctx.module → imports u →
    ∀ scope, Becomes scanner (scanner.record_use ctx u scope true)
  record_other : ∀ {scanner} {ctx : Ctx}, Holds scanner → Ready scanner ctx.module →
    ∀ scope attrs children, Becomes scanner (scanner.record_other ctx scope attrs children)
  warn : ∀ {scanner}, Holds scanner → ∀ warnings, Becomes scanner { scanner with warnings }

namespace Preserved

section

variable [Alphanumeric] {root : String} (kept : Preserved root) (sources : Sources)
  {walk_file : Scanner → String → Ctx → MutCall Scanner String Unit}

/-- A call changes the scanner as what it does and what follows it do. -/
theorem andThen {α β : Type} {before : Scanner} {call : MutCall Scanner String α}
    {next : Scanner → α → MutCall Scanner String β} (hcall : kept.Becomes before call.1)
    (hnext : ∀ value, kept.Becomes call.1 (next call.1 value).1) :
    kept.Becomes before (call.andThen next).1 := by
  obtain ⟨left, value | error | _⟩ := call
  · exact kept.trans hcall (hnext value)
  · exact hcall
  · exact hcall

/-- Walks of the files of modules that are declared in such files. -/
def WalksFiles (walk_file : Scanner → String → Ctx → MutCall Scanner String Unit) : Prop :=
  ∀ ⦃scanner parent ident⦄, kept.Holds scanner → kept.Ready scanner parent → kept.names ident →
    ∀ ctx : Ctx, ctx.module = child_path parent ident.to_string →
      kept.Becomes scanner (walk_file scanner root ctx).1

mutual

/-- A walk of a module's items changes the scanner so, where walks of files do. -/
theorem walk_items (hfile : kept.WalksFiles walk_file) {scanner : Scanner} {ctx : Ctx}
    (hholds : kept.Holds scanner) (hready : kept.Ready scanner ctx.module) :
    ∀ items, (∀ item ∈ items, Named kept.names kept.imports item) →
      kept.Becomes scanner (scanner.walk_items sources walk_file root ctx items).1
  | [], _ => kept.refl hholds
  | item :: items, hnamed => by
    obtain ⟨hitem, hitems⟩ := List.forall_mem_cons.mp hnamed
    have hfirst := walk_item hfile hholds hready item hitem
    exact kept.andThen hfirst fun _ =>
      walk_items hfile (kept.holds hfirst) (kept.ready hfirst hready) items hitems

theorem walk_item (hfile : kept.WalksFiles walk_file) {scanner : Scanner} {ctx : Ctx}
    (hholds : kept.Holds scanner) (hready : kept.Ready scanner ctx.module) :
    ∀ item, Named kept.names kept.imports item →
      kept.Becomes scanner (scanner.walk_item sources walk_file root ctx item).1
  | .Mod attrs ident none, hnamed => by
    cases hnamed with
    | declared hident =>
      rw [Scanner.walk_item, Scanner.walk_mod]
      dsimp only
      split
      · exact hfile hholds hready hident _ rfl
      · exact kept.warn hholds _
  | .Mod attrs ident (some items), hnamed => by
    have hparts : kept.names ident ∧ ∀ item ∈ items, Named kept.names kept.imports item := by
      cases hnamed with
      | inline hident hitems => exact ⟨hident, hitems⟩
    rw [Scanner.walk_item, Scanner.walk_mod]
    obtain ⟨hentered, hthere⟩ := kept.register hholds hready hparts.1 {
      module := child_path ctx.module ident.to_string, file := ctx.file
      child_dir := ctx.child_dir.join (.of ident.to_string)
      scope := if is_cfg_test attrs then .Test else ctx.scope } rfl
    exact kept.trans hentered (walk_items hfile (kept.holds hentered) hthere items hparts.2)
  | .Use u, hnamed => by
    cases hnamed with
    | imports hu => exact kept.record_use hholds hready hu _
  | .Other attrs children, _ => kept.record_other hholds hready _ attrs children

end

end

section

variable [Alphanumeric] {root : String} (kept : Preserved root) (sources : Sources)

/-- A parser of files whose items are such. -/
def Parses : Prop :=
  ∀ text items, sources.parse_file text = .ok items →
    ∀ item ∈ items, Named kept.names kept.imports item

/-- So does a walk of a file whose module may be registered, however deep it
goes and however it ends. -/
theorem walk_file (hsources : kept.Parses sources) (stack : Nat) {scanner : Scanner} (ctx : Ctx)
    (hholds : kept.Holds scanner)
    (hentered : kept.Becomes scanner (scanner.register root ctx) ∧
      kept.Ready (scanner.register root ctx) ctx.module) :
    kept.Becomes scanner (scanner.walk_file sources stack root ctx).1 := by
  induction stack generalizing scanner ctx with
  | zero => exact kept.refl hholds
  | succ stack ih =>
    unfold Scanner.walk_file
    split
    · exact kept.refl hholds
    · split
      · exact kept.refl hholds
      · rename_i items hparse
        obtain ⟨hentered, hthere⟩ := hentered
        have hfile : kept.WalksFiles (Scanner.walk_file sources stack) :=
          fun _ _ _ hholds hparent hname ctx hctx =>
            ih ctx hholds (kept.register hholds hparent hname ctx hctx)
        exact kept.trans hentered (kept.walk_items sources hfile (kept.holds hentered) hthere items
          (hsources _ items hparse))

end

end Preserved

end archlint.scan
