import AngzarrRouter.Archlint.Scan.Written

open text archlint.model archlint.scan

namespace archlint.syntax

/-- The paths that attributes are written with, as code. -/
def bare_attrs (attrs : List Attribute) : List Node :=
  attrs.flatMap fun a => a.paths.map fun path => .Path path.segments path.leading_colon path.line []

mutual

/-- A node with all of its code where a visitor comes to it: a module in a body,
tokens, the body of a macro, whether it parses or not, and attributes. -/
def Node.bare : Node → Node
  | .Path segments leading_colon line arguments =>
    .Path segments leading_colon line (bare_nodes arguments)
  | .ItemUse u => .ItemUse u
  | .ItemMod content => .Other [] (bare_nodes content)
  | .Item attrs children => .Item attrs (bare_nodes children ++ bare_attrs attrs)
  | .ImplItem attrs children => .ImplItem attrs (bare_nodes children ++ bare_attrs attrs)
  | .Macro segments leading_colon line arguments literal _ body =>
    .Macro segments leading_colon line (bare_nodes arguments) literal true (bare_nodes body)
  | .Tokens code => .Other [] (bare_nodes code)
  | .Other attrs children => .Other attrs (bare_nodes children ++ bare_attrs attrs)

def bare_nodes : List Node → List Node
  | [] => []
  | node :: nodes => node.bare :: bare_nodes nodes

end

/-- The code of a module's attributes, or of a `use`'s, beside it. -/
def beside_attrs (attrs : List Attribute) : Item := .Other attrs (bare_attrs attrs)

mutual

def Item.bare : Item → List Item
  | .Mod attrs ident none => [.Mod attrs ident none, beside_attrs attrs]
  | .Mod attrs ident (some items) => [.Mod attrs ident (some (bare_items items)), beside_attrs attrs]
  | .Use u => [.Use u, beside_attrs u.attrs]
  | .Other attrs children => [.Other attrs (bare_nodes children ++ bare_attrs attrs)]

def bare_items : List Item → List Item
  | [] => []
  | item :: items => item.bare ++ bare_items items

end

theorem bare_nodes_eq_map (nodes : List Node) : bare_nodes nodes = nodes.map Node.bare := by
  induction nodes with
  | nil => rfl
  | cons node nodes ih => rw [bare_nodes, ih, List.map_cons]

theorem bare_items_eq_flatMap (items : List Item) : bare_items items = items.flatMap Item.bare := by
  induction items with
  | nil => rfl
  | cons item items ih => rw [bare_items, ih, List.flatMap_cons]

end archlint.syntax

namespace archlint.scan

open archlint.syntax

/-- The sources with all of their code laid bare, a file's inner attributes
after its items. -/
def Sources.bare (sources : Sources) : Sources :=
  { sources with
    parse_file text := (sources.parse_file text).map fun items =>
      bare_items items ++ [beside_attrs (sources.file_attrs text)] }

/-- What code names where a visitor comes to it, it names laid bare. -/
theorem Mentions.bare {node : Node} {gates : List Gate} {mention : Mention}
    (hmentions : Mentions node gates mention) : Mentions node.bare gates mention := by
  have hbare {node : Node} {nodes : List Node} (hnode : node ∈ nodes) :
      node.bare ∈ bare_nodes nodes := by
    rw [bare_nodes_eq_map]
    exact List.mem_map_of_mem hnode
  induction hmentions with
  | path hpath => exact .path hpath
  | argument hnode _ ih => exact .argument (hbare hnode) ih
  | leaf hleaf => exact .leaf hleaf
  | item hnode _ ih => exact .item (List.mem_append_left _ (hbare hnode)) ih
  | impl_item hnode _ ih => exact .impl_item (List.mem_append_left _ (hbare hnode)) ih
  | macro_file hname => exact .macro_file hname
  | macro_arg hnode _ ih => exact .macro_arg (hbare hnode) ih
  | macro_path hpath => exact .macro_path hpath
  | macro_argument hnode _ ih => exact .macro_argument (hbare hnode) ih
  | other hnode _ ih => exact .other (List.mem_append_left _ (hbare hnode)) ih

section

variable [Alphanumeric] {sources : Sources} {workspace_root : PathBuf}

mutual

/-- And what an item has scanning find, one of its bare items does. -/
theorem Writes.bare {ctx : Ctx} {item : Item} {finding : Finding} :
    Writes sources workspace_root ctx item finding →
      ∃ opened ∈ item.bare, Writes sources.bare workspace_root ctx opened finding
  | .imports hleaf => ⟨_, List.mem_cons_self, .imports hleaf⟩
  | .path hpath => ⟨_, List.mem_singleton_self _, .path hpath.bare⟩
  | .file hfile => ⟨_, List.mem_singleton_self _, .file hfile.bare⟩
  | .missing hmissing => ⟨_, List.mem_cons_self, .missing hmissing⟩
  | .inline_module => ⟨_, List.mem_cons_self, .inline_module⟩
  | .inline hitem hinside => by
    obtain ⟨opened, hopened, hwrites⟩ := hinside.bare
    refine ⟨_, List.mem_cons_self, .inline ?_ hwrites⟩
    rw [bare_items_eq_flatMap]
    exact List.mem_flatMap.mpr ⟨_, hitem, hopened⟩
  | .declared hfile hinside => ⟨_, List.mem_cons_self, .declared hfile hinside.bare⟩

theorem FileWrites.bare {ctx : Ctx} {finding : Finding} :
    FileWrites sources workspace_root ctx finding →
      FileWrites sources.bare workspace_root ctx finding
  | .module => .module
  | .item hread hparse hitem hinside => by
    obtain ⟨opened, hopened, hwrites⟩ := hinside.bare
    refine .item hread (congrArg (Except.map _) hparse) (List.mem_append_left _ ?_) hwrites
    rw [bare_items_eq_flatMap]
    exact List.mem_flatMap.mpr ⟨_, hitem, hopened⟩

end

end

end archlint.scan
