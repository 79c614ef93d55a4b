import AngzarrRouter.Text.Split
import Mathlib.Tactic.Common

open text

namespace archlint.syntax

/-- `proc_macro2::Ident`: never empty, and free of the path separator. -/
structure Ident where
  to_string : String
  ne_empty : to_string ≠ ""
  no_colon : ':' ∉ to_string.toList
deriving DecidableEq, Repr

/-- What an attribute holds after its path: nothing, a list's tokens as they
print, or a value, if that is a string literal. -/
inductive Meta where
  | Path
  | List (tokens : String)
  | NameValue (value : Option String)
deriving DecidableEq, Repr

/-- A path that an attribute is written with: its own, or one in its tokens. -/
structure AttributePath where
  segments : List Ident
  leading_colon : Bool
  line : Nat
deriving DecidableEq, Repr

/-- `syn::Attribute`, with its path if that is a lone identifier. -/
structure Attribute where
  ident : Option String
  contents : Meta
  paths : List AttributePath := []
deriving DecidableEq, Repr

inductive UseTree where
  | Path (ident : Ident) (tree : UseTree)
  | Name (ident : Ident)
  | Rename (ident rename : Ident)
  | Glob
  | Group (items : List UseTree)

structure ItemUse where
  attrs : List Attribute
  leading_colon : Bool
  tree : UseTree
  line : Nat

/-- The part of an item's syntax that a visitor of its paths stops at. Every
other node is `Other`, with the attributes it has: its children are visited in
order. -/
inductive Node where
  | Path (segments : List Ident) (leading_colon : Bool) (line : Nat) (arguments : List Node)
  | ItemUse (use_item : ItemUse)
  | ItemMod (content : List Node)
  | Item (attrs : List Attribute) (children : List Node)
  | ImplItem (attrs : List Attribute) (children : List Node)
  /-- A macro call: its path, the string literal that its body parses as, if it
  does, whether it parses as expressions between commas, and what it is. -/
  | Macro (segments : List Ident) (leading_colon : Bool) (line : Nat) (arguments : List Node)
      (literal : Option String) (parses : Bool) (body : List Node)
  /-- Tokens that `syn` leaves as they are, and the code that they are. -/
  | Tokens (code : List Node)
  | Other (attrs : List Attribute) (children : List Node)

/-- `syn::Item`, each with the attributes that the source's `item_attrs` answers
for it: its own, or none for a kind it leaves out. -/
inductive Item where
  | Mod (attrs : List Attribute) (ident : Ident) (content : Option (List Item))
  | Use (use_item : ItemUse)
  | Other (attrs : List Attribute) (children : List Node)

/-- `char::is_alphanumeric`, which reads the Unicode tables. -/
class Alphanumeric where
  is_alphanumeric : Char → Bool
  ascii : ∀ c : Char, c.toNat < 128 → is_alphanumeric c = c.isAlphanum

/-- The source's `words`: the runs of letters, digits and `_` of a text. -/
def words [Alphanumeric] (text : String) : List String :=
  let parts := text.toList.splitOnP fun c => !(Alphanumeric.is_alphanumeric c || c == '_')
  (parts.filter fun word => !word.isEmpty).map .ofList

/-- Whether the attributes gate an item on `test` (and not on `not(test)`). -/
def is_cfg_test [Alphanumeric] (attrs : List Attribute) : Bool :=
  attrs.any fun a =>
    a.ident == some "cfg" &&
      match a.contents with
      | .List tokens =>
        let words := words tokens
        words.contains "test" && !words.contains "not"
      | _ => false

def path_attr (attrs : List Attribute) : Option String :=
  (attrs.find? fun a => a.ident == some "path").bind fun a =>
    match a.contents with
    | .NameValue value => value
    | _ => none

mutual

/-- The leaves of a use tree: each one's path and the name it imports. -/
def flatten_use : UseTree → List String → List (List String × Option String)
  | .Path ident tree, front => flatten_use tree (front ++ [ident.to_string])
  | .Name ident, front =>
    if ident.to_string = "self" then [(front, front.getLast?)]
    else [(front ++ [ident.to_string], some ident.to_string)]
  | .Rename ident rename, front =>
    let path := if ident.to_string = "self" then front else front ++ [ident.to_string]
    [(path, if rename.to_string ≠ "_" then some rename.to_string else none)]
  | .Glob, front => [(front, none)]
  | .Group items, front => flatten_group items front

/-- `flatten_use`'s loop over a group. -/
def flatten_group : List UseTree → List String → List (List String × Option String)
  | [], _ => []
  | t :: items, front => flatten_use t front ++ flatten_group items front

end

end archlint.syntax
