import AngzarrRouter.Text.Split
import Mathlib.Order.Lattice

namespace text

/-- `std::path::Component`, as Unix has them. -/
inductive Component where
  | RootDir
  | CurDir
  | ParentDir
  | Normal (name : String)
deriving DecidableEq, Ord, Repr

/-- `std::path::PathBuf`, held as the components that its comparisons read. -/
structure PathBuf where
  components : List Component
deriving DecidableEq, Ord, Repr

namespace PathBuf

/-- `PathBuf::new`. -/
def empty : PathBuf := ⟨[]⟩

/-- A component of a path's text, where `.` counts only at the path's front. -/
def component (front : Bool) (name : String) : Option Component :=
  if name = "" then none
  else if name = "." then if front then some .CurDir else none
  else if name = ".." then some .ParentDir
  else some (.Normal name)

/-- `PathBuf::from`. -/
def of (path : String) : PathBuf :=
  match split "/" path with
  | [] => empty
  | first :: rest =>
    let rest := rest.filterMap (component false)
    if first = "" then if path = "" then empty else ⟨.RootDir :: rest⟩
    else ⟨(component true first).toList ++ rest⟩

/-- `Path::join`. -/
def join (path more : PathBuf) : PathBuf :=
  match path.components, more.components with
  | [], _ => more
  | _, .RootDir :: _ => more
  | front, .CurDir :: back => ⟨front ++ back⟩
  | front, back => ⟨front ++ back⟩

/-- `Path::parent`. -/
def parent (path : PathBuf) : Option PathBuf :=
  match path.components.getLast? with
  | none | some .RootDir => none
  | some _ => some ⟨path.components.dropLast⟩

/-- `PathBuf::pop`. -/
def pop (path : PathBuf) : PathBuf := path.parent.getD path

/-- `PathBuf::push` of one component. -/
def push (path : PathBuf) (component : Component) : PathBuf := path.join ⟨[component]⟩

/-- `Path::strip_prefix`. -/
def strip_prefix (path base : PathBuf) : Option PathBuf :=
  if base.components <+: path.components then
    some ⟨path.components.drop base.components.length⟩
  else none

/-- How a component is written. -/
def name : Component → String
  | .RootDir => ""
  | .CurDir => "."
  | .ParentDir => ".."
  | .Normal name => name

/-- `Path::display`. -/
def display (path : PathBuf) : String :=
  if path.components = [.RootDir] then "/" else "/".intercalate (path.components.map name)

end PathBuf

end text
