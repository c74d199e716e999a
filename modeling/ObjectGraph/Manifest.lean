import ObjectGraph.Declaration.Grammar
import ObjectGraph.Document.Text

/-!
Where a package is found from within another one. The manifest of the other package lists what it
depends on. A package that is listed is found under its own name; one of the family `vc_` is also
found through the family's common package `vc_graph`, under the rest of its name. The main
dependencies are looked at before those for development, and a package that neither leads to is
looked for under its own name.
-/

set_option autoImplicit false
namespace ObjectGraph

inductive SectionForm where
  | table
  | inlineTable
  | dotted
  | subtables
  | string
  | list
deriving DecidableEq, Repr

/-- A section of a manifest with the keys in it. Names and keys stand as they are written. -/
structure ManifestSection where
  name : String
  form : SectionForm
  keys : List String
deriving DecidableEq, Repr

def ManifestSection.lines (part : ManifestSection) : List String :=
  let assigned (key : String) : String := key ++ " = \"1\""
  match part.form with
  | .table => s!"[{part.name}]" :: part.keys.map assigned
  | .inlineTable =>
    [part.name ++ " = \x7b " ++ ", ".intercalate (part.keys.map assigned) ++ " \x7d"]
  | .dotted => part.keys.map fun key => s!"{part.name}.{assigned key}"
  | .subtables => part.keys.map fun key => s!"[{part.name}.{key}]"
  | .string => [part.name ++ " = \"" ++ ",".intercalate part.keys ++ "\""]
  | .list => s!"[[{part.name}]]" :: part.keys.map assigned

/-- A manifest: a document of which some tables list dependencies. -/
structure Manifest where
  document : Document
deriving Repr

structure InvalidPath where
  text : String
deriving DecidableEq, Repr

def InvalidPath.message (error : InvalidPath) : String :=
  s!"`{error.text}` is not a valid path"

namespace Manifest

open Declaration (ItemPath PathSegment)

/-- The manifest with the sections. A section without a header of its own belongs to the table that
the section before it opens. -/
def ofSections? (sections : List ManifestSection) : Option Manifest :=
  (Document.ofText? (String.join ((sections.flatMap (·.lines)).map (· ++ "\n")))).map (⟨·⟩)

/-- The package through which every package of the family is found. -/
def commonPackage : String :=
  "vc_graph"

def familyStart : String :=
  "vc_"

def dependencyTables : List String :=
  ["dependencies", "dev-dependencies"]

def keys? (manifest : Manifest) (name : String) : Option (List String) :=
  match manifest.document.get? name with
  | some (.table _ entries) => some (entries.map Prod.fst)
  | _ => none

def familyName? (name : String) : Option String :=
  if familyStart.toList.isPrefixOf name.toList then
    some (String.ofList (name.toList.drop familyStart.length))
  else none

def path (text : String) : Except InvalidPath ItemPath :=
  match ItemPath.ofText? text with
  | some path => .ok path
  | none => .error ⟨text⟩

def segment (text : String) : Except InvalidPath PathSegment :=
  match ItemPath.ofText? text with
  | some ⟨false, [segment]⟩ => .ok segment
  | _ => .error ⟨text⟩

def ownPath (name : String) : Except InvalidPath ItemPath :=
  path ("::" ++ name)

def commonPath (rest : String) : Except InvalidPath ItemPath := do
  let last ← segment rest
  return ⟨true, [⟨commonPackage, ""⟩, last]⟩

def pathIn? (keys : List String) (name : String) : Option (Except InvalidPath ItemPath) :=
  if keys.contains name then some (ownPath name)
  else if keys.contains commonPackage then (familyName? name).map commonPath
  else none

def packagePath (manifest : Manifest) (name : String) : Except InvalidPath ItemPath :=
  match (dependencyTables.filterMap manifest.keys?).findSome? (pathIn? · name) with
  | some path => path
  | none => ownPath name

end Manifest
end ObjectGraph
