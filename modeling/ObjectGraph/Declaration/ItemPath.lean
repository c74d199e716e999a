import ObjectGraph.Declaration.Token

/-!
Paths of names, as in `::geometry::Point`. A segment is a name, and may carry arguments.
-/

set_option autoImplicit false
namespace ObjectGraph.Declaration

structure PathSegment where
  name : String
  arguments : String
deriving DecidableEq, Repr

/-- A path of names, absolute if it starts with a separator. -/
structure ItemPath where
  isAbsolute : Bool
  segments : List PathSegment
deriving DecidableEq, Repr

def keywords : List String :=
  ["_", "abstract", "as", "async", "await", "become", "box", "break", "const", "continue", "crate",
    "do", "dyn", "else", "enum", "extern", "false", "final", "fn", "for", "if", "impl", "in", "let",
    "loop", "macro", "match", "mod", "move", "mut", "override", "priv", "pub", "ref", "return",
    "Self", "self", "static", "struct", "super", "trait", "true", "try", "type", "typeof", "unsafe",
    "unsized", "use", "virtual", "where", "while", "yield"]

/-- The keywords that stand for a place in a path and take no arguments. -/
def placeWords : List String :=
  ["super", "self", "crate", "try"]

def isIdentifierWord (word : String) : Bool :=
  !keywords.contains word

namespace ItemPath

def segmentText (segment : PathSegment) : String :=
  segment.name ++ segment.arguments

def text (path : ItemPath) : String :=
  (if path.isAbsolute then "::" else "") ++ "::".intercalate (path.segments.map segmentText)

def names (path : ItemPath) : List String :=
  path.segments.map PathSegment.name

def name? (path : ItemPath) : Option String :=
  match path.isAbsolute, path.segments with
  | false, [⟨name, ""⟩] => some name
  | _, _ => none

def lastName? (path : ItemPath) : Option String :=
  path.names.getLast?

end ItemPath
end ObjectGraph.Declaration
