/-!
Paths into an object graph. A path is cut at its dots into segments; a segment is a name, a key in
brackets, or both, as in `orders[3].buyer.name`. Every text is a path: a bracket may stay open, and
what follows the first closing bracket of a segment has no meaning.
-/

set_option autoImplicit false
namespace ObjectGraph

/-- One piece of a path between dots, kept as it was written. -/
structure Segment where
  text : String
deriving DecidableEq, Repr

namespace Segment

def name (s : Segment) : String :=
  String.ofList (s.text.toList.takeWhile (· != '['))

/-- The text between the first opening bracket and the next closing one, or the end. -/
def key? (s : Segment) : Option String :=
  match s.text.toList.dropWhile (· != '[') with
  | [] => none
  | _ :: rest => some (String.ofList (rest.takeWhile (· != ']')))

def isIndexed (s : Segment) : Bool :=
  s.key?.isSome

def key (s : Segment) : String :=
  s.key?.getD ""

end Segment

/-- A path: at least one segment. -/
structure Path where
  first : Segment
  rest : List Segment
deriving DecidableEq, Repr

namespace Path

/-- The pieces of a text between its dots: the first one and the others. -/
def pieces : List Char → List Char × List (List Char)
  | [] => ([], [])
  | c :: cs =>
    if c = '.' then ([], (pieces cs).1 :: (pieces cs).2)
    else (c :: (pieces cs).1, (pieces cs).2)

def ofString (text : String) : Path :=
  let (first, rest) := pieces text.toList
  ⟨⟨String.ofList first⟩, rest.map fun piece => ⟨String.ofList piece⟩⟩

def segments (p : Path) : List Segment :=
  p.first :: p.rest

def tail? (p : Path) : Option Path :=
  match p.rest with
  | [] => none
  | next :: rest => some ⟨next, rest⟩

def text (p : Path) : String :=
  ".".intercalate (p.segments.map Segment.text)

def append (p q : Path) : Path :=
  ⟨p.first, p.rest ++ q.segments⟩

end Path

/-- One step into an object: through a property, or through the key of a container. -/
inductive AccessStep where
  | property (name : String)
  | key (key : String)
deriving DecidableEq, Repr

def Segment.steps (s : Segment) : List AccessStep :=
  match s.key? with
  | none => [.property s.name]
  | some key => if s.name = "" then [.key key] else [.property s.name, .key key]

def Path.steps (p : Path) : List AccessStep :=
  p.segments.flatMap Segment.steps

end ObjectGraph
