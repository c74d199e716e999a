import ObjectGraph.Declaration.ItemPath

/-!
Type expressions of a declaration and the questions asked about them: whether values of the type
can be named, whether the type is optional, a reference, the text slice type or the declared type
itself. Each question looks at the outermost shape only; parentheses are looked through by no
question but the first.
-/

set_option autoImplicit false
namespace ObjectGraph.Declaration

/-- One argument in angle brackets: a type, a lifetime, a constant, or what a named item of the
type is bound to. -/
inductive Argument (α : Type) where
  | type (type : α)
  | lifetime (name : String)
  | constant (spelling : String)
  | binding (spelling : String)
deriving Repr

def Argument.isLifetime {α : Type} : Argument α → Bool
  | lifetime _ => true
  | _ => false

structure ArgumentStyle where
  hasSeparator : Bool
  endsWithComma : Bool
deriving DecidableEq, Repr

/-- A type as it is written. Shapes about which nothing is asked are kept as they are spelled. -/
inductive TypeExpr where
  | named (path : ItemPath)
  | generic (path : ItemPath) (style : ArgumentStyle) (arguments : List (Argument TypeExpr))
  | reference (isMutable : Bool) (lifetime : Option String) (target : TypeExpr)
  | array (element : TypeExpr) (length : String)
  | parenthesized (inner : TypeExpr)
  | tuple (elements : List TypeExpr) (endsWithComma : Bool)
  | other (spelling : String)
deriving Repr

namespace TypeExpr

structure SpelledArgument where
  isLifetime : Bool
  text : String
  hasComma : Bool
deriving DecidableEq, Repr

/-- The spelling of arguments. Lifetimes stand first, wherever they were written; an argument keeps
the comma that was written behind it, and gets one before it where one is missing. -/
def spellArguments (arguments : List SpelledArgument) : String :=
  let add (spelled : String × Bool) (argument : SpelledArgument) : String × Bool :=
    (spelled.1 ++ (if spelled.2 then "" else ",") ++ argument.text
      ++ (if argument.hasComma then "," else ""), argument.hasComma)
  let (lifetimes, others) := arguments.partition (·.isLifetime)
  ((lifetimes ++ others).foldl add ("", true)).1

mutual
def text : TypeExpr → String
  | named path => path.text
  | generic path style arguments =>
    path.text ++ (if style.hasSeparator then "::<" else "<")
      ++ spellArguments (argumentTexts style.endsWithComma arguments) ++ ">"
  | reference isMutable lifetime target =>
    let head := match lifetime with
      | some name => "&'" ++ name
      | none => "&"
    beside (if isMutable then beside head "mut" else head) target.text
  | array element length => "[" ++ element.text ++ ";" ++ length ++ "]"
  | parenthesized inner => "(" ++ inner.text ++ ")"
  | tuple elements endsWithComma =>
    "(" ++ ",".intercalate (elementTexts elements) ++ (if endsWithComma then ",)" else ")")
  | other spelling => spelling

/-- The spellings of arguments, with a comma behind each, but behind the last only if one is written
there. -/
def argumentTexts (endsWithComma : Bool) : List (Argument TypeExpr) → List SpelledArgument
  | [] => []
  | argument :: rest =>
    ⟨argument.isLifetime, argumentText argument, !rest.isEmpty || endsWithComma⟩
      :: argumentTexts endsWithComma rest

def argumentText : Argument TypeExpr → String
  | .type type => type.text
  | .lifetime name => "'" ++ name
  | .constant spelling => spelling
  | .binding spelling => spelling

def elementTexts : List TypeExpr → List String
  | [] => []
  | element :: rest => element.text :: elementTexts rest
end

/-- Whether a slot can be declared with the type: it is a path, or an array of such types. -/
def isNameable : TypeExpr → Bool
  | named _ => true
  | generic .. => true
  | array element _ => element.isNameable
  | parenthesized inner => inner.isNameable
  | _ => false

/-- The type of the value that an optional type may hold: `T` for `Option<T>`, under any path that
ends in `Option`. -/
def optionValue? : TypeExpr → Option TypeExpr
  | generic path _ [.type value] => if path.lastName? = some "Option" then some value else none
  | _ => none

def isText : TypeExpr → Bool
  | named path => path.name? == some "str"
  | _ => false

/-- Whether the type is the declared type itself: its bare name, or the word for it. -/
def isSelf (self : String) : TypeExpr → Bool
  | named path => path.name? == some "Self" || path.name? == some self
  | _ => false

def target? : TypeExpr → Option (TypeExpr × Bool)
  | reference isMutable _ target => some (target, isMutable)
  | _ => none

def name? : TypeExpr → Option String
  | named path => path.lastName?
  | generic path .. => path.lastName?
  | _ => none

def isUnit : TypeExpr → Bool
  | tuple [] _ => true
  | _ => false

def withoutOption (type : TypeExpr) : TypeExpr × Bool :=
  match type.optionValue? with
  | some value => (value, true)
  | none => (type, false)

end TypeExpr
end ObjectGraph.Declaration
