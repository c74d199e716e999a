import ObjectGraph.Declaration.Item

/-!
Declarations of functions, and the items of a block that a function is one of. Of a function its
signature and its attributes are kept, those at the start of its body among them; of other items
nothing is. A function without a body is no function of the block.
-/

set_option autoImplicit false
namespace ObjectGraph.Declaration

/-- How a function takes the object that it belongs to: not at all, by a reference through which it
may be shared or changed, or in another way. -/
inductive Receiver where
  | none
  | shared
  | exclusive
  | other
deriving DecidableEq, Repr

structure FunctionDecl where
  name : String
  receiver : Receiver
  parameters : List TypeExpr
  isVariadic : Bool
  result : Option TypeExpr
  visibility : Visibility
  modifiers : List Token
  typeParameters : List Token
  attributes : List Attribute
deriving Repr

inductive BlockItem where
  | function (decl : FunctionDecl)
  | other
deriving Repr

/-- What a function takes: its object, types, and perhaps an open number of further arguments. -/
structure ParametersDecl where
  types : List TypeExpr
  isVariadic : Bool
deriving Repr

namespace Receiver

/-- The receiver that begins behind the sign of a reference, if it has one, and the tokens after
it. A receiver with a type of its own is not a plain reference. -/
def readOwn (isReference : Bool) (tokens : List Token) : Option (Receiver × List Token) :=
  let (isMutable, rest) := match tokens with
    | .word "mut" :: rest => (true, rest)
    | _ => (false, tokens)
  match rest with
  | .word "self" :: .separator :: _ => Option.none
  | .word "self" :: .mark ':' _ :: rest =>
    if isReference then Option.none else (TypeExpr.read? rest).map fun (_, rest) => (other, rest)
  | .word "self" :: rest =>
    some (if !isReference then other else if isMutable then exclusive else shared, rest)
  | _ => Option.none

def read? (tokens : List Token) : Option (Receiver × List Token) :=
  match tokens with
  | .mark '&' _ :: .lifetime _ :: rest | .mark '&' _ :: rest => readOwn true rest
  | _ => readOwn false tokens

end Receiver

namespace ParametersDecl

def cons (type : TypeExpr) (parameters : ParametersDecl) : ParametersDecl :=
  { parameters with types := type :: parameters.types }

def areDots : List Token → Bool
  | [.mark '.' true, .mark '.' true, .mark '.' _] => true
  | [.mark '.' true, .mark '.' true, .mark '.' _, .mark ',' _] => true
  | _ => false

def afterPattern (tokens : List Token) : List Token :=
  (Grammar.seek (Token.isMark ':') 0 tokens).drop 1

def read (tokens : List Token) : Option ParametersDecl :=
  match tokens with
  | [] => some ⟨[], false⟩
  | token :: more => do
    let (_, rest) ← Attribute.readAll false (token :: more)
    if areDots rest || areDots (afterPattern rest) then return ⟨[], true⟩
    let (type, rest) ← TypeExpr.read? (afterPattern rest)
    match rest with
    | [] => return ⟨[type], false⟩
    | .mark ',' _ :: rest => return (← read (endLike more rest)).cons type
    | _ => none
termination_by tokens.length
decreasing_by
  have := length_endLike_le more rest
  simp only [List.length_cons]
  omega

def readWithReceiver (tokens : List Token) : Option (Receiver × ParametersDecl) := do
  let (_, rest) ← Attribute.readAll false tokens
  match Receiver.read? rest with
  | some (receiver, []) => return (receiver, ⟨[], false⟩)
  | some (receiver, .mark ',' _ :: rest) => return (receiver, ← read rest)
  | some _ => none
  | none => return (.none, ← read tokens)

end ParametersDecl

namespace FunctionDecl

def readResult : List Token → Option (Option TypeExpr × List Token)
  | .mark '-' true :: .mark '>' _ :: rest =>
    (TypeExpr.read? rest).map fun (type, rest) => (some type, rest)
  | rest => some (none, rest)

def readBody : List Token → Option (Option (List Attribute) × List Token)
  | .opening .curly :: inside => do
    let (body, rest) := Token.readBrackets inside
    let (attributes, _) ← Attribute.readAll true body
    return (some attributes, rest)
  | .mark ';' _ :: rest => some (none, rest)
  | _ => none

end FunctionDecl

namespace BlockItem

/-- A function with what stands in front of it, from behind the word for functions, and the tokens
after it. -/
def readFunction (attributes : List Attribute) (visibility : Visibility) (modifiers : List Token)
    (tokens : List Token) : Option (BlockItem × List Token) := do
  let (name, rest) ← Grammar.readName tokens
  let (typeParameters, rest) := Grammar.readParameters rest
  match rest with
  | .opening .round :: inside => do
    let (inside, rest) := Token.readBrackets inside
    let (receiver, ⟨types, isVariadic⟩) ← ParametersDecl.readWithReceiver inside
    let (result, rest) ← FunctionDecl.readResult rest
    let (body, rest) ← FunctionDecl.readBody (Grammar.afterConditions rest)
    let item := body.elim other fun own =>
      function ⟨name, receiver, types, isVariadic, result, visibility, modifiers, typeParameters,
        attributes ++ own⟩
    return (item, rest)
  | _ => none

/-- What follows an item that is no function: the use of a macro, or something that a semicolon
ends. -/
def afterOther (tokens : List Token) : List Token :=
  match tokens.dropWhile Attribute.isPathToken with
  | .mark '!' _ :: .opening .curly :: inside => Token.afterBrackets 1 inside
  | _ => (Grammar.seek (Token.isMark ';') 0 tokens).drop 1

def read (tokens : List Token) : Option (BlockItem × List Token) := do
  let (attributes, rest) ← Attribute.readAll false tokens
  let (visibility, rest) := Grammar.readVisibility rest
  let (modifiers, rest) := Grammar.readModifiers rest
  match rest with
  | .word "fn" :: rest => readFunction attributes visibility modifiers rest
  | rest => return (other, afterOther rest)

def readAll (tokens : List Token) : Option (List BlockItem) :=
  match tokens with
  | [] => some []
  | token :: more => do
    let (first, rest) ← read (token :: more)
    return first :: (← readAll (endLike more rest))
termination_by tokens.length
decreasing_by
  have := length_endLike_le more rest
  simp only [List.length_cons]
  omega

end BlockItem
end ObjectGraph.Declaration
