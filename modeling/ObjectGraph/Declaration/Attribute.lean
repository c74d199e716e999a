import ObjectGraph.Declaration.Grammar

/-!
Attributes: what a declaration says about itself in square brackets behind a number sign. An
attribute has a path, and besides nothing, a value, or a list of tokens in brackets. It stands in
front of what it is about, or at the start of it and then with an exclamation mark.
-/

set_option autoImplicit false
namespace ObjectGraph.Declaration

inductive AttributeContent where
  | nothing
  | value
  | list (tokens : List Token)
deriving DecidableEq, Repr

structure Attribute where
  path : List Token
  content : AttributeContent
deriving DecidableEq, Repr

namespace Attribute

def isPathToken : Token → Bool
  | .word _ | .separator => true
  | _ => false

def ofPlain? (tokens : List Token) : Option Attribute :=
  let path := tokens.takeWhile isPathToken
  if path.isEmpty then none
  else
    match tokens.drop path.length with
    | [] => some ⟨path, .nothing⟩
    | .mark '=' _ :: _ => some ⟨path, .value⟩
    | .opening _ :: inside =>
      let (list, after) := Token.readBrackets inside
      if after.isEmpty then some ⟨path, .list list⟩ else none
    | _ => none

/-- The attribute that tokens in square brackets are. It may stand in brackets of its own behind the
word `unsafe`. -/
def ofTokens? (tokens : List Token) : Option Attribute :=
  match tokens with
  | .word "unsafe" :: .opening .round :: inside => ofPlain? (Token.readBrackets inside).1
  | _ => ofPlain? tokens

def readAll (isInner : Bool) (tokens : List Token) : Option (List Attribute × List Token) :=
  match isInner, tokens with
  | false, .mark '#' _ :: .opening .square :: inside
  | true, .mark '#' _ :: .mark '!' _ :: .opening .square :: inside => do
    let (tokens, after) := Token.readBrackets inside
    let first ← ofTokens? tokens
    let (others, rest) ← readAll isInner (endLike inside after)
    return (first :: others, rest)
  | _, _ => some ([], tokens)
termination_by tokens.length
decreasing_by
  all_goals
    have := length_endLike_le inside after
    simp only [List.length_cons]
    omega

def pathText (given : Attribute) : String :=
  spell given.path

def listsFlags (given : Attribute) : Bool :=
  given.path == [.word "bean"]

end Attribute
end ObjectGraph.Declaration
