import ObjectGraph.Declaration.Attribute

/-!
What declarations of every kind have in common: who may use what is declared, the words in front of
it that change its meaning, its type parameters, and the conditions on them. Of the parameters and
conditions only the extent is read.
-/

set_option autoImplicit false
namespace ObjectGraph.Declaration

inductive Visibility where
  | inherited
  | restricted
  | everyone
deriving DecidableEq, Repr

namespace Grammar

def readVisibility : List Token → Visibility × List Token
  | .word "pub" :: .opening .round :: .word "in" :: inside =>
    (.restricted, Token.afterBrackets 1 inside)
  | .word "pub" :: .opening .round :: .word word :: .closing _ :: rest =>
    if ["crate", "self", "super"].contains word then (.restricted, rest)
    else (.everyone, .opening .round :: .word word :: .closing .round :: rest)
  | .word "pub" :: rest => (.everyone, rest)
  | rest => (.inherited, rest)

def modifierWords : List String :=
  ["default", "const", "async", "unsafe", "extern"]

def readModifiers : List Token → List Token × List Token
  | .word "extern" :: .literal text :: rest =>
    let (others, rest) := readModifiers rest
    (.word "extern" :: .literal text :: others, rest)
  | .word word :: rest =>
    if modifierWords.contains word then
      let (others, rest) := readModifiers rest
      (.word word :: others, rest)
    else ([], .word word :: rest)
  | rest => ([], rest)

def readName : List Token → Option (String × List Token)
  | .word word :: rest => if isIdentifierWord word then some (word, rest) else none
  | _ => none

/-- What follows the angle brackets, of which that many are open. The arrow of a result closes
none. -/
def afterAngles : Nat → List Token → List Token
  | 0, tokens => tokens
  | _, [] => []
  | depth, .mark '-' true :: .mark '>' _ :: rest => afterAngles depth rest
  | depth, .mark '<' _ :: rest | depth, .opening _ :: rest => afterAngles (depth + 1) rest
  | depth + 1, .mark '>' _ :: rest | depth + 1, .closing _ :: rest => afterAngles depth rest
  | depth, _ :: rest => afterAngles depth rest

def readParameters (tokens : List Token) : List Token × List Token :=
  match tokens with
  | .mark '<' _ :: inside =>
    ((takenFrom inside (afterAngles 1 inside)).dropLast, afterAngles 1 inside)
  | _ => ([], tokens)

/-- What follows tokens up to the first one of a kind that stands in none of the brackets, given how
many brackets are open. -/
def seek (isWanted : Token → Bool) : Nat → List Token → List Token
  | _, [] => []
  | depth, token :: rest =>
    if depth = 0 && isWanted token then token :: rest
    else
      match token with
      | .opening _ => seek isWanted (depth + 1) rest
      | .closing _ => seek isWanted (depth - 1) rest
      | _ => seek isWanted depth rest

/-- Whether what is declared goes on, or ends, behind the conditions on type parameters. -/
def endsConditions (token : Token) : Bool :=
  token == .opening .curly || token.isMark ';'

def afterConditions : List Token → List Token
  | .word "where" :: rest => seek endsConditions 0 rest
  | tokens => tokens

end Grammar
end ObjectGraph.Declaration
