import ObjectGraph.Declaration.Rest
import ObjectGraph.Text.Identifier

/-!
Tokens of a declaration, and the one spelling of a token sequence: tokens stand without blanks,
except that a blank divides two words. So `& mut  T` and `&mut T` are both spelled `&mut T`, and
`[u8; 4]` is spelled `[u8;4]`.
-/

set_option autoImplicit false
namespace ObjectGraph.Declaration

inductive Bracket where
  | round
  | square
  | curly
deriving DecidableEq, Repr

def Bracket.left : Bracket → Char
  | round => '('
  | square => '['
  | curly => '\x7b'

def Bracket.right : Bracket → Char
  | round => ')'
  | square => ']'
  | curly => '\x7d'

/-- What the text of a declaration consists of. A mark is joined if another mark follows it at
once; two joined colons are a separator. -/
inductive Token where
  | word (text : String)
  | lifetime (name : String)
  | literal (text : String)
  | separator
  | mark (char : Char) (isJoined : Bool)
  | opening (bracket : Bracket)
  | closing (bracket : Bracket)
deriving DecidableEq, Repr

def Token.text : Token → String
  | word text => text
  | lifetime name => "'" ++ name
  | literal text => text
  | separator => "::"
  | mark char _ => String.singleton char
  | opening bracket => String.singleton bracket.left
  | closing bracket => String.singleton bracket.right

def Token.isMark (char : Char) : Token → Bool
  | mark c _ => c == char
  | _ => false

namespace Token

def afterMarks? : List Char → List Token → Option (List Token)
  | [], tokens => some tokens
  | [c], .mark d _ :: rest => if c = d then some rest else none
  | c :: cs, .mark d true :: rest => if c = d then afterMarks? cs rest else none
  | _, _ => none

/-- What follows the brackets, of which that many are open. -/
def afterBrackets : Nat → List Token → List Token
  | 0, tokens => tokens
  | _, [] => []
  | depth, .opening _ :: rest => afterBrackets (depth + 1) rest
  | depth + 1, .closing _ :: rest => afterBrackets depth rest
  | depth, _ :: rest => afterBrackets depth rest

def readBrackets (tokens : List Token) : List Token × List Token :=
  ((takenFrom tokens (afterBrackets 1 tokens)).dropLast, afterBrackets 1 tokens)

end Token

def isWordChar (c : Char) : Bool :=
  Text.isIdentifierContinue c

/-- Two texts side by side, with a blank between them where two words meet. -/
def beside (left right : String) : String :=
  match left.toList.getLast?, right.toList.head? with
  | some l, some r => if isWordChar l && isWordChar r then left ++ " " ++ right else left ++ right
  | _, _ => left ++ right

def spell (tokens : List Token) : String :=
  tokens.foldl (fun text token => beside text token.text) ""

end ObjectGraph.Declaration
