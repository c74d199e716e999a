import ObjectGraph.Declaration.Token

/-!
What is wrong with a declaration where it breaks the grammar. An error says what was expected, and
whether the tokens had come to an end there; inside brackets they end with the closing bracket.
-/

set_option autoImplicit false
namespace ObjectGraph.Declaration

inductive SyntaxError where
  | expected (choices : List String)
  | endOfInput (choices : List String)
  | mark (text : String)
  | keyword (word : String)
  | unexpected
  | noInterface
  | noFlag
  | literal
deriving DecidableEq, Repr

namespace SyntaxError

def choiceText : List String → String
  | [one, other] => s!"expected {one} or {other}"
  | [one] => "expected " ++ one
  | choices => "expected one of: " ++ ", ".intercalate choices

def message : SyntaxError → String
  | expected choices => choiceText choices
  | endOfInput choices => "unexpected end of input, " ++ choiceText choices
  | mark text => s!"expected `{text}`"
  | keyword word => s!"expected identifier, found keyword `{word}`"
  | unexpected => "unexpected token"
  | noInterface => "at least one trait is required for an object type"
  | noFlag => "unexpected token in nested attribute, expected ident"
  | literal => "unexpected literal in nested attribute, expected ident"

end SyntaxError

def isEnd : List Token → Bool
  | [] => true
  | .closing _ :: _ => true
  | _ => false

def missing (choices : List String) (tokens : List Token) : SyntaxError :=
  if isEnd tokens then .endOfInput choices else .expected choices

theorem bind_eq_ok {ε α β : Type} {first : Except ε α} {next : α → Except ε β} {result : β} :
    (first >>= next) = .ok result ↔ ∃ value, first = .ok value ∧ next value = .ok result := by
  cases first <;> simp [bind, Except.bind]

end ObjectGraph.Declaration
