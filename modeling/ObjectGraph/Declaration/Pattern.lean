import ObjectGraph.Declaration.Token

/-!
Patterns: what is asked of tokens where only their extent matters. A pattern matches tokens from
their start on, in at most one way: of two alternatives the first one that matches is taken, and a
repetition goes on for as long as it can. What stands in brackets is matched as a whole.
-/

set_option autoImplicit false
namespace ObjectGraph.Declaration

/-- What tokens are asked to be. Patterns name each other by rules; types and paths are read by
readers of their own. -/
inductive Pattern (ρ : Type) where
  | nothing
  | atEnd
  | tree
  | token (isWanted : Token → Bool)
  | marks (text : String)
  | inside (bracket : Bracket) (content : Pattern ρ)
  | type (mayGoOn : Bool)
  | path
  | rule (rule : ρ)
  | both (first second : Pattern ρ)
  | either (first second : Pattern ρ)
  | many (repeated : Pattern ρ)
  | no (refused : Pattern ρ)

namespace Pattern

variable {ρ : Type}

def all (patterns : List (Pattern ρ)) : Pattern ρ :=
  patterns.foldr both nothing

def any (patterns : List (Pattern ρ)) : Pattern ρ :=
  patterns.foldr either (no nothing)

def maybe (pattern : Pattern ρ) : Pattern ρ :=
  either pattern nothing

def word (text : String) : Pattern ρ :=
  token (· == .word text)

def words (texts : List String) : Pattern ρ :=
  any (texts.map word)

/-- Some of the pattern divided by commas, perhaps with a comma at the end. -/
def list (pattern : Pattern ρ) : Pattern ρ :=
  maybe (all [pattern, many (all [marks ",", pattern]), maybe (marks ",")])

def brackets : Pattern ρ :=
  any ([.round, .square, .curly].map (inside · (many tree)))

/-- How the parts of a pattern that have readers of their own are read: to what follows them. -/
structure Readers where
  type : Bool → List Token → Option (List Token)
  path : List Token → Option (List Token)

/-- What follows the tokens that a pattern matches. The number bounds how deeply patterns may use
others. -/
def after? (readers : Readers) (body : ρ → Pattern ρ) :
    Nat → Pattern ρ → List Token → Option (List Token)
  | 0, _, _ => none
  | fuel + 1, pattern, tokens =>
    match pattern, tokens with
    | nothing, _ => some tokens
    | atEnd, _ => if tokens.isEmpty then some tokens else none
    | tree, .opening _ :: inner => some (Token.readBrackets inner).2
    | tree, .closing _ :: _ => none
    | tree, _ :: rest => some rest
    | tree, [] => none
    | token isWanted, first :: rest => if isWanted first then some rest else none
    | token _, [] => none
    | marks text, _ => Token.afterMarks? text.toList tokens
    | inside bracket content, .opening found :: inner =>
      let (held, rest) := Token.readBrackets inner
      if found = bracket && (after? readers body fuel content held).any (·.isEmpty) then some rest
      else none
    | inside _ _, _ => none
    | type mayGoOn, _ => readers.type mayGoOn tokens
    | path, _ => readers.path tokens
    | rule name, _ => after? readers body fuel (body name) tokens
    | both first second, _ =>
      match after? readers body fuel first tokens with
      | some rest => after? readers body fuel second rest
      | none => none
    | either first second, _ =>
      match after? readers body fuel first tokens with
      | some rest => some rest
      | none => after? readers body fuel second tokens
    | many repeated, _ =>
      match after? readers body fuel repeated tokens with
      | some rest =>
        if rest.length < tokens.length then after? readers body fuel (many repeated) rest
        else some rest
      | none => some tokens
    | no refused, _ =>
      match after? readers body fuel refused tokens with
      | some _ => none
      | none => some tokens

end Pattern
end ObjectGraph.Declaration
