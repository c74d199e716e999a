import ObjectGraph.Declaration.Token
import ObjectGraph.Declaration.Token.Literal
import ObjectGraph.Text.Quoted

/-!
The tokens of a text. Blanks and comments divide tokens; a comment that documents what follows
stands for an attribute. Brackets have to be paired. A text with a character that begins no token
has no tokens.
-/

set_option autoImplicit false
namespace ObjectGraph.Declaration

open Text (isIdentifierStart isIdentifierContinue)

/-- Ranges, above the ASCII range, of the blanks: spaces, separators and the marks that only give a
direction of writing. -/
def blankRanges : List (Nat × Nat) := [
  (0x85, 0x85), (0xA0, 0xA0), (0x1680, 0x1680), (0x2000, 0x200A), (0x200E, 0x200F), (0x2028, 0x2029),
  (0x202F, 0x202F), (0x205F, 0x205F), (0x3000, 0x3000)]

def isBlank (c : Char) : Bool :=
  if c.toNat < 128 then c == ' ' || (9 ≤ c.toNat && c.toNat ≤ 13)
  else blankRanges.any fun (first, last) => first ≤ c.toNat && c.toNat ≤ last

def markChars : List Char :=
  ['~', '!', '@', '#', '$', '%', '^', '&', '*', '-', '=', '+', '|', ';', ':', ',', '<', '.', '>', '/',
    '?', '\'']

namespace Token

def startsComment : List Char → Bool
  | '/' :: '/' :: _ | '/' :: '*' :: _ => true
  | _ => false

/-- Whether a text begins with a mark. A comment is none. -/
def startsMark (text : List Char) : Bool :=
  !startsComment text && text.head?.any markChars.contains

/-- What follows a comment in brackets, of which that many are open. -/
def afterComment : Nat → List Char → Option (List Char)
  | _, [] => none
  | depth, '/' :: '*' :: cs => afterComment (depth + 1) cs
  | 1, '*' :: '/' :: cs => some cs
  | depth + 1, '*' :: '/' :: cs => afterComment depth cs
  | depth, _ :: cs => afterComment depth cs

def hasLineBreaks : List Char → Bool
  | [] => true
  | '\r' :: '\n' :: cs => hasLineBreaks cs
  | '\r' :: _ => false
  | _ :: cs => hasLineBreaks cs

def documentation (isInner : Bool) (text : List Char) : Option (List Token) :=
  if hasLineBreaks text then
    some ([mark '#' false] ++ (if isInner then [mark '!' false] else [])
      ++ [opening .square, word "doc", mark '=' false,
        literal (Text.quoteString (String.ofList text)), closing .square])
  else none

/-- Whether a comment documents what it stands in, or else what follows, by what is written behind
the two characters that begin it. A third character twice is a rule across the page. -/
def documents? (third : Char) : List Char → Option Bool
  | '!' :: _ => some true
  | c :: cs => if c = third && cs.head? != some third then some false else none
  | [] => none

def ofLineComment (text : List Char) : Option (List Token × List Char) :=
  let line := text.takeWhile (· != '\n')
  let rest := text.dropWhile (· != '\n')
  match documents? '/' text with
  | some isInner =>
    let isBroken := !rest.isEmpty && line.getLast? == some '\r'
    let shown := if isBroken then line.dropLast else line
    (documentation isInner (shown.drop 1)).map (·, rest)
  | none => some ([], rest)

def ofComment (text : List Char) : Option (List Token × List Char) := do
  let rest ← afterComment 1 text
  let shown := (takenFrom text rest).dropLast.dropLast
  match if shown.isEmpty then none else documents? '*' text with
  | some isInner => (documentation isInner (shown.drop 1)).map (·, rest)
  | none => some ([], rest)

/-- The words that keep their meaning behind the sign that makes a word a plain name. -/
def reservedNames : List String :=
  ["_", "super", "self", "Self", "crate"]

def ofWord : List Char → Option (String × List Char)
  | 'r' :: '#' :: cs =>
    let name := cs.takeWhile isIdentifierContinue
    if cs.head?.any isIdentifierStart && !reservedNames.contains (String.ofList name) then
      some (String.ofList ('r' :: '#' :: name), cs.dropWhile isIdentifierContinue)
    else none
  | cs =>
    if cs.head?.any isIdentifierStart then
      some (String.ofList (cs.takeWhile isIdentifierContinue), cs.dropWhile isIdentifierContinue)
    else none

def quotedStarts : List String :=
  ["r\"", "r#\"", "r##", "b\"", "b'", "br\"", "br#", "c\"", "cr\"", "cr#"]

def ofLifetime (text : List Char) : Option (Token × List Char) :=
  match ofWord text with
  | some (name, rest) =>
    let isRaw := ['r', '#'].isPrefixOf text
    if rest.head? == some '\'' || (rest.head? == some '#' && !isRaw) then none
    else some (lifetime name, rest)
  | none => none

def ofLeaf (text : List Char) : Option (Token × List Char) :=
  match Literal.after text with
  | some rest => some (literal (String.ofList (takenFrom text rest)), rest)
  | none =>
    match text with
    | '\'' :: cs => ofLifetime cs
    | ':' :: ':' :: cs => some (separator, cs)
    | c :: cs =>
      if startsMark text then some (mark c (startsMark cs), cs)
      else if quotedStarts.any (·.toList.isPrefixOf text) then none
      else (ofWord text).map fun (name, rest) => (word name, rest)
    | [] => none

/-- The tokens of the first blank, comment, bracket or other token of a text, and what follows. -/
def ofStart : List Char → Option (List Token × List Char)
  | [] => some ([], [])
  | '/' :: '/' :: cs => ofLineComment cs
  | '/' :: '*' :: cs => ofComment cs
  | '(' :: cs => some ([opening .round], cs)
  | '[' :: cs => some ([opening .square], cs)
  | '\x7b' :: cs => some ([opening .curly], cs)
  | ')' :: cs => some ([closing .round], cs)
  | ']' :: cs => some ([closing .square], cs)
  | '\x7d' :: cs => some ([closing .curly], cs)
  | c :: cs =>
    if isBlank c then some ([], cs)
    else (ofLeaf (c :: cs)).map fun (token, rest) => ([token], rest)

/-- The brackets that are open after a token, given those that are open before it. -/
def openAfter (before : List Bracket) : Token → Option (List Bracket)
  | opening bracket => some (bracket :: before)
  | closing bracket =>
    match before with
    | last :: others => if last = bracket then some others else none
    | [] => none
  | _ => some before

def scanWithin (before : List Bracket) (text : List Char) : Option (List Token) :=
  match text with
  | [] => if before.isEmpty then some [] else none
  | c :: cs => do
    let (tokens, rest) ← ofStart (c :: cs)
    let inside ← tokens.foldlM openAfter before
    let others ← scanWithin inside (endLike cs rest)
    return tokens ++ others
termination_by text.length
decreasing_by
  have := length_endLike_le cs rest
  simp only [List.length_cons]
  omega

/-- The tokens of a text. A mark of the byte order may begin it. -/
def scan (text : String) : Option (List Token) :=
  match text.toList with
  | '\uFEFF' :: cs => scanWithin [] cs
  | cs => scanWithin [] cs

end Token
end ObjectGraph.Declaration
