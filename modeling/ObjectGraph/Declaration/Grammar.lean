import ObjectGraph.Declaration.Expression
import ObjectGraph.Declaration.SyntaxError
import ObjectGraph.Declaration.Token.Scan
import ObjectGraph.Declaration.TypeExpr

/-!
The grammar of types and paths. Each reader is given the tokens from a certain point on;
it answers with what it has read and with the tokens after it, or with the first fault. The number
that each reader is given first bounds how deeply it may call others.
-/

set_option autoImplicit false
namespace ObjectGraph.Declaration

namespace Grammar

structure ArgumentsRead where
  style : ArgumentStyle
  items : List (Argument TypeExpr)

structure SegmentRead where
  name : String
  arguments? : Option ArgumentsRead
  spelling : String

structure PathRead where
  isAbsolute : Bool
  segments : List SegmentRead

/-- Where a path stands: in a type, or in a constant, where the sign that opens its arguments needs
a separator before it. -/
inductive PathPlace where
  | inType
  | inConstant
deriving DecidableEq, Repr

def spellTo (tokens rest : List Token) : String :=
  spell (takenFrom tokens rest)

def ArgumentsRead.spelling (arguments : ArgumentsRead) : String :=
  (TypeExpr.generic ⟨false, []⟩ arguments.style arguments.items).text

namespace PathRead

def path (found : PathRead) : ItemPath :=
  ⟨found.isAbsolute, found.segments.map fun segment => ⟨segment.name, segment.spelling⟩⟩

def isOpenEnded (found : PathRead) : Bool :=
  found.segments.getLast?.any (·.spelling.isEmpty)

def isPlain (found : PathRead) : Bool :=
  found.segments.all (·.spelling.isEmpty)

def spellLast (found : PathRead) (spelling : String) : PathRead :=
  match found.segments.getLast? with
  | some last => { found with segments := found.segments.dropLast ++ [{ last with spelling }] }
  | none => found

def type (found : PathRead) : TypeExpr :=
  match found.segments.getLast? with
  | some ⟨_, some ⟨style, arguments⟩, _⟩ => .generic (found.spellLast "").path style arguments
  | _ => .named found.path

end PathRead

/-- Whether an argument that begins with the type may go on as the binding of a named item: the
type has to be a single name. -/
def isBindable : TypeExpr → Bool
  | .named ⟨false, [⟨_, arguments⟩]⟩ => arguments.isEmpty
  | .generic ⟨false, [_]⟩ .. => true
  | _ => false

def typeStarts : List String :=
  ["`for`", "parentheses", "`fn`", "`unsafe`", "`extern`", "identifier", "`::`", "`<`", "`dyn`",
    "square brackets", "`*`", "`&`", "`!`", "`impl`", "`_`", "lifetime"]

def startsPath (word : String) : Bool :=
  isIdentifierWord word || ["super", "self", "Self", "crate"].contains word

def isNumber (text : String) : Bool :=
  text.toList.head?.any Char.isDigit

def afterMark (char : Char) : List Token → Except SyntaxError (List Token)
  | .mark c _ :: rest =>
    if c = char then .ok rest else .error (.mark (String.singleton char))
  | _ => .error (.mark (String.singleton char))

def afterClosing : List Token → Except SyntaxError (List Token)
  | .closing _ :: rest => .ok rest
  | _ => .error .unexpected

def afterWord (word : String) : List Token → Except SyntaxError (List Token)
  | .word w :: rest =>
    if w = word then .ok rest else .error (missing [s!"`{word}`"] (.word w :: rest))
  | tokens => .error (missing [s!"`{word}`"] tokens)

def afterLiteral? : List Token → Option (List Token)
  | .literal _ :: rest => some rest
  | .word "true" :: rest => some rest
  | .word "false" :: rest => some rest
  | .mark '-' _ :: .literal text :: rest => if isNumber text then some rest else none
  | _ => none

/-- What follows the lifetimes that a type is said to hold for, from behind their first bracket. -/
def afterLifetimes : List Token → Except SyntaxError (List Token)
  | .mark '>' _ :: rest => .ok rest
  | .lifetime _ :: rest => afterLifetimes rest
  | .mark ':' _ :: rest => afterLifetimes rest
  | .mark '+' _ :: rest => afterLifetimes rest
  | .mark ',' _ :: rest => afterLifetimes rest
  | tokens => .error (missing ["lifetime"] tokens)

def afterFor : List Token → Except SyntaxError (List Token)
  | .word "for" :: rest => do afterLifetimes (← afterMark '<' rest)
  | tokens => .ok tokens

def startsBound : List Token → Bool
  | .word _ :: _ | .separator :: _ | .lifetime _ :: _ | .opening .round :: _ => true
  | .mark '?' _ :: _ => true
  | _ => false

mutual

/-- A type. A sum of bounds is one type where it is allowed to go on. -/
def readType (mayGoOn : Bool) : Nat → List Token → Except SyntaxError (TypeExpr × List Token)
  | 0, _ => .error .unexpected
  | fuel + 1, tokens =>
    let spelled (rest : List Token) : TypeExpr × List Token := (.other (spellTo tokens rest), rest)
    match tokens with
    | .word "for" :: _ => do
      let rest ← afterFor tokens
      match rest with
      | .word "fn" :: _ | .word "unsafe" :: _ | .word "extern" :: _ =>
        return spelled (← afterFunctionType fuel rest)
      | .word word :: _ =>
        if startsPath word then
          let (_, rest) ← readTypePath fuel rest
          return spelled (← afterMoreBounds mayGoOn fuel rest)
        else throw (missing ["identifier", "`fn`", "`unsafe`", "`extern`", "`super`", "`self`",
          "`Self`", "`crate`"] rest)
      | _ => throw (missing ["identifier", "`fn`", "`unsafe`", "`extern`", "`super`", "`self`",
          "`Self`", "`crate`"] rest)
    | .opening .round :: inner => readParenthesized mayGoOn fuel inner
    | .opening .square :: inner => do
      let (element, rest) ← readType true fuel inner
      match rest with
      | .mark ';' _ :: more =>
        let (length, rest) := Token.readBrackets more
        if Expression.isAsRuled (constantReaders fuel) (.expression true) length then
          return (.array element (spell length), rest)
        else throw (missing ["an expression"] length)
      | _ => return spelled (← afterClosing rest)
    | .word "fn" :: _ | .word "unsafe" :: _ | .word "extern" :: _ =>
      return spelled (← afterFunctionType fuel tokens)
    | .word "dyn" :: rest => return spelled (← afterBounds mayGoOn fuel rest)
    | .word "impl" :: rest => return spelled (← afterBounds mayGoOn fuel rest)
    | .word "_" :: rest => return spelled rest
    | .word word :: _ =>
      if startsPath word then readPathType mayGoOn fuel tokens
      else throw (missing typeStarts tokens)
    | .separator :: _ => readPathType mayGoOn fuel tokens
    | .lifetime _ :: _ => return spelled (← afterBounds mayGoOn fuel tokens)
    | .mark '<' _ :: _ => return spelled (← afterQualified .inType fuel tokens)
    | .mark '*' _ :: .word word :: rest =>
      if word = "const" || word = "mut" then do
        let (_, rest) ← readType false fuel rest
        return spelled rest
      else throw (.expected ["`const`", "`mut`"])
    | .mark '*' _ :: rest => throw (missing ["`const`", "`mut`"] rest)
    | .mark '&' _ :: .lifetime name :: .word "mut" :: rest => do
      let (target, rest) ← readType false fuel rest
      return (.reference true (some name) target, rest)
    | .mark '&' _ :: .lifetime name :: rest => do
      let (target, rest) ← readType false fuel rest
      return (.reference false (some name) target, rest)
    | .mark '&' _ :: .word "mut" :: rest => do
      let (target, rest) ← readType false fuel rest
      return (.reference true none target, rest)
    | .mark '&' _ :: rest => do
      let (target, rest) ← readType false fuel rest
      return (.reference false none target, rest)
    | .mark '!' _ :: rest => return spelled rest
    | _ => throw (missing typeStarts tokens)

/-- A type in round brackets, from behind the opening one: a tuple, a bound, or a type that stands
in brackets only. -/
def readParenthesized (mayGoOn : Bool) :
    Nat → List Token → Except SyntaxError (TypeExpr × List Token)
  | 0, _ => .error .unexpected
  | fuel + 1, tokens =>
    match tokens with
    | .closing _ :: rest => .ok (.tuple [] false, rest)
    | .lifetime _ :: _ => do
      let rest ← afterBounds true fuel tokens
      return (.parenthesized (.other (spellTo tokens rest)), ← afterClosing rest)
    | .mark '?' _ :: _ => do
      let rest ← afterClosing (← afterBound fuel tokens).2
      let rest ← afterMoreBounds true fuel rest
      return (.other ("(" ++ spellTo tokens rest), rest)
    | _ => do
      let (first, rest) ← readType true fuel tokens
      match rest with
      | .mark ',' _ :: more => do
        let ((others, endsWithComma), rest) ← readTypes fuel more
        return (.tuple (first :: others) (endsWithComma || others.isEmpty), rest)
      | _ => do
        let rest ← afterClosing rest
        match mayGoOn, first, rest with
        | true, .named _, .mark '+' _ :: _ | true, .generic .., .mark '+' _ :: _ => do
          let rest ← afterMoreBounds true fuel rest
          return (.other ("(" ++ spellTo tokens rest), rest)
        | _, _, _ => return (.parenthesized first, rest)

def readTypes : Nat → List Token → Except SyntaxError ((List TypeExpr × Bool) × List Token)
  | 0, _ => .error .unexpected
  | fuel + 1, tokens =>
    match tokens with
    | .closing _ :: rest => .ok (([], true), rest)
    | _ => do
      let (first, rest) ← readType true fuel tokens
      match rest with
      | .closing _ :: rest => return (([first], false), rest)
      | _ => do
        let ((others, endsWithComma), rest) ← readTypes fuel (← afterMark ',' rest)
        return ((first :: others, endsWithComma), rest)

def afterFunctionType : Nat → List Token → Except SyntaxError (List Token)
  | 0, _ => .error .unexpected
  | fuel + 1, tokens => do
    let rest := match tokens with
      | .word "unsafe" :: rest => rest
      | _ => tokens
    let rest := match rest with
      | .word "extern" :: .literal _ :: rest => rest
      | .word "extern" :: rest => rest
      | _ => rest
    match ← afterWord "fn" rest with
    | .opening .round :: inner => afterResult fuel (← afterParameters fuel inner)
    | rest => throw (missing ["parentheses"] rest)

def afterParameters : Nat → List Token → Except SyntaxError (List Token)
  | 0, _ => .error .unexpected
  | fuel + 1, tokens =>
    let unnamed := match tokens with
      | .word word :: .mark ':' _ :: rest =>
        if isIdentifierWord word || word = "_" || word = "self" then rest else tokens
      | _ => tokens
    match unnamed with
    | .closing _ :: rest => .ok rest
    | .mark '.' true :: .mark '.' true :: .mark '.' _ :: rest => do
      match rest with
      | .mark ',' _ :: rest => afterClosing rest
      | _ => afterClosing rest
    | _ => do
      let (_, rest) ← readType true fuel unnamed
      match rest with
      | .closing _ :: rest => return rest
      | _ => afterParameters fuel (← afterMark ',' rest)

def afterResult : Nat → List Token → Except SyntaxError (List Token)
  | 0, _ => .error .unexpected
  | fuel + 1, tokens =>
    match tokens with
    | .mark '-' true :: .mark '>' _ :: rest => do return (← readType false fuel rest).2
    | _ => .ok tokens

/-- What follows bounds, of which one has to be an interface. -/
def afterBounds (mayGoOn : Bool) : Nat → List Token → Except SyntaxError (List Token)
  | 0, _ => .error .unexpected
  | fuel + 1, tokens => do
    let (isInterface, rest) ← afterBound fuel tokens
    match isInterface, mayGoOn, rest with
    | true, _, _ => afterMoreBounds mayGoOn fuel rest
    | false, true, .mark '+' _ :: more =>
      if startsBound more then afterBounds mayGoOn fuel more else throw .noInterface
    | false, _, _ => throw .noInterface

def afterMoreBounds (mayGoOn : Bool) : Nat → List Token → Except SyntaxError (List Token)
  | 0, _ => .error .unexpected
  | fuel + 1, tokens =>
    match mayGoOn, tokens with
    | true, .mark '+' _ :: more =>
      if startsBound more then do
        let (_, rest) ← afterBound fuel more
        afterMoreBounds mayGoOn fuel rest
      else .ok more
    | _, _ => .ok tokens

/-- Whether a bound is an interface, and what follows it. Otherwise it is a lifetime. -/
def afterBound : Nat → List Token → Except SyntaxError (Bool × List Token)
  | 0, _ => .error .unexpected
  | fuel + 1, tokens =>
    match tokens with
    | .lifetime _ :: rest => .ok (false, rest)
    | .opening .round :: inner => do
      let rest ← afterInterface fuel inner
      return (true, ← afterClosing rest)
    | _ => do return (true, ← afterInterface fuel tokens)

def afterInterface : Nat → List Token → Except SyntaxError (List Token)
  | 0, _ => .error .unexpected
  | fuel + 1, tokens => do
    let rest ← afterFor tokens
    let rest ← match rest with
      | .mark '?' _ :: rest => afterFor rest
      | _ => pure rest
    return (← readTypePath fuel rest).2

/-- A type that begins with a path: the path, a sum of bounds, or what a macro makes of tokens. -/
def readPathType (mayGoOn : Bool) : Nat → List Token → Except SyntaxError (TypeExpr × List Token)
  | 0, _ => .error .unexpected
  | fuel + 1, tokens => do
    let (found, rest) ← readTypePath fuel tokens
    match mayGoOn, rest with
    | _, .mark '!' joined :: more =>
      if (joined && more.head?.any (Token.isMark '=')) || !found.isPlain then
        return (found.type, rest)
      else
        match more with
        | .opening _ :: inner =>
          let rest := Token.afterBrackets 1 inner
          return (.other (spellTo tokens rest), rest)
        | _ => throw (missing ["parentheses", "square brackets", "curly braces"] more)
    | true, .mark '+' _ :: _ => do
      let rest ← afterMoreBounds mayGoOn fuel rest
      return (.other (spellTo tokens rest), rest)
    | _, _ => return (found.type, rest)

/-- A path in a type. Its last name may have parameters in round brackets and a result. -/
def readTypePath : Nat → List Token → Except SyntaxError (PathRead × List Token)
  | 0, _ => .error .unexpected
  | fuel + 1, tokens => do
    let (found, rest) ← readPath .inType fuel tokens
    let inner? := match rest with
      | .opening .round :: inner => some inner
      | .separator :: .opening .round :: inner => some inner
      | _ => none
    match inner? with
    | some inner =>
      if found.isOpenEnded then do
        let (_, inputs) ← readTypes fuel inner
        let result ← afterResult fuel inputs
        let found := found.spellLast (spellTo rest result)
        match inputs with
        | .separator :: .opening .round :: _ => return (found, result)
        | .separator :: more => do
          let (others, rest) ← readSegments .inType fuel more
          return ({ found with segments := found.segments ++ others }, rest)
        | _ => return (found, result)
      else return (found, rest)
    | none => return (found, rest)

def afterQualified (place : PathPlace) : Nat → List Token → Except SyntaxError (List Token)
  | 0, _ => .error .unexpected
  | fuel + 1, tokens => do
    let (_, rest) ← readType true fuel (← afterMark '<' tokens)
    let rest ← match rest with
      | .word "as" :: rest => do pure (← readPath .inType fuel rest).2
      | _ => pure rest
    match ← afterMark '>' rest with
    | .separator :: rest => do return (← readSegments place fuel rest).2
    | _ => throw (.mark "::")

def readPath (place : PathPlace) : Nat → List Token → Except SyntaxError (PathRead × List Token)
  | 0, _ => .error .unexpected
  | fuel + 1, tokens =>
    match tokens with
    | .separator :: rest => do
      let (segments, rest) ← readSegments place fuel rest
      return (⟨true, segments⟩, rest)
    | _ => do
      let (segments, rest) ← readSegments place fuel tokens
      return (⟨false, segments⟩, rest)

/-- Path segments divided by separators. A separator before a round bracket ends them. -/
def readSegments (place : PathPlace) :
    Nat → List Token → Except SyntaxError (List SegmentRead × List Token)
  | 0, _ => .error .unexpected
  | fuel + 1, tokens => do
    let (first, rest) ← readSegment place fuel tokens
    match rest with
    | .separator :: .opening .round :: _ => return ([first], rest)
    | .separator :: more => do
      let (others, rest) ← readSegments place fuel more
      return (first :: others, rest)
    | _ => return ([first], rest)

def readSegment (place : PathPlace) :
    Nat → List Token → Except SyntaxError (SegmentRead × List Token)
  | 0, _ => .error .unexpected
  | fuel + 1, tokens =>
    match tokens with
    | .word word :: rest =>
      let argumentsFrom (hasSeparator : Bool) (inner : List Token) :
          Except SyntaxError (SegmentRead × List Token) := do
        let ((items, endsWithComma), after) ← readArguments fuel inner
        let arguments : ArgumentsRead := ⟨⟨hasSeparator, endsWithComma⟩, items⟩
        return (⟨word, some arguments, arguments.spelling⟩, after)
      if placeWords.contains word then .ok (⟨word, none, ""⟩, rest)
      else if isIdentifierWord word || word = "Self" then
        match place, rest with
        | .inType, .mark '<' isJoined :: inner =>
          if isJoined && inner.head?.any (Token.isMark '=') then .ok (⟨word, none, ""⟩, rest)
          else argumentsFrom false inner
        | _, .separator :: .mark '<' _ :: inner => argumentsFrom true inner
        | _, _ => .ok (⟨word, none, ""⟩, rest)
      else .error (.keyword word)
    | _ => .error (missing ["identifier"] tokens)

def readArguments : Nat → List Token →
    Except SyntaxError ((List (Argument TypeExpr) × Bool) × List Token)
  | 0, _ => .error .unexpected
  | fuel + 1, tokens =>
    match tokens with
    | .mark '>' _ :: rest => .ok (([], false), rest)
    | _ => do
      let (first, rest) ← readArgument fuel tokens
      match rest with
      | .mark '>' _ :: rest => return (([first], false), rest)
      | _ => do
        let ((others, endsWithComma), rest) ← readArguments fuel (← afterMark ',' rest)
        return ((first :: others, endsWithComma || others.isEmpty), rest)

def readArgument : Nat → List Token → Except SyntaxError (Argument TypeExpr × List Token)
  | 0, _ => .error .unexpected
  | fuel + 1, tokens =>
    match tokens with
    | .lifetime name :: rest =>
      if rest.head?.any (Token.isMark '+') then do
        let (type, rest) ← readType true fuel tokens
        return (.type type, rest)
      else .ok (.lifetime name, rest)
    | _ =>
      match afterConstantArgument fuel tokens with
      | some after => do
        let rest ← after
        return (.constant (spellTo tokens rest), rest)
      | none => do
        let (type, rest) ← readType true fuel tokens
        match isBindable type, rest with
        | true, .mark '=' _ :: value =>
          match afterConstantArgument fuel value with
          | some after => do
            let rest ← after
            return (.binding (spellTo tokens rest), rest)
          | none => do
            let (_, rest) ← readType true fuel value
            return (.binding (spellTo tokens rest), rest)
        | true, .mark ':' _ :: bounds => do
          let rest ← afterArgumentBounds fuel bounds
          return (.binding (spellTo tokens rest), rest)
        | _, _ => return (.type type, rest)

def afterArgumentBounds : Nat → List Token → Except SyntaxError (List Token)
  | 0, _ => .error .unexpected
  | fuel + 1, tokens =>
    match tokens with
    | .mark ',' _ :: _ | .mark '>' _ :: _ => .ok tokens
    | _ => do
      let (_, rest) ← afterBound fuel tokens
      match rest with
      | .mark '+' _ :: more => afterArgumentBounds fuel more
      | _ => return rest

/-- What follows a constant among arguments, if there is one: a literal or a constant in braces. -/
def afterConstantArgument : Nat → List Token → Option (Except SyntaxError (List Token))
  | 0, _ => some (.error .unexpected)
  | fuel + 1, tokens =>
    match afterLiteral? tokens, tokens with
    | some rest, _ => some (.ok rest)
    | none, .opening .curly :: inner =>
      let (held, rest) := Token.readBrackets inner
      let isBlock :=
        Expression.isAsRuled (constantReaders fuel) .block (takenFrom tokens rest)
      some (if isBlock then .ok rest else .error (missing ["an expression"] held))
    | none, _ => none

def constantReaders : Nat → Pattern.Readers
  | 0 => ⟨fun _ _ => none, fun _ => none⟩
  | fuel + 1 => {
      type := fun mayGoOn tokens => (readType mayGoOn fuel tokens).toOption.map (·.2)
      path := fun tokens =>
        match tokens with
        | .mark '<' _ :: _ => (afterQualified .inConstant fuel tokens).toOption
        | _ => (readPath .inConstant fuel tokens).toOption.map (·.2) }

end

/-- How deeply the readers may call one another on these tokens: between two tokens that are read,
fewer calls than this share of one token are made. -/
def depthFor (tokens : List Token) : Nat :=
  16 * (tokens.length + 1)

end Grammar

namespace ItemPath

def read (tokens : List Token) : Except SyntaxError (ItemPath × List Token) :=
  (Grammar.readPath .inType (Grammar.depthFor tokens) tokens).map fun (found, rest) =>
    (found.path, endLike tokens rest)

theorem read_length {tokens : List Token} {result : ItemPath × List Token}
    (h : read tokens = .ok result) : result.2.length ≤ tokens.length := by
  unfold read at h
  cases hr : Grammar.readPath .inType (Grammar.depthFor tokens) tokens with
  | error e => simp [hr, Except.map] at h
  | ok found =>
    simp only [hr, Except.map, Except.ok.injEq] at h
    subst h
    exact length_endLike_le _ _

def ofText? (text : String) : Option ItemPath := do
  match read (← Token.scan text) with
  | .ok (path, []) => some path
  | _ => none

end ItemPath

namespace TypeExpr

def read? (tokens : List Token) : Option (TypeExpr × List Token) :=
  (Grammar.readType true (Grammar.depthFor tokens) tokens).toOption.map fun (type, rest) =>
    (type, endLike tokens rest)

def ofText? (text : String) : Option TypeExpr := do
  match ← read? (← Token.scan text) with
  | (type, []) => some type
  | _ => none

end TypeExpr
end ObjectGraph.Declaration
