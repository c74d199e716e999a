import ObjectGraph.Declaration.Rest
import ObjectGraph.Document

/-!
The written form of keys and values. A key is a bare word or quoted, and a path of keys is divided
by dots. A value is a text, a number, a truth value, a date or time, a list, or a table between
braces. Each reader answers with what follows; a value has no other meaning here than its extent.
-/

set_option autoImplicit false
namespace ObjectGraph.Document

open Declaration (endLike length_endLike_le takenFrom)

def afterBlanks (text : List Char) : List Char :=
  text.dropWhile fun c => c == ' ' || c == '\t'

/-- Whether the character may stand in a comment or a quoted text. -/
def isShown (c : Char) : Bool :=
  c == '\t' || (32 ≤ c.toNat && c.toNat != 127)

def afterBreak? : List Char → Option (List Char)
  | '\n' :: cs => some cs
  | '\r' :: '\n' :: cs => some cs
  | _ => none

/-- What follows the blanks and the comment at the end of a line, up to its break. -/
def afterComment (text : List Char) : List Char :=
  match afterBlanks text with
  | '#' :: cs => cs.dropWhile isShown
  | rest => rest

def afterLines (text : List Char) : List Char :=
  match afterBreak? (afterComment text) with
  | some rest =>
    if rest.length < text.length then afterLines rest else rest
  | none => afterComment text
termination_by text.length

def isBare (c : Char) : Bool :=
  c.isAlphanum || c == '_' || c == '-'

def hexValue? (digits : List Char) : Option Nat :=
  digits.foldlM (fun value c =>
    if c.isDigit then some (16 * value + (c.toNat - '0'.toNat))
    else if 'a' ≤ c && c ≤ 'f' then some (16 * value + (c.toNat - 'a'.toNat + 10))
    else if 'A' ≤ c && c ≤ 'F' then some (16 * value + (c.toNat - 'A'.toNat + 10))
    else none) 0

def charOfCode? (digits : List Char) : Option Char :=
  (hexValue? digits).bind fun code =>
    if code < 0xD800 || (0xE000 ≤ code && code < 0x110000) then some (Char.ofNat code) else none

def charOfEscape? : Char → Option Char
  | 'b' => some '\x08'
  | 't' => some '\t'
  | 'n' => some '\n'
  | 'f' => some '\x0c'
  | 'r' => some '\r'
  | '"' => some '"'
  | '\\' => some '\\'
  | _ => none

def readEscape : List Char → Option (Char × List Char)
  | 'u' :: cs => if 4 ≤ cs.length then (charOfCode? (cs.take 4)).map (·, cs.drop 4) else none
  | 'U' :: cs => if 8 ≤ cs.length then (charOfCode? (cs.take 8)).map (·, cs.drop 8) else none
  | c :: cs => (charOfEscape? c).map (·, cs)
  | [] => none

def readQuoted (text : List Char) : Option (List Char × List Char) :=
  match text with
  | [] => none
  | '"' :: cs => some ([], cs)
  | '\\' :: cs => do
    let (c, rest) ← readEscape cs
    let (others, rest) ← readQuoted (endLike cs rest)
    return (c :: others, rest)
  | c :: cs => do
    if isShown c then
      let (others, rest) ← readQuoted cs
      return (c :: others, rest)
    else none
termination_by text.length
decreasing_by
  · have := length_endLike_le cs rest
    simp only [List.length_cons]
    omega
  · simp

/-- A text in single quotes, from behind the first, and what follows. It has no escapes. -/
def readVerbatim : List Char → Option (List Char × List Char)
  | [] => none
  | c :: cs =>
    if c = '\'' then some ([], cs)
    else if isShown c then (readVerbatim cs).map fun (others, rest) => (c :: others, rest)
    else none

def readKey : List Char → Option (String × List Char)
  | '"' :: cs => (readQuoted cs).map fun (key, rest) => (String.ofList key, rest)
  | '\'' :: cs => (readVerbatim cs).map fun (key, rest) => (String.ofList key, rest)
  | cs =>
    if cs.head?.any isBare then some (String.ofList (cs.takeWhile isBare), cs.dropWhile isBare)
    else none

def readPath (text : List Char) : Option (List String × List Char) := do
  let (key, rest) ← readKey (afterBlanks text)
  match afterBlanks rest with
  | '.' :: more =>
    if more.length < text.length then
      let (path, rest) ← readPath more
      return (key :: path, rest)
    else none
  | rest => return ([key], rest)
termination_by text.length

/-- What follows the blanks and line breaks that a backslash at the end of a line takes with it. -/
def afterFold (text : List Char) : Option (List Char) :=
  (afterBreak? (afterBlanks text)).map fun rest =>
    rest.dropWhile fun c => c == ' ' || c == '\t' || c == '\n' || c == '\r'

/-- What follows a text of several lines in three quotes of this kind, from behind the first three.
Up to two quotes may stand before the last three. -/
def afterLongText (quote : Char) (text : List Char) : Option (List Char) :=
  match text with
  | [] => none
  | c :: cs =>
    if c = quote && cs.take 2 == [quote, quote] then
      match cs.drop 2 with
      | a :: b :: rest =>
        if a = quote && b = quote then some rest
        else if a = quote then some (b :: rest)
        else some (a :: b :: rest)
      | [a] => some (if a = quote then [] else [a])
      | [] => some []
    else if c = '\\' && quote = '"' then
      match (readEscape cs).map (·.2) <|> afterFold cs with
      | some rest => afterLongText quote (endLike cs rest)
      | none => none
    else if c = '\r' then
      match cs with
      | '\n' :: rest => afterLongText quote rest
      | _ => none
    else if c = '\n' || isShown c then afterLongText quote cs
    else none
termination_by text.length
decreasing_by
  · have := length_endLike_le cs rest
    simp only [List.length_cons]
    omega
  · simp only [List.length_cons]; omega
  · simp

def afterText? : List Char → Option (List Char)
  | '"' :: '"' :: '"' :: cs => afterLongText '"' cs
  | '\'' :: '\'' :: '\'' :: cs => afterLongText '\'' cs
  | '"' :: cs => (readQuoted cs).map (·.2)
  | '\'' :: cs => (readVerbatim cs).map (·.2)
  | _ => none

/-- Whether the characters are digits of the kind, with single low lines between them. -/
def areDigits (isDigit : Char → Bool) : List Char → Bool
  | [] => false
  | [c] => isDigit c
  | c :: '_' :: cs => isDigit c && areDigits isDigit cs
  | c :: cs => isDigit c && areDigits isDigit cs

/-- Whether the characters are a whole number without a sign, in decimal digits of which the first
is no idle zero. -/
def isWhole (text : List Char) : Bool :=
  areDigits Char.isDigit text && (text.head? != some '0' || text.length == 1)

def unsigned : List Char → List Char
  | '+' :: cs | '-' :: cs => cs
  | cs => cs

/-- Whether the text is a whole number of 64 bits with its sign, given its digits in a base. -/
def fitsWhole (isNegative : Bool) (base : Nat) (digits : List Char) : Bool :=
  let value := (digits.filter (· != '_')).foldl (fun value c =>
    base * value + ((hexValue? [c]).getD 0)) 0
  if isNegative then value ≤ Nat.pow 2 63 else value < Nat.pow 2 63

def isInteger (text : List Char) : Bool :=
  match text with
  | '0' :: 'x' :: cs => areDigits (fun c => (hexValue? [c]).isSome) cs && fitsWhole false 16 cs
  | '0' :: 'o' :: cs => areDigits (fun c => '0' ≤ c && c ≤ '7') cs && fitsWhole false 8 cs
  | '0' :: 'b' :: cs => areDigits (fun c => c == '0' || c == '1') cs && fitsWhole false 2 cs
  | _ => isWhole (unsigned text) && fitsWhole (text.head? == some '-') 10 (unsigned text)

/-- Whether the text is a number with a fraction or an exponent, or one of the words for none. -/
def isFraction (text : List Char) : Bool :=
  let digits := unsigned text
  if digits == ['i', 'n', 'f'] || digits == ['n', 'a', 'n'] then true
  else
    let whole := digits.takeWhile fun c => c.isDigit || c == '_'
    let isExponent (cs : List Char) : Bool :=
      match cs with
      | e :: cs => (e == 'e' || e == 'E') && areDigits Char.isDigit (unsigned cs)
      | [] => false
    isWhole whole &&
      match digits.drop whole.length with
      | '.' :: cs =>
        let fraction := cs.takeWhile fun c => c.isDigit || c == '_'
        let rest := cs.drop fraction.length
        areDigits Char.isDigit fraction && (rest.isEmpty || isExponent rest)
      | rest => isExponent rest

def digits? (count : Nat) (text : List Char) : Option Nat :=
  if text.length = count && text.all Char.isDigit then some (text.foldl (fun n c =>
    10 * n + (c.toNat - '0'.toNat)) 0)
  else none

def daysIn (year month : Nat) : Nat :=
  if month = 2 then if year % 4 = 0 && (year % 100 != 0 || year % 400 = 0) then 29 else 28
  else if [4, 6, 9, 11].contains month then 30
  else 31

def isDate (text : List Char) : Bool :=
  match digits? 4 (text.take 4), digits? 2 ((text.drop 5).take 2), digits? 2 (text.drop 8) with
  | some year, some month, some day =>
    text[4]? == some '-' && text[7]? == some '-' && 1 ≤ month && month ≤ 12
      && 1 ≤ day && day ≤ daysIn year month
  | _, _, _ => false

def isMinute (text : List Char) : Bool :=
  match digits? 2 (text.take 2), digits? 2 (text.drop 3) with
  | some hour, some minute => text[2]? == some ':' && hour < 24 && minute < 60
  | _, _ => false

def isTime (text : List Char) : Bool :=
  let fraction := text.drop 8
  isMinute (text.take 5) && text[5]? == some ':'
    && ((digits? 2 ((text.drop 6).take 2)).any (· ≤ 60))
    && (fraction.isEmpty || (fraction.head? == some '.' && fraction.length != 1
      && (fraction.drop 1).all Char.isDigit))

/-- Whether the characters are a time of day with the distance of its zone, if that is given. -/
def isZonedTime (text : List Char) : Bool :=
  isTime text
    || (text.getLast?.any (fun c => c == 'Z' || c == 'z') && isTime text.dropLast)
    || (6 ≤ text.length && isTime (text.take (text.length - 6))
      && (match text.drop (text.length - 6) with
        | sign :: offset => (sign == '+' || sign == '-') && isMinute offset
        | [] => false))

def isMoment (text : List Char) : Bool :=
  isDate text || isTime text
    || (isDate (text.take 10) && (text[10]?.any fun c => c == 'T' || c == 't' || c == ' ')
      && isZonedTime (text.drop 11))

def isScalar (text : List Char) : Bool :=
  text == "true".toList || text == "false".toList || isInteger text || isFraction text
    || isMoment text

def isScalarChar (c : Char) : Bool :=
  c.isAlphanum || ['+', '-', '_', '.', ':'].contains c

/-- What follows a truth value, a number, a date or a time. A blank may divide date and time. -/
def afterScalar? (text : List Char) : Option (List Char) :=
  let word := text.takeWhile isScalarChar
  let rest := text.drop word.length
  match rest with
  | ' ' :: c :: cs =>
    if isDate word && c.isDigit then
      let both := word ++ ' ' :: (c :: cs).takeWhile isScalarChar
      if isScalar both then some (text.drop both.length) else none
    else if isScalar word then some rest else none
  | _ => if isScalar word then some rest else none

mutual

/-- What follows a value. The number bounds how deeply values may hold others. -/
def afterValue? : Nat → List Char → Option (List Char)
  | 0, _ => none
  | fuel + 1, text =>
    match text with
    | '[' :: cs => afterItems? fuel (afterLines cs)
    | '\x7b' :: cs =>
      match afterBlanks cs with
      | '\x7d' :: rest => some rest
      | rest => afterPairs? fuel [] rest
    | _ =>
      match text with
      | '"' :: _ | '\'' :: _ => afterText? text
      | _ => afterScalar? text

def afterItems? : Nat → List Char → Option (List Char)
  | 0, _ => none
  | _ + 1, ']' :: cs => some cs
  | fuel + 1, text =>
    match (afterValue? fuel text).map afterLines with
    | some (',' :: cs) => afterItems? fuel (afterLines cs)
    | some (']' :: cs) => some cs
    | _ => none

def afterPairs? : Nat → Document → List Char → Option (List Char)
  | 0, _, _ => none
  | fuel + 1, table, text =>
    match readPath text with
    | some (key, '=' :: cs) =>
      match addEntry key .header table, (afterValue? fuel (afterBlanks cs)).map afterBlanks with
      | some table, some (',' :: cs) => afterPairs? fuel table cs
      | some _, some ('\x7d' :: cs) => some cs
      | _, _ => none
    | _ => none

end

end ObjectGraph.Document
