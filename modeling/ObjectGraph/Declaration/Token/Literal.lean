import ObjectGraph.Declaration.Rest
import ObjectGraph.Text.Identifier

/-!
Literals: quoted texts, bytes and characters, and numbers. Each reader is given the text from a
certain point of the literal on and answers with what follows the literal, or with nothing if the
text is no such literal. A word that stands directly behind a literal belongs to it.
-/

set_option autoImplicit false
namespace ObjectGraph.Declaration.Literal

open Text (isIdentifierStart isIdentifierContinue)

/-- What stands between quotes: characters, bytes, or characters without the one of code zero. -/
inductive Content where
  | text
  | bytes
  | terminated
deriving DecidableEq, Repr

def Content.allows : Content → Char → Bool
  | text, _ => true
  | bytes, c => c.toNat < 128
  | terminated, c => c.toNat != 0

def hexDigit? (c : Char) : Option Nat :=
  if c.isDigit then some (c.toNat - '0'.toNat)
  else if 'a' ≤ c && c ≤ 'f' then some (c.toNat - 'a'.toNat + 10)
  else if 'A' ≤ c && c ≤ 'F' then some (c.toNat - 'A'.toNat + 10)
  else none

def isCharCode (n : Nat) : Bool :=
  n < 0xD800 || (0xE000 ≤ n && n < 0x110000)

def afterSuffix : List Char → List Char
  | [] => []
  | c :: cs => if isIdentifierStart c then cs.dropWhile isIdentifierContinue else c :: cs

def afterShortCode (content : Content) : List Char → Option (List Char)
  | a :: b :: cs =>
    match hexDigit? a, hexDigit? b with
    | some high, some low =>
      let fits : Bool := match content with
        | .text => high < 8
        | .bytes => true
        | .terminated => high != 0 || low != 0
      if fits then some cs else none
    | _, _ => none
  | _ => none

def afterLongCode (content : Content) : Nat → Nat → List Char → Option (List Char)
  | _, _, [] => none
  | digits, code, c :: cs =>
    match hexDigit? c with
    | some digit =>
      if digits = 6 then none else afterLongCode content (digits + 1) (16 * code + digit) cs
    | none =>
      if digits = 0 then none
      else if c = '_' then afterLongCode content digits code cs
      else if c = '\x7d' && isCharCode code && (content != .terminated || code != 0) then some cs
      else none

/-- What follows a line break in a quoted text and the blanks after it: the next line has to have
some other character. -/
def afterLineBreak : Bool → List Char → Option (List Char)
  | true, '\n' :: cs => afterLineBreak false cs
  | true, _ => none
  | false, [] => none
  | false, c :: cs =>
    if c = ' ' || c = '\t' || c = '\n' then afterLineBreak false cs
    else if c = '\r' then afterLineBreak true cs
    else some (c :: cs)

def afterCharEscape (content : Content) : List Char → Option (List Char)
  | 'x' :: cs => afterShortCode content cs
  | 'u' :: '\x7b' :: cs => if content = .bytes then none else afterLongCode content 0 0 cs
  | '0' :: cs => if content = .terminated then none else some cs
  | c :: cs => if ['n', 'r', 't', '\\', '\'', '"'].contains c then some cs else none
  | [] => none

/-- What follows an escape in a quoted text: that of a character, or of a line break. -/
def afterEscape (content : Content) : List Char → Option (List Char)
  | '\n' :: cs => afterLineBreak false cs
  | '\r' :: cs => afterLineBreak true cs
  | cs => afterCharEscape content cs

def afterQuoted (content : Content) (text : List Char) : Option (List Char) :=
  match text with
  | [] => none
  | '"' :: cs => some (afterSuffix cs)
  | '\r' :: '\n' :: cs => afterQuoted content cs
  | '\r' :: _ => none
  | '\\' :: cs =>
    match afterEscape content cs with
    | some rest => afterQuoted content (endLike cs rest)
    | none => none
  | c :: cs => if content.allows c then afterQuoted content cs else none
termination_by text.length
decreasing_by
  · simp only [List.length_cons]; omega
  · have := length_endLike_le cs rest
    simp only [List.length_cons]
    omega
  · simp only [List.length_cons]; omega

/-- What follows a quoted text without escapes, from behind its first quote. It ends with a quote
and that many number signs. -/
def afterPlain (content : Content) (signs : Nat) : List Char → Option (List Char)
  | [] => none
  | '\r' :: '\n' :: cs => afterPlain content signs cs
  | '\r' :: _ => none
  | c :: cs =>
    if c = '"' && cs.take signs == List.replicate signs '#' then some (afterSuffix (cs.drop signs))
    else if content.allows c then afterPlain content signs cs
    else none

def afterSigns (content : Content) : Nat → List Char → Option (List Char)
  | signs, '#' :: cs => afterSigns content (signs + 1) cs
  | signs, '"' :: cs => if signs ≤ 255 then afterPlain content signs cs else none
  | _, _ => none

def afterQuotedChar (content : Content) : List Char → Option (List Char)
  | [] => none
  | c :: cs =>
    let rest? := if c = '\\' then afterCharEscape content cs
      else if content.allows c then some cs else none
    match rest? with
    | some ('\'' :: rest) => some (afterSuffix rest)
    | _ => none

def afterExponent : (isSigned hasDigit : Bool) → List Char → Option (List Char)
  | _, hasDigit, [] => if hasDigit then some [] else none
  | isSigned, hasDigit, c :: cs =>
    if (c = '+' || c = '-') && !hasDigit then
      if isSigned then none else afterExponent true hasDigit cs
    else if c.isDigit then afterExponent isSigned true cs
    else if c = '_' then afterExponent isSigned hasDigit cs
    else if hasDigit then some (c :: cs)
    else none

def isDigitOrGap (c : Char) : Bool :=
  c.isDigit || c == '_'

/-- What follows a fraction and an exponent, of which one may be missing, behind the leading digits
of a number. -/
def afterFraction (text : List Char) : Option (List Char) :=
  match text with
  | '.' :: cs =>
    if cs.head?.any fun c => c == '.' || isIdentifierStart c then none
    else
      match cs.dropWhile isDigitOrGap with
      | e :: rest =>
        if e = 'e' || e = 'E' then some ((afterExponent false false rest).getD (e :: rest))
        else some (e :: rest)
      | [] => some []
  | e :: cs => if e = 'e' || e = 'E' then afterExponent false false cs else none
  | [] => none

def afterInteger (base : Nat) : Bool → List Char → Option (List Char)
  | isEmpty, [] => if isEmpty then none else some []
  | isEmpty, c :: cs =>
    if c = '_' then if isEmpty && base == 10 then none else afterInteger base isEmpty cs
    else
      match hexDigit? c with
      | some digit =>
        if digit < base then afterInteger base false cs
        else if c.isDigit || isEmpty then none
        else some (c :: cs)
      | none => if isEmpty then none else some (c :: cs)

/-- What follows an integer. Its first characters tell its base. -/
def afterWhole : List Char → Option (List Char)
  | '0' :: 'x' :: cs => afterInteger 16 true cs
  | '0' :: 'o' :: cs => afterInteger 8 true cs
  | '0' :: 'b' :: cs => afterInteger 2 true cs
  | cs => afterInteger 10 true cs

/-- What follows the word behind a number, which no further character of a word may follow. -/
def afterUnit (text : List Char) : Option (List Char) :=
  let rest := afterSuffix text
  if rest.head?.any isIdentifierContinue then none else some rest

def afterNumber (text : List Char) : Option (List Char) :=
  if text.head?.any Char.isDigit then
    ((afterFraction (text.dropWhile isDigitOrGap)).bind afterUnit).or
      ((afterWhole text).bind afterUnit)
  else none

def after : List Char → Option (List Char)
  | '"' :: cs => afterQuoted .text cs
  | 'r' :: cs => afterSigns .text 0 cs
  | 'b' :: '"' :: cs => afterQuoted .bytes cs
  | 'b' :: 'r' :: cs => afterSigns .bytes 0 cs
  | 'b' :: '\'' :: cs => afterQuotedChar .bytes cs
  | 'c' :: '"' :: cs => afterQuoted .terminated cs
  | 'c' :: 'r' :: cs => afterSigns .terminated 0 cs
  | '\'' :: cs => afterQuotedChar .text cs
  | cs => afterNumber cs

end ObjectGraph.Declaration.Literal
