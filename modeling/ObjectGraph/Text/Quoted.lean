import ObjectGraph.Text.Printable

/-!
Quoted text. A quoted string stands between double quotes and a quoted character between single
ones; the quote itself and the backslash are preceded by a backslash, the common control
characters have a letter, and every other character that is not printable is written by its code
point in hexadecimal.
-/

set_option autoImplicit false
namespace ObjectGraph.Text

def escapedCode (c : Char) : List Char :=
  ['\\', 'u', '\x7b'] ++ Nat.toDigits 16 c.toNat ++ ['\x7d']

def quotedChar (quote c : Char) : List Char :=
  if c = quote || c = '\\' then ['\\', c]
  else if c = '\x00' then ['\\', '0']
  else if c = '\t' then ['\\', 't']
  else if c = '\r' then ['\\', 'r']
  else if c = '\n' then ['\\', 'n']
  else if isPrintable c then [c]
  else escapedCode c

def quoteString (s : String) : String :=
  String.ofList ('"' :: s.toList.flatMap (quotedChar '"') ++ ['"'])

def quoteChar (c : Char) : String :=
  String.ofList ('\'' :: quotedChar '\'' c ++ ['\''])

end ObjectGraph.Text
