import ObjectGraph.Document.Value

/-!
The written form of a document: a statement a line, with blanks and comments.
-/

set_option autoImplicit false
namespace ObjectGraph.Document

open Declaration (endLike length_endLike_le)

def readHeader (text : List Char) : Option (Statement × List Char) :=
  match text with
  | '[' :: cs =>
    match readPath cs with
    | some (path, ']' :: ']' :: rest) => some (.listHeader path, rest)
    | _ => none
  | _ =>
    match readPath text with
    | some (path, ']' :: rest) => some (.header path, rest)
    | _ => none

def readStatement (text : List Char) : Option (Statement × List Char) :=
  match text with
  | '[' :: cs => readHeader cs
  | _ =>
    match readPath text with
    | some (key, '=' :: cs) =>
      (afterValue? (2 * text.length) (afterBlanks cs)).map (.entry key, ·)
    | _ => none

def readStatements (text : List Char) : Option (List Statement) :=
  match afterLines text with
  | [] => some []
  | c :: cs => do
    let (statement, rest) ← readStatement (c :: cs)
    match afterComment rest with
    | [] => return [statement]
    | line => do
      let others := endLike cs (← afterBreak? line)
      if others.length < text.length then
        return statement :: (← readStatements others)
      else none
termination_by text.length

/-- The statements that a text consists of. A mark of the byte order may begin it. -/
def statements? (text : String) : Option (List Statement) :=
  match text.toList with
  | '\uFEFF' :: cs => readStatements cs
  | cs => readStatements cs

def ofText? (text : String) : Option Document := do
  ofStatements? (← statements? text)

end ObjectGraph.Document
