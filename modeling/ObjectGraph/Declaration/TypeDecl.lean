import ObjectGraph.Declaration.Item

/-!
Declarations of types. Of a structure with named fields the fields are kept, of every other type
only that it has none. Type parameters are kept as they are written.
-/

set_option autoImplicit false
namespace ObjectGraph.Declaration

structure FieldDecl where
  name : String
  type : TypeExpr
  attributes : List Attribute
deriving Repr

inductive DeclKind where
  | namedFields (fields : List FieldDecl)
  | unnamedFields
  | noStructure
deriving Repr

structure TypeDecl where
  name : String
  kind : DeclKind
  parameters : List Token
  attributes : List Attribute
deriving Repr

namespace FieldDecl

/-- A field, and the tokens after it. A field may go without a proper name. -/
def read (tokens : List Token) : Option (FieldDecl × List Token) := do
  let (attributes, rest) ← Attribute.readAll false tokens
  match (Grammar.readVisibility rest).2 with
  | .word name :: .mark ':' _ :: rest => do
    if !isIdentifierWord name && name != "_" then none
    let (type, rest) ← TypeExpr.read? rest
    return (⟨name, type, attributes⟩, rest)
  | _ => none

def readAll (tokens : List Token) : Option (List FieldDecl) :=
  match tokens with
  | [] => some []
  | token :: more => do
    let (first, rest) ← read (token :: more)
    match rest with
    | [] => return [first]
    | .mark ',' _ :: rest => return first :: (← readAll (endLike more rest))
    | _ => none
termination_by tokens.length
decreasing_by
  have := length_endLike_le more rest
  simp only [List.length_cons]
  omega

end FieldDecl

namespace TypeDecl

def readStructure (tokens : List Token) : Option DeclKind :=
  match Grammar.afterConditions tokens with
  | [.mark ';' _] => some .unnamedFields
  | .opening .round :: inside =>
    match Grammar.afterConditions (Token.readBrackets inside).2 with
    | [.mark ';' _] => some .unnamedFields
    | _ => none
  | .opening .curly :: inside =>
    let (fields, after) := Token.readBrackets inside
    if after.isEmpty then (FieldDecl.readAll fields).map .namedFields else none
  | _ => none

def ofTokens? (tokens : List Token) : Option TypeDecl := do
  let (attributes, rest) ← Attribute.readAll false tokens
  match (Grammar.readVisibility rest).2 with
  | .word keyword :: rest => do
    let (name, rest) ← Grammar.readName rest
    let (parameters, rest) := Grammar.readParameters rest
    let kind ←
      if keyword = "struct" then readStructure rest
      else if keyword = "enum" || keyword = "union" then some .noStructure
      else none
    return ⟨name, kind, parameters, attributes⟩
  | _ => none

def ofText? (text : String) : Option TypeDecl :=
  (Token.scan text).bind ofTokens?

end TypeDecl
end ObjectGraph.Declaration
