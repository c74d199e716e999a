import ObjectGraph.Declaration.Flag
import ObjectGraph.Declaration.FunctionDecl

/-!
The members of a class, read off a block of functions. A function is a getter, a mutable getter, a
setter, a constructor, or no member, by its signature alone: its receiver, its parameters, its
result and its modifiers. Accessors have to be public, constructors need not be. One option around
the type that a member carries makes it nullable.
-/

set_option autoImplicit false
namespace ObjectGraph.Declaration

/-- A block of functions that belong to a type, perhaps as those of an interface. -/
structure MethodBlock where
  owner : TypeExpr
  interface : Option TypeExpr
  typeParameters : List Token
  items : List BlockItem
deriving Repr

inductive MethodBlockError where
  | interface
  | typeParameters
  | noTypeName
  | flags (error : FlagError)
deriving DecidableEq, Repr

def MethodBlockError.message : MethodBlockError → String
  | interface => "`#[methods]` only applies to inherent impl blocks"
  | typeParameters => "`#[methods]` does not support generic impl blocks"
  | noTypeName => "expected a type name"
  | flags error => error.message

inductive AccessorRole where
  | getter
  | getterMut
  | setter
deriving DecidableEq, Repr

/-- How the value of an accessor gets from the function to the caller, or the other way. -/
inductive Passing where
  | ownedText
  | owned
  | borrowed
  | exclusive
  | exclusiveOption
  | required
  | optional
deriving DecidableEq, Repr

/-- The type that a member declares for its values: a text slice is declared as a text. -/
inductive ValueType where
  | text
  | type (type : TypeExpr)
deriving Repr

def ValueType.ofType (written : TypeExpr) : ValueType :=
  if written.isText then text else type written

structure AccessorForm where
  role : AccessorRole
  name : String
  type : ValueType
  isNullable : Bool
  passing : Passing
deriving Repr

structure ParameterForm where
  type : ValueType
  isNullable : Bool
deriving Repr

structure ConstructorForm where
  name : String
  parameters : List ParameterForm
deriving Repr

/-- What a function is to its class. -/
inductive MemberForm where
  | accessor (accessor : AccessorForm)
  | constructor (constructor : ConstructorForm)
deriving Repr

namespace MemberForm

/-- How a getter with this result, its option taken off, passes its value, and the type of it. -/
def getterPassing? (result : TypeExpr) : Option (TypeExpr × Passing) :=
  match result.target? with
  | some (_, true) => none
  | some (target, false) =>
    if target.isText then some (target, .ownedText)
    else if target.isNameable then some (target, .borrowed)
    else none
  | none => if result.isNameable then some (result, .owned) else none

def getter? (name : String) (result : TypeExpr) : Option AccessorForm := do
  let (value, isNullable) := result.withoutOption
  let (type, passing) ← getterPassing? value
  return ⟨.getter, name, .ofType type, isNullable, passing⟩

/-- The mutable getter with this result: a reference through which the value may be changed. -/
def getterMut? (name : String) (result : TypeExpr) : Option AccessorForm :=
  let (value, isNullable) := result.withoutOption
  match value.target? with
  | some (target, true) =>
    if target.isNameable then
      some ⟨.getterMut, name, .ofType target, isNullable,
        if isNullable then .exclusiveOption else .exclusive⟩
    else none
  | _ => none

def setter? (name : String) (parameter : TypeExpr) : Option AccessorForm :=
  let (value, isNullable) := parameter.withoutOption
  if value.isNameable then
    some ⟨.setter, name, .ofType value, isNullable, if isNullable then .optional else .required⟩
  else none

def parameter? (written : TypeExpr) : Option ParameterForm :=
  let (value, isNullable) := written.withoutOption
  if value.isNameable then some ⟨.ofType value, isNullable⟩ else none

def constructor? (name : String) (parameters : List TypeExpr) : Option ConstructorForm :=
  (parameters.mapM parameter?).map (⟨name, ·⟩)

end MemberForm

namespace FunctionDecl

def returned? (decl : FunctionDecl) : Option TypeExpr :=
  decl.result.filter (!·.isUnit)

def isPublic (decl : FunctionDecl) : Bool :=
  decl.visibility = .everyone

/-- Whether a member may call the function: it has no type parameters, runs at once, asks for no
promises and takes a fixed number of arguments. -/
def isCallable (decl : FunctionDecl) : Bool :=
  decl.typeParameters.isEmpty && !decl.isVariadic
    && !decl.modifiers.contains (.word "async") && !decl.modifiers.contains (.word "unsafe")

/-- What a function with this signature is to the class of the named type. -/
def signatureMember? (self : String) (decl : FunctionDecl) : Option MemberForm :=
  match decl.receiver, decl.parameters, decl.returned? with
  | .none, parameters, some result =>
    if result.isSelf self then
      (MemberForm.constructor? decl.name parameters).map .constructor
    else none
  | .shared, [], some result =>
    if decl.isPublic then (MemberForm.getter? decl.name result).map .accessor else none
  | .exclusive, [], some result =>
    if decl.isPublic then (MemberForm.getterMut? decl.name result).map .accessor else none
  | .exclusive, [parameter], none =>
    if decl.isPublic then (MemberForm.setter? decl.name parameter).map .accessor else none
  | _, _, _ => none

def member? (self : String) (decl : FunctionDecl) : Option MemberForm :=
  if decl.isCallable then decl.signatureMember? self else none

/-- The members that a function gives: one or none. A function may be left out by a flag. -/
def members (self : String) (decl : FunctionDecl) : Except MethodBlockError (List MemberForm) := do
  let flags ← (Flags.ofAttributes .method MethodFlag.ofName? decl.attributes).mapError .flags
  return if flags.contains .skip then [] else (decl.member? self).toList

/-- The attributes that stay on the function: all but those that list flags. -/
def keptAttributes (decl : FunctionDecl) : List Attribute :=
  decl.attributes.filter (!·.listsFlags)

end FunctionDecl

namespace MethodBlock

/-- Whether the angle bracket behind the first word of a block opens type parameters. Otherwise it
opens the type that the block belongs to. -/
def startsParameters : List Token → Bool
  | .mark '<' _ :: .mark '>' _ :: _ | .mark '<' _ :: .mark '#' _ :: _ => true
  | .mark '<' _ :: .word "const" :: _ => true
  | .mark '<' _ :: .word _ :: .mark c _ :: _ | .mark '<' _ :: .lifetime _ :: .mark c _ :: _ =>
    [':', ',', '>', '='].contains c
  | _ => false

/-- The interface that a block gives to its type, if it does, the type, and the tokens after it. -/
def readOwner (tokens : List Token) : Option (Option TypeExpr × TypeExpr × List Token) := do
  let (first, rest) ← TypeExpr.read? tokens
  match rest with
  | .word "for" :: rest => do
    let (owner, rest) ← TypeExpr.read? rest
    return (some first, owner, rest)
  | _ => return (none, first, rest)

def ofHeader? (tokens : List Token) : Option MethodBlock := do
  let (typeParameters, rest) :=
    if startsParameters tokens then Grammar.readParameters tokens else ([], tokens)
  let (interface, owner, rest) ← readOwner rest
  match Grammar.afterConditions rest with
  | .opening .curly :: inside => do
    let (inside, after) := Token.readBrackets inside
    let (_, inside) ← Attribute.readAll true inside
    let items ← BlockItem.readAll inside
    if after.isEmpty then return ⟨owner, interface, typeParameters, items⟩ else none
  | _ => none

def ofTokens? (tokens : List Token) : Option MethodBlock := do
  let (_, rest) ← Attribute.readAll false tokens
  match (Grammar.readModifiers rest).2 with
  | .word "impl" :: rest => ofHeader? rest
  | _ => none

def ofText? (text : String) : Option MethodBlock :=
  (Token.scan text).bind ofTokens?

def functions (block : MethodBlock) : List FunctionDecl :=
  block.items.filterMap fun
    | .function decl => some decl
    | .other => none

def ownerName (block : MethodBlock) : Except MethodBlockError String := do
  if block.interface.isSome then throw .interface
  if !block.typeParameters.isEmpty then throw .typeParameters
  match block.owner.name? with
  | some name => return name
  | none => throw .noTypeName

def members (block : MethodBlock) : Except MethodBlockError (List MemberForm) := do
  let name ← block.ownerName
  let members ← block.functions.mapM (·.members name)
  return members.flatten

end MethodBlock

def MemberForm.accessors (members : List MemberForm) : List AccessorForm :=
  members.filterMap fun
    | .accessor found => some found
    | .constructor _ => none

def MemberForm.constructors (members : List MemberForm) : List ConstructorForm :=
  members.filterMap fun
    | .constructor found => some found
    | .accessor _ => none

end ObjectGraph.Declaration
