import ObjectGraph.Declaration.Flag
import ObjectGraph.Declaration.TypeDecl

/-!
The form of a bean, read off its declaration. A bean is a structure with named fields and without
type parameters. Each of its fields is its parent, or left out, or a property; a field of an
optional type is a nullable property of the type inside. A declaration that is no bean is refused
with the first of its faults: what it is, its type parameters, its flags, its unnamed fields, then
its fields in order.
-/

set_option autoImplicit false
namespace ObjectGraph.Declaration

inductive BeanFormError where
  | noStructure
  | parameters
  | unnamedFields
  | flags (error : FlagError)
  | secondParent
  | unfitParent
deriving DecidableEq, Repr

def BeanFormError.message : BeanFormError → String
  | noStructure => "`Bean` can only be derived for structs"
  | parameters => "`Bean` does not support generic types"
  | unnamedFields => "`Bean` can only be derived for structs with named fields"
  | flags error => error.message
  | secondParent => "a bean has at most one parent"
  | unfitParent => "the parent must be a plain bean field without `skip` or `readonly`"

/-- A field that is a property. Its type is the declared one without its option. -/
structure PropertyForm where
  name : String
  type : TypeExpr
  isNullable : Bool
  isReadonly : Bool
deriving Repr

/-- How the content of a field gets to the caller or from it: as it is, or as what is in its option. -/
inductive FieldPassing where
  | whole
  | option
deriving DecidableEq, Repr

/-- How the field of a property is read, lent to be changed, and written. -/
structure FieldAccess where
  read : FieldPassing
  borrow : FieldPassing
  write : FieldPassing
deriving DecidableEq, Repr

structure ParentForm where
  name : String
  type : TypeExpr
deriving Repr

structure FieldForms where
  properties : List PropertyForm
  parent? : Option ParentForm
deriving Repr

/-- A bean: its class name, its flags and its fields. -/
structure BeanForm where
  name : String
  flags : List TypeFlag
  fields : FieldForms
deriving Repr

namespace PropertyForm

def ofField (field : FieldDecl) (flags : List FieldFlag) : PropertyForm where
  name := field.name
  type := field.type.withoutOption.1
  isNullable := field.type.withoutOption.2
  isReadonly := flags.contains .readonly

/-- The access to the field of a property: through its option if the property is nullable. -/
def access (form : PropertyForm) : FieldAccess :=
  if form.isNullable then ⟨.option, .option, .option⟩ else ⟨.whole, .whole, .whole⟩

end PropertyForm

namespace FieldForms

def empty : FieldForms :=
  ⟨[], none⟩

def push (forms : FieldForms) (field : FieldDecl) : Except BeanFormError FieldForms := do
  let flags ← (Flags.ofAttributes .field FieldFlag.ofName? field.attributes).mapError .flags
  if flags.contains .parent then
    if forms.parent?.isSome then throw .secondParent
    else if field.type.optionValue?.isSome || flags.contains .skip || flags.contains .readonly then
      throw .unfitParent
    else return { forms with parent? := some ⟨field.name, field.type⟩ }
  else if flags.contains .skip then return forms
  else return { forms with properties := forms.properties ++ [.ofField field flags] }

def ofFields (fields : List FieldDecl) : Except BeanFormError FieldForms :=
  fields.foldlM push empty

end FieldForms

namespace BeanForm

def ofDecl (decl : TypeDecl) : Except BeanFormError BeanForm := do
  if let .noStructure := decl.kind then throw .noStructure
  if !decl.parameters.isEmpty then throw .parameters
  let flags ← (Flags.ofAttributes .type TypeFlag.ofName? decl.attributes).mapError .flags
  match decl.kind with
  | .namedFields fields => return ⟨decl.name, flags, ← FieldForms.ofFields fields⟩
  | _ => throw .unnamedFields

def has (form : BeanForm) (flag : TypeFlag) : Bool :=
  form.flags.contains flag

def adapter? (form : BeanForm) : Option ItemPath :=
  form.flags.reverse.findSome? fun
    | .adapter path => some path
    | _ => none

end BeanForm
end ObjectGraph.Declaration
