/-!
What can go wrong, by cause, and how each cause is named and worded. Four kinds of failure build on one
another: a container refuses an element, a member refuses a call, a type cannot be instantiated,
and access to a part of a graph fails, in some cases because of one of the former.
-/

set_option autoImplicit false
namespace ObjectGraph

/-- Why a container refuses an element. -/
inductive ElementError where
  | outOfRange (index length : Nat)
  | incompatible (expected found : String)
  | invalidKey (expected : String)
deriving DecidableEq, Repr

inductive CallRole where
  | getter
  | mutableGetter
  | setter
deriving DecidableEq, Repr

/-- Why a member of a class refuses a call. -/
inductive InvokeError where
  | targetMismatch (expected found : String)
  | incompatibleArgument (expected found : String)
  | nullArgument (expected : String)
  | argumentCount (expected found : Nat)
  | readOnly (name : String)
  | noMutableAccess (name : String)
  | wrongRole (name : String) (role : CallRole)
deriving DecidableEq, Repr

inductive InstantiateError where
  | noDefaultConstructor
  | noMatchingConstructor
  | constructor (cause : InvokeError)
deriving DecidableEq, Repr

inductive Accessor where
  | getter
  | setter
deriving DecidableEq, Repr

inductive Action where
  | get
  | borrow
  | set
deriving DecidableEq, Repr

/-- Why access to a part of an object graph fails. -/
inductive AccessError where
  | accessorNotFound (accessor : Accessor) (type property : String)
  | propertyAccessFailed (action : Action) (type property : String) (cause : InvokeError)
  | notIndexable (segment type : String)
  | indexOutOfRange (segment type : String) (index length : Nat)
  | invalidIndex (segment type index : String)
  | keyAbsent (segment type key : String)
  | instantiationFailed (type argTypes argValues : String) (cause : InstantiateError)
  | creationFailed (segment type property : String) (cause : AccessError)
  | notBorrowable (segment type property : String)
  | unsupported (type operation : String)
  | malformedName (method : String)
  | incompatibleValue (segment type : String) (cause : ElementError)
  | adapterUnavailable (type : String)
deriving DecidableEq, Repr

def ElementError.code : ElementError → String
  | .outOfRange _ _ => "OutOfRange"
  | .incompatible _ _ => "Incompatible"
  | .invalidKey _ => "InvalidKey"

def InvokeError.code : InvokeError → String
  | .targetMismatch _ _ => "TargetMismatch"
  | .incompatibleArgument _ _ => "IncompatibleArgument"
  | .nullArgument _ => "NullArgument"
  | .argumentCount _ _ => "ArgumentCount"
  | .readOnly _ => "ReadOnly"
  | .noMutableAccess _ => "NoMutableAccess"
  | .wrongRole _ _ => "WrongRole"

def InstantiateError.code : InstantiateError → String
  | .noDefaultConstructor => "NoDefaultConstructor"
  | .noMatchingConstructor => "NoMatchingConstructor"
  | .constructor _ => "Constructor"

def AccessError.code : AccessError → String
  | .accessorNotFound _ _ _ => "AccessorNotFound"
  | .propertyAccessFailed _ _ _ _ => "PropertyAccessFailed"
  | .notIndexable _ _ => "NotIndexable"
  | .indexOutOfRange _ _ _ _ => "IndexOutOfRange"
  | .invalidIndex _ _ _ => "InvalidIndex"
  | .keyAbsent _ _ _ => "KeyAbsentOnWrite"
  | .instantiationFailed _ _ _ _ => "InstantiationFailed"
  | .creationFailed _ _ _ _ => "VivificationFailed"
  | .notBorrowable _ _ _ => "NotBorrowable"
  | .unsupported _ _ => "UnsupportedOperation"
  | .malformedName _ => "MalformedPropertyName"
  | .incompatibleValue _ _ _ => "IncompatibleValue"
  | .adapterUnavailable _ => "AdapterUnavailable"

def ElementError.message : ElementError → String
  | .outOfRange index length =>
    "index " ++ toString index ++ " is out of range for length " ++ toString length
  | .incompatible expected found =>
    "expected an element of type `" ++ expected ++ "`, found `" ++ found ++ "`"
  | .invalidKey expected => "the key cannot be converted to `" ++ expected ++ "`"

def CallRole.name : CallRole → String
  | .getter => "getter"
  | .mutableGetter => "mutable getter"
  | .setter => "setter"

def InvokeError.message : InvokeError → String
  | .targetMismatch expected found =>
    "expected a target of type `" ++ expected ++ "`, found `" ++ found ++ "`"
  | .incompatibleArgument expected found =>
    "expected an argument of type `" ++ expected ++ "`, found `" ++ found ++ "`"
  | .nullArgument expected => "`" ++ expected ++ "` does not accept null"
  | .argumentCount expected found =>
    "expected " ++ toString expected ++ " argument(s), found " ++ toString found
  | .readOnly name => "`" ++ name ++ "` is read-only"
  | .noMutableAccess name => "`" ++ name ++ "` has no mutable access path"
  | .wrongRole name role => "`" ++ name ++ "` cannot be invoked as a " ++ role.name

def InstantiateError.message : InstantiateError → String
  | .noDefaultConstructor =>
    "the type has neither a default value nor a zero-parameter constructor"
  | .noMatchingConstructor => "no constructor takes exactly these parameter types"
  | .constructor cause => cause.message

def Accessor.name : Accessor → String
  | .getter => "getter"
  | .setter => "setter"

def Action.name : Action → String
  | .get => "get"
  | .borrow => "borrow"
  | .set => "set"

def AccessError.message : AccessError → String
  | .accessorNotFound accessor type property =>
    "there is no " ++ accessor.name ++ " for property `" ++ property ++ "` in `" ++ type ++ "`"
  | .propertyAccessFailed action type property _ =>
    "could not " ++ action.name ++ " property `" ++ property ++ "` of `" ++ type ++ "`"
  | .notIndexable segment type =>
    "cannot index `" ++ type ++ "` with `" ++ segment ++ "`: it is not a list, array or map"
  | .indexOutOfRange segment type index length =>
    "index " ++ toString index ++ " in `" ++ segment ++ "` is out of range for `" ++ type
      ++ "` of length " ++ toString length
  | .invalidIndex segment type index =>
    "`" ++ index ++ "` in `" ++ segment ++ "` is not a valid index into `" ++ type ++ "`"
  | .keyAbsent segment type key =>
    "key `" ++ key ++ "` in `" ++ segment ++ "` is absent from `" ++ type ++ "`"
  | .instantiationFailed type argTypes argValues _ =>
    "error instantiating `" ++ type ++ "` with invalid types (" ++ argTypes ++ ") or values ("
      ++ argValues ++ ")"
  | .creationFailed segment type property _ =>
    "cannot create the missing `" ++ property ++ "` of `" ++ type ++ "` in `" ++ segment ++ "`"
  | .notBorrowable segment type property =>
    "property `" ++ property ++ "` of `" ++ type ++ "` in `" ++ segment
      ++ "` cannot be borrowed mutably"
  | .unsupported type operation => "`" ++ type ++ "` does not support " ++ operation
  | .malformedName method =>
    "error parsing property name `" ++ method
      ++ "`: it does not start with 'is', 'get' or 'set'"
  | .incompatibleValue segment type _ =>
    "`" ++ type ++ "` rejected the value written to `" ++ segment ++ "`"
  | .adapterUnavailable type => "no adapter is available for `" ++ type ++ "`"

/-! An error is reworded, and a result stays as it is -/

section Reworded
variable {ε δ α : Type} (f : ε → δ)

@[simp] theorem mapError_ok (a : α) : (Except.ok a : Except ε α).mapError f = .ok a := rfl

@[simp] theorem mapError_error (e : ε) : (Except.error e : Except ε α).mapError f = .error (f e) := rfl

end Reworded

end ObjectGraph
