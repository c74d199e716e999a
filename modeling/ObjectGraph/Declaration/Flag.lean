import ObjectGraph.Declaration.Attribute

/-!
Flags in attribute lists. A list is a sequence of flags divided by commas, and may end with a
comma. A flag is a name, or a name with a path as its value. Each kind of declaration knows its own
flags. A list is read from left to right, and the first fault is the one reported: a flag that is
not known is a fault before anything that follows it.
-/

set_option autoImplicit false
namespace ObjectGraph.Declaration

inductive FlagPlace where
  | type
  | field
  | method
deriving DecidableEq, Repr

inductive FlagError where
  | unknown (place : FlagPlace)
  | noList
  | valueForList
  | grammar (error : SyntaxError)
deriving DecidableEq, Repr

def FlagError.message : FlagError → String
  | unknown .type =>
    "unknown bean attribute, expected one of `default`, `methods`, `debug`, `partial_eq`, "
      ++ "`adapter = ...`"
  | unknown .field => "unknown field attribute, expected one of `skip`, `readonly`, `parent`"
  | unknown .method => "unknown method attribute, expected `skip`"
  | noList => "expected attribute arguments in parentheses: #[bean(...)]"
  | valueForList => "expected parentheses: #[bean(...)]"
  | grammar error => error.message

/-- What a known flag needs: nothing, or a path as its value. -/
inductive FlagForm (α : Type) where
  | plain (flag : α)
  | valued (flag : ItemPath → α)

namespace Flags

def readNames : List Token → Except FlagError (List String × List Token)
  | .separator :: .word word :: rest => do
    let (names, rest) ← readNames rest
    return (word :: names, rest)
  | .separator :: rest => throw (.grammar (missing ["ident"] rest))
  | rest => .ok ([], rest)

def readRelative : List Token → Except FlagError (List String × List Token)
  | .word word :: rest => do
    let (names, rest) ← readNames rest
    return (word :: names, rest)
  | [] => throw (.grammar (.endOfInput ["nested attribute"]))
  | .literal _ :: _ => throw (.grammar .literal)
  | .mark '-' _ :: .literal text :: _ =>
    throw (.grammar (if Grammar.isNumber text then .literal else .noFlag))
  | _ => throw (.grammar .noFlag)

def readName : List Token → Except FlagError (Option String × List Token)
  | .separator :: tokens => do
    let (_, rest) ← readRelative tokens
    return (none, rest)
  | tokens => do
    let (names, rest) ← readRelative tokens
    return (if names.length = 1 then names.head? else none, rest)

def readValue : List Token → Except FlagError (ItemPath × List Token)
  | .mark '=' _ :: tokens => (ItemPath.read tokens).mapError .grammar
  | _ => throw (.grammar (.mark "="))

def readFlag {α : Type} (place : FlagPlace) (known : String → Option (FlagForm α))
    (tokens : List Token) : Except FlagError (α × List Token) := do
  let (name?, rest) ← readName tokens
  match name?.bind known with
  | none => throw (.unknown place)
  | some (.plain flag) => return (flag, rest)
  | some (.valued flag) => (readValue rest).map fun (path, rest) => (flag path, rest)

theorem readNames_length {tokens : List Token} {result : List String × List Token}
    (h : readNames tokens = .ok result) : result.2.length ≤ tokens.length := by
  fun_induction readNames tokens generalizing result with
  | case1 word tail ih =>
    obtain ⟨⟨names, rest⟩, hr, hv⟩ := bind_eq_ok.1 h
    have := ih hr
    cases hv
    simp only [List.length_cons] at *
    omega
  | case2 => simp [throw, throwThe, MonadExceptOf.throw] at h
  | case3 => cases h; simp

theorem readRelative_length {tokens : List Token} {result : List String × List Token}
    (h : readRelative tokens = .ok result) : result.2.length < tokens.length := by
  unfold readRelative at h
  split at h
  · obtain ⟨⟨names, rest⟩, hr, hv⟩ := bind_eq_ok.1 h
    have := readNames_length hr
    cases hv
    simp only [List.length_cons] at *
    omega
  all_goals simp [throw, throwThe, MonadExceptOf.throw] at h

theorem readName_length {tokens : List Token} {result : Option String × List Token}
    (h : readName tokens = .ok result) : result.2.length < tokens.length := by
  unfold readName at h
  split at h
  all_goals
    obtain ⟨⟨names, rest⟩, hr, hv⟩ := bind_eq_ok.1 h
    have := readRelative_length hr
    cases hv
    simp only [List.length_cons] at *
    omega

theorem readValue_length {tokens : List Token} {result : ItemPath × List Token}
    (h : readValue tokens = .ok result) : result.2.length < tokens.length := by
  unfold readValue at h
  split at h
  · rename_i tail
    cases hr : ItemPath.read tail with
    | error e =>
      rw [hr] at h
      cases h
    | ok value =>
      have := ItemPath.read_length hr
      rw [hr] at h
      cases h
      simp only [List.length_cons]
      omega
  · simp [throw, throwThe, MonadExceptOf.throw] at h

theorem readFlag_length {α : Type} {place : FlagPlace} {known : String → Option (FlagForm α)}
    {tokens : List Token} {result : α × List Token}
    (h : readFlag place known tokens = .ok result) : result.2.length < tokens.length := by
  obtain ⟨⟨name, rest⟩, hr, hv⟩ := bind_eq_ok.1 h
  have := readName_length hr
  simp only at this hv
  split at hv
  · simp [throw, throwThe, MonadExceptOf.throw] at hv
  · cases hv
    exact this
  · cases hr' : readValue rest with
    | error e => simp [hr', Except.map] at hv
    | ok value =>
      have := readValue_length hr'
      simp only [hr', Except.map, Except.ok.injEq] at hv
      subst hv
      simp only
      omega

def readNonempty {α : Type} (place : FlagPlace) (known : String → Option (FlagForm α))
    (tokens : List Token) : Except FlagError (List α) :=
  match _h : readFlag place known tokens with
  | .error error => .error error
  | .ok (flag, []) => .ok [flag]
  | .ok (flag, [.mark ',' _]) => .ok [flag]
  | .ok (flag, .mark ',' _ :: rest) => do
    let flags ← readNonempty place known rest
    return flag :: flags
  | .ok _ => .error (.grammar (.mark ","))
termination_by tokens.length
decreasing_by
  have := readFlag_length _h
  simp only [List.length_cons] at this
  omega

def readList {α : Type} (place : FlagPlace) (known : String → Option (FlagForm α))
    (tokens : List Token) : Except FlagError (List α) :=
  if tokens.isEmpty then .ok [] else readNonempty place known tokens

def readAttribute {α : Type} (place : FlagPlace) (known : String → Option (FlagForm α))
    (given : Attribute) : Except FlagError (List α) :=
  match given.content with
  | .list tokens => readList place known tokens
  | .nothing => .error .noList
  | .value => .error .valueForList

/-- The flags that are listed by attributes, in order. Other attributes list none. -/
def ofAttributes {α : Type} (place : FlagPlace) (known : String → Option (FlagForm α))
    (attributes : List Attribute) : Except FlagError (List α) := do
  let flags ← (attributes.filter (·.listsFlags)).mapM (readAttribute place known)
  return flags.flatten

end Flags

inductive TypeFlag where
  | default
  | methods
  | debug
  | partialEq
  | adapter (path : ItemPath)
deriving DecidableEq, Repr

def TypeFlag.ofName? : String → Option (FlagForm TypeFlag)
  | "default" => some (.plain .default)
  | "methods" => some (.plain .methods)
  | "debug" => some (.plain .debug)
  | "partial_eq" => some (.plain .partialEq)
  | "adapter" => some (.valued .adapter)
  | _ => none

inductive FieldFlag where
  | skip
  | readonly
  | parent
deriving DecidableEq, Repr

def FieldFlag.ofName? : String → Option (FlagForm FieldFlag)
  | "skip" => some (.plain .skip)
  | "readonly" => some (.plain .readonly)
  | "parent" => some (.plain .parent)
  | _ => none

inductive MethodFlag where
  | skip
deriving DecidableEq, Repr

def MethodFlag.ofName? : String → Option (FlagForm MethodFlag)
  | "skip" => some (.plain .skip)
  | _ => none

end ObjectGraph.Declaration
