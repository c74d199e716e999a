import Mathlib.Data.List.Forall2
import ObjectGraph.Declaration.MethodBlock

/-! The types of parameters and results, as they are written.

A member carries values of one type. Where the function writes the type it may stand in an option,
behind a reference, or both, and which of these shapes it has decides whether a member of a kind can be
made of it.
-/

set_option autoImplicit false
namespace ObjectGraph.Declaration

def ItemPath.ofName (name : String) : ItemPath :=
  ⟨false, [⟨name, ""⟩]⟩

theorem ItemPath.name?_eq_some_iff {path : ItemPath} {name : String} :
    path.name? = some name ↔ path = .ofName name := by
  unfold name? ofName
  constructor
  · intro found
    split at found
    next absolute segments => cases found; cases path; cases absolute; cases segments; rfl
    · cases found
  · rintro rfl
    rfl

namespace TypeExpr

variable {t written value : TypeExpr} {nullable : Bool} {self : String}

/-- A slot can be declared with the type: it is a path or an array of such a type, and may stand in
parentheses. -/
inductive Nameable : TypeExpr → Prop where
  | named (path : ItemPath) : Nameable (.named path)
  | generic (path : ItemPath) (style : ArgumentStyle) (arguments : List (Argument TypeExpr)) :
    Nameable (.generic path style arguments)
  | array {element : TypeExpr} (length : String) : Nameable element → Nameable (.array element length)
  | parenthesized {inner : TypeExpr} : Nameable inner → Nameable (.parenthesized inner)

theorem isNameable_iff : t.isNameable = true ↔ t.Nameable := by
  constructor
  · intro nameable
    fun_induction isNameable t with
    | case1 path => exact .named path
    | case2 path style arguments => exact .generic path style arguments
    | case3 element length ih => exact .array length (ih nameable)
    | case4 inner ih => exact .parenthesized (ih nameable)
    | case5 => cases nameable
  · intro nameable
    induction nameable with
    | named => rfl
    | generic => rfl
    | array _ _ ih => exact ih
    | parenthesized _ ih => exact ih

/-- The type is written as an option of the value type, under any path that ends in `Option`. -/
inductive IsOption : TypeExpr → TypeExpr → Prop where
  | mk {path : ItemPath} (style : ArgumentStyle) (value : TypeExpr) : path.lastName? = some "Option" →
    IsOption (.generic path style [.type value]) value

theorem optionValue?_eq_some_iff : t.optionValue? = some value ↔ t.IsOption value := by
  unfold optionValue?
  constructor
  · intro found
    split at found
    · split at found
      next named => cases found; exact .mk _ _ named
      · cases found
    · cases found
  · rintro ⟨style, value, named⟩
    exact if_pos named

/-- What is left of the type when the option around it is taken off, and whether there was one. An option
is taken off wherever there is one, so an option of a type that cannot be named is no type for a member,
though the option itself could be named. -/
inductive Unwraps (t : TypeExpr) : TypeExpr → Bool → Prop where
  | option {value : TypeExpr} : t.IsOption value → Unwraps t value true
  | plain : (∀ value, ¬ t.IsOption value) → Unwraps t t false

theorem withoutOption_eq_iff : t.withoutOption = (value, nullable) ↔ t.Unwraps value nullable := by
  unfold withoutOption
  constructor
  · intro taken
    split at taken
    next found => cases taken; exact .option (optionValue?_eq_some_iff.1 found)
    next missing =>
      cases taken
      refine .plain fun value option => ?_
      rw [optionValue?_eq_some_iff.2 option] at missing
      cases missing
  · rintro (option | plain)
    · rw [optionValue?_eq_some_iff.2 option]
    · cases found : t.optionValue? with
      | none => rfl
      | some value => exact absurd (optionValue?_eq_some_iff.1 found) (plain value)

inductive Manner where
  | owned
  | shared
  | exclusive
deriving DecidableEq

/-- The written type is that of values of the nameable type that pass in this manner, in an option or
not. -/
inductive Carries (written : TypeExpr) : Manner → TypeExpr → Bool → Prop where
  | owned {value : TypeExpr} {nullable : Bool} : written.Unwraps value nullable → value.Nameable →
    Carries written .owned value nullable
  | shared {lifetime : Option String} {value : TypeExpr} {nullable : Bool} :
    written.Unwraps (.reference false lifetime value) nullable → value.Nameable →
    Carries written .shared value nullable
  | exclusive {lifetime : Option String} {value : TypeExpr} {nullable : Bool} :
    written.Unwraps (.reference true lifetime value) nullable → value.Nameable →
    Carries written .exclusive value nullable

inductive IsOwn (self : String) : TypeExpr → Prop where
  | word : IsOwn self (.named (.ofName "Self"))
  | name : IsOwn self (.named (.ofName self))

theorem isSelf_iff : t.isSelf self = true ↔ t.IsOwn self := by
  constructor
  · intro own
    cases t with
    | named path =>
      rw [isSelf, Bool.or_eq_true, beq_iff_eq, beq_iff_eq, ItemPath.name?_eq_some_iff,
        ItemPath.name?_eq_some_iff] at own
      rcases own with rfl | rfl
      · exact .word
      · exact .name
    | _ => cases own
  · rintro (_ | _)
    · rfl
    · exact Bool.or_eq_true_iff.2 (.inr (beq_self_eq_true _))

theorem isText_iff : t.isText = true ↔ t = .named (.ofName "str") := by
  cases t with
  | named path => rw [isText, beq_iff_eq, ItemPath.name?_eq_some_iff, named.injEq]
  | _ => simp [isText]

theorem target?_eq_some_iff {isMutable : Bool} :
    t.target? = some (value, isMutable) ↔ ∃ lifetime, t = .reference isMutable lifetime value := by
  cases t with
  | reference isMutable' lifetime target =>
    simp only [target?, Option.some.injEq, Prod.mk.injEq, reference.injEq]
    constructor
    · rintro ⟨rfl, rfl⟩
      exact ⟨lifetime, rfl, rfl, rfl⟩
    · rintro ⟨_, rfl, _, rfl⟩
      exact ⟨rfl, rfl⟩
  | _ => simp [target?]

theorem Nameable.target? (nameable : t.Nameable) : t.target? = none := by
  cases nameable <;> rfl

theorem isUnit_iff : t.isUnit = true ↔ ∃ endsWithComma, t = .tuple [] endsWithComma := by
  cases t with
  | tuple elements endsWithComma => cases elements <;> simp [isUnit]
  | _ => simp [isUnit]

theorem IsOwn.isUnit (own : t.IsOwn self) : t.isUnit = false := by
  cases own <;> rfl

theorem carries_owned_iff : written.Carries .owned value nullable ↔
    written.withoutOption = (value, nullable) ∧ value.isNameable = true := by
  rw [withoutOption_eq_iff, isNameable_iff]
  constructor
  · rintro ⟨unwraps, nameable⟩
    exact ⟨unwraps, nameable⟩
  · rintro ⟨unwraps, nameable⟩
    exact .owned unwraps nameable

theorem carries_shared_iff : written.Carries .shared value nullable ↔ ∃ lifetime,
    written.withoutOption = (.reference false lifetime value, nullable) ∧ value.isNameable = true := by
  simp only [withoutOption_eq_iff, isNameable_iff]
  constructor
  · intro carries
    cases carries with
    | shared unwraps nameable => exact ⟨_, unwraps, nameable⟩
  · rintro ⟨lifetime, unwraps, nameable⟩
    exact .shared unwraps nameable

theorem carries_exclusive_iff : written.Carries .exclusive value nullable ↔ ∃ lifetime,
    written.withoutOption = (.reference true lifetime value, nullable) ∧ value.isNameable = true := by
  simp only [withoutOption_eq_iff, isNameable_iff]
  constructor
  · intro carries
    cases carries with
    | exclusive unwraps nameable => exact ⟨_, unwraps, nameable⟩
  · rintro ⟨lifetime, unwraps, nameable⟩
    exact .exclusive unwraps nameable

/-- What is made of an owned value by its type, as it is written, exists if the type is nameable. -/
theorem owned_eq_some_iff {α : Type} (make : TypeExpr → Bool → α) {made : α} :
    (if written.withoutOption.1.isNameable = true then
      some (make written.withoutOption.1 written.withoutOption.2) else none) = some made ↔
    ∃ value nullable, written.Carries .owned value nullable ∧ made = make value nullable := by
  simp only [carries_owned_iff, Option.ite_none_right_eq_some, Option.some.injEq]
  constructor
  · rintro ⟨nameable, rfl⟩
    exact ⟨_, _, ⟨rfl, nameable⟩, rfl⟩
  · rintro ⟨value, nullable, ⟨unwrapped, nameable⟩, rfl⟩
    rw [unwrapped]
    exact ⟨nameable, rfl⟩

theorem Unwraps.isUnit (unwraps : written.Unwraps value nullable) (kept : value.isUnit = false) :
    written.isUnit = false := by
  cases unwraps with
  | option option => cases option; rfl
  | plain => exact kept

theorem Carries.isUnit {manner : Manner} (carries : written.Carries manner value nullable) :
    written.isUnit = false := by
  cases carries with
  | owned unwraps nameable =>
    refine unwraps.isUnit ?_
    cases nameable <;> rfl
  | shared unwraps => exact unwraps.isUnit rfl
  | exclusive unwraps => exact unwraps.isUnit rfl

end TypeExpr

/-- How a getter passes what its function returns: a reference to a text slice as a text made from it. -/
def Passing.ofGetter (manner : TypeExpr.Manner) (value : TypeExpr) : Passing :=
  match manner with
  | .owned => .owned
  | _ => if value.isText then .ownedText else .borrowed

def Passing.ofSetter (nullable : Bool) : Passing :=
  if nullable then .optional else .required

def Passing.ofCompanion (nullable : Bool) : Passing :=
  if nullable then .exclusiveOption else .exclusive

namespace MemberForm

open TypeExpr (Manner)

variable {name : String} {carried written value : TypeExpr} {form : AccessorForm}

theorem getterPassing?_eq_some_iff {passing : Passing} :
    getterPassing? carried = some (value, passing) ↔ value.isNameable = true ∧
      (carried = value ∧ passing = .ofGetter .owned value ∨
        (∃ lifetime, carried = .reference false lifetime value) ∧ passing = .ofGetter .shared value) := by
  rw [getterPassing?]
  constructor
  · intro found
    split at found
    · cases found
    next target shared =>
      have written := TypeExpr.target?_eq_some_iff.1 shared
      split at found
      next text =>
        cases found
        refine ⟨?_, .inr ⟨written, (if_pos text).symm⟩⟩
        rw [TypeExpr.isText_iff.1 text]
        rfl
      next noText =>
        obtain ⟨nameable, passes⟩ := Option.ite_none_right_eq_some.1 found
        cases passes
        exact ⟨nameable, .inr ⟨written, (if_neg noText).symm⟩⟩
    · obtain ⟨nameable, passes⟩ := Option.ite_none_right_eq_some.1 found
      cases passes
      exact ⟨nameable, .inl ⟨rfl, rfl⟩⟩
  · rintro ⟨nameable, ⟨rfl, rfl⟩ | ⟨⟨lifetime, rfl⟩, rfl⟩⟩
    · rw [(TypeExpr.isNameable_iff.1 nameable).target?, nameable]
      rfl
    · simp only [TypeExpr.target?, Passing.ofGetter, nameable, if_true]
      split <;> rfl

theorem getter?_eq_some_iff : getter? name written = some form ↔ ∃ manner value nullable,
    manner ≠ .exclusive ∧ written.Carries manner value nullable ∧
      form = ⟨.getter, name, .ofType value, nullable, .ofGetter manner value⟩ := by
  constructor
  · intro found
    rcases unwrapped : written.withoutOption with ⟨carried, nullable⟩
    rw [getter?, unwrapped] at found
    obtain ⟨⟨value, passing⟩, passes, made⟩ := Option.bind_eq_some_iff.1 found
    cases made
    obtain ⟨nameable, ⟨rfl, rfl⟩ | ⟨⟨lifetime, rfl⟩, rfl⟩⟩ := getterPassing?_eq_some_iff.1 passes
    · exact ⟨.owned, _, _, nofun, TypeExpr.carries_owned_iff.2 ⟨unwrapped, nameable⟩, rfl⟩
    · have carries := TypeExpr.carries_shared_iff.2 ⟨lifetime, unwrapped, nameable⟩
      exact ⟨.shared, _, _, nofun, carries, rfl⟩
  · rintro ⟨manner, value, nullable, notExclusive, carries, rfl⟩
    cases manner with
    | owned =>
      obtain ⟨unwrapped, nameable⟩ := TypeExpr.carries_owned_iff.1 carries
      rw [getter?, unwrapped]
      exact Option.bind_eq_some_iff.2
        ⟨_, getterPassing?_eq_some_iff.2 ⟨nameable, .inl ⟨rfl, rfl⟩⟩, rfl⟩
    | shared =>
      obtain ⟨lifetime, unwrapped, nameable⟩ := TypeExpr.carries_shared_iff.1 carries
      rw [getter?, unwrapped]
      exact Option.bind_eq_some_iff.2
        ⟨_, getterPassing?_eq_some_iff.2 ⟨nameable, .inr ⟨⟨lifetime, rfl⟩, rfl⟩⟩, rfl⟩
    | exclusive => exact absurd rfl notExclusive

theorem getterMut?_eq_some_iff : getterMut? name written = some form ↔ ∃ value nullable,
    written.Carries .exclusive value nullable ∧
      form = ⟨.getterMut, name, .ofType value, nullable, .ofCompanion nullable⟩ := by
  constructor
  · intro found
    rcases unwrapped : written.withoutOption with ⟨carried, nullable⟩
    rw [getterMut?, unwrapped] at found
    dsimp only at found
    split at found
    next target lent =>
      obtain ⟨nameable, made⟩ := Option.ite_none_right_eq_some.1 found
      cases made
      obtain ⟨lifetime, rfl⟩ := TypeExpr.target?_eq_some_iff.1 lent
      exact ⟨_, _, TypeExpr.carries_exclusive_iff.2 ⟨lifetime, unwrapped, nameable⟩, rfl⟩
    · cases found
  · rintro ⟨value, nullable, carries, rfl⟩
    obtain ⟨lifetime, unwrapped, nameable⟩ := TypeExpr.carries_exclusive_iff.1 carries
    rw [getterMut?, unwrapped]
    exact if_pos nameable

theorem setter?_eq_some_iff : setter? name written = some form ↔ ∃ value nullable,
    written.Carries .owned value nullable ∧
      form = ⟨.setter, name, .ofType value, nullable, .ofSetter nullable⟩ :=
  TypeExpr.owned_eq_some_iff fun value nullable =>
    AccessorForm.mk .setter name (.ofType value) nullable (.ofSetter nullable)

theorem parameter?_eq_some_iff {form : ParameterForm} : parameter? written = some form ↔
    ∃ value nullable, written.Carries .owned value nullable ∧ form = ⟨.ofType value, nullable⟩ :=
  TypeExpr.owned_eq_some_iff fun value nullable => ParameterForm.mk (.ofType value) nullable

theorem constructor?_eq_some_iff {parameters : List TypeExpr} {form : ConstructorForm} :
    constructor? name parameters = some form ↔ ∃ values : List (TypeExpr × Bool),
      List.Forall₂ (fun written value => written.Carries .owned value.1 value.2) parameters values ∧
        form = ⟨name, values.map fun value => ⟨.ofType value.1, value.2⟩⟩ := by
  -- The parameters are read one by one, so the induction is on them.
  have mapped (forms : List ParameterForm) : parameters.mapM parameter? = some forms ↔
      ∃ values : List (TypeExpr × Bool),
        List.Forall₂ (fun written value => written.Carries .owned value.1 value.2) parameters values ∧
          forms = values.map fun value => ⟨.ofType value.1, value.2⟩ := by
    induction parameters generalizing forms with
    | nil =>
      rw [List.mapM_nil]
      constructor
      · rintro ⟨⟩
        exact ⟨[], .nil, rfl⟩
      · rintro ⟨_, ⟨⟩, rfl⟩
        rfl
    | cons written parameters ih =>
      simp only [List.mapM_cons, Option.bind_eq_bind, Option.bind_eq_some_iff, ih,
        parameter?_eq_some_iff]
      constructor
      · rintro ⟨_, ⟨value, nullable, carries, rfl⟩, _, ⟨values, rest, rfl⟩, ⟨⟩⟩
        exact ⟨(value, nullable) :: values, .cons carries rest, rfl⟩
      · rintro ⟨_, _ | ⟨carries, rest⟩, rfl⟩
        exact ⟨_, ⟨_, _, carries, rfl⟩, _, ⟨_, rest, rfl⟩, rfl⟩
  simp only [constructor?, Option.map_eq_some_iff, mapped]
  constructor
  · rintro ⟨_, ⟨values, carries, rfl⟩, rfl⟩
    exact ⟨values, carries, rfl⟩
  · rintro ⟨values, carries, rfl⟩
    exact ⟨_, ⟨values, carries, rfl⟩, rfl⟩

end MemberForm
end ObjectGraph.Declaration
