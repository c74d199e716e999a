import Mathlib.Data.List.Induction
import ObjectGraph.Declaration.BeanForm
import ObjectGraph.Proofs.FlagLists

/-! Which declarations are beans, and what their fields are.

The role of a field is stated here by what is written of it: it is the parent, left out, or a property,
and never two of these. A declaration is a bean exactly if nothing in it is at fault, and otherwise it is
refused for the first of its faults.
-/

set_option autoImplicit false
namespace ObjectGraph.Declaration

/-- What the declared type of a field makes of its property: all goes through the option around it, or
there is none and all goes to the field as it is. -/
inductive PropertyForm.Follows (form : PropertyForm) (written : TypeExpr) : Prop where
  | option : written.IsOption form.type → form.isNullable = true →
    form.access = ⟨.option, .option, .option⟩ → Follows form written
  | whole : (∀ value, ¬ written.IsOption value) → form.type = written → form.isNullable = false →
    form.access = ⟨.whole, .whole, .whole⟩ → Follows form written

inductive FieldRole where
  | parent (form : ParentForm)
  | skipped
  | property (form : PropertyForm)

namespace FieldRole

def parent? : FieldRole → Option ParentForm
  | parent form => some form
  | _ => none

def property? : FieldRole → Option PropertyForm
  | property form => some form
  | _ => none

end FieldRole

namespace FieldDecl

def Readable (field : FieldDecl) : Prop :=
  Flags.AllKnown FieldFlag.ofName? field.attributes

def Marked (field : FieldDecl) (flag : FieldFlag) : Prop :=
  Flags.Listed FieldFlag.ofName? field.attributes flag

structure FitsParent (field : FieldDecl) : Prop where
  notOption : ∀ value, ¬ field.type.IsOption value
  notSkipped : ¬ field.Marked .skip
  notReadonly : ¬ field.Marked .readonly

/-- The role of a field, by its flags and its type. -/
inductive HasRole (field : FieldDecl) : FieldRole → Prop where
  | parent : field.Marked .parent → field.FitsParent → HasRole field (.parent ⟨field.name, field.type⟩)
  | skipped : ¬ field.Marked .parent → field.Marked .skip → HasRole field .skipped
  | property {form : PropertyForm} : ¬ field.Marked .parent → ¬ field.Marked .skip →
    form.name = field.name → form.Follows field.type → (form.isReadonly = true ↔ field.Marked .readonly) →
    HasRole field (.property form)

/-- What is wrong with a field that stands behind these. -/
inductive Fault (earlier : List FieldDecl) (field : FieldDecl) : BeanFormError → Prop where
  | flags {error : FlagError} :
    Flags.FirstFault .field FieldFlag.ofName? field.attributes error → Fault earlier field (.flags error)
  | secondParent : field.Readable → field.Marked .parent →
    (∃ other ∈ earlier, other.Marked .parent) → Fault earlier field .secondParent
  | unfitParent : field.Readable → field.Marked .parent →
    (∀ other ∈ earlier, ¬ other.Marked .parent) → ¬ field.FitsParent → Fault earlier field .unfitParent

end FieldDecl

namespace TypeDecl

def Readable (decl : TypeDecl) : Prop :=
  Flags.AllKnown TypeFlag.ofName? decl.attributes

/-- The declaration declares a bean with these fields. -/
structure DeclaresBean (decl : TypeDecl) (fields : List FieldDecl) : Prop where
  named : decl.kind = .namedFields fields
  concrete : decl.parameters = []
  readable : decl.Readable
  fieldsReadable : ∀ field ∈ fields, field.Readable
  oneParent : fields.Pairwise fun one other => ¬ (one.Marked .parent ∧ other.Marked .parent)
  fitParent : ∀ field ∈ fields, field.Marked .parent → field.FitsParent

/-- The first fault of a declaration: that it is no structure, its parameters, its own flags, that its
fields have no names, and then those of its fields in order. -/
inductive FirstFault (decl : TypeDecl) : BeanFormError → Prop where
  | noStructure : decl.kind = .noStructure → FirstFault decl .noStructure
  | parameters : decl.kind ≠ .noStructure → decl.parameters ≠ [] → FirstFault decl .parameters
  | flags {error : FlagError} : decl.kind ≠ .noStructure → decl.parameters = [] →
    Flags.FirstFault .type TypeFlag.ofName? decl.attributes error → FirstFault decl (.flags error)
  | unnamedFields : decl.kind = .unnamedFields → decl.parameters = [] → decl.Readable →
    FirstFault decl .unnamedFields
  | field {before : List FieldDecl} {field : FieldDecl} {after : List FieldDecl} {error : BeanFormError} :
    decl.kind = .namedFields (before ++ field :: after) → decl.parameters = [] → decl.Readable →
    (∀ first earlier others, before = first ++ earlier :: others → ∀ error, ¬ earlier.Fault first error) →
    field.Fault before error → FirstFault decl error

end TypeDecl

namespace PropertyForm

theorem follows_iff {form : PropertyForm} {written : TypeExpr} :
    form.Follows written ↔ written.Unwraps form.type form.isNullable := by
  constructor
  · rintro (⟨option, nullable, _⟩ | ⟨plain, type, required, _⟩)
    · rw [nullable]
      exact .option option
    · rw [type, required]
      exact .plain plain
  · intro unwraps
    obtain ⟨name, type, isNullable, isReadonly⟩ := form
    cases unwraps with
    | option option => exact .option option rfl rfl
    | plain plain => exact .whole plain rfl rfl rfl

theorem follows_ofField (field : FieldDecl) (flags : List FieldFlag) :
    (ofField field flags).Follows field.type :=
  follows_iff.2 (TypeExpr.withoutOption_eq_iff.1 rfl)

theorem Follows.unique {form other : PropertyForm} {written : TypeExpr} (follows : form.Follows written)
    (follows' : other.Follows written) : form.type = other.type ∧ form.isNullable = other.isNullable := by
  have taken := TypeExpr.withoutOption_eq_iff.2 (follows_iff.1 follows)
  rw [TypeExpr.withoutOption_eq_iff.2 (follows_iff.1 follows'), Prod.mk.injEq] at taken
  exact ⟨taken.1.symm, taken.2.symm⟩

end PropertyForm

namespace FieldDecl

variable {field : FieldDecl} {role other : FieldRole} {flags : List FieldFlag}

theorem contains_iff (read : Flags.ofAttributes .field FieldFlag.ofName? field.attributes = .ok flags)
    (flag : FieldFlag) : flags.contains flag = true ↔ field.Marked flag := by
  rw [List.contains_iff_mem]
  exact Flags.mem_iff_listed read flag

theorem fitsParent_iff (read : Flags.ofAttributes .field FieldFlag.ofName? field.attributes = .ok flags) :
    (field.type.optionValue?.isSome || flags.contains .skip || flags.contains .readonly) = false ↔
      field.FitsParent := by
  rw [Bool.or_eq_false_iff, Bool.or_eq_false_iff, ← Bool.not_eq_true (List.contains _ _),
    ← Bool.not_eq_true (List.contains _ _), contains_iff read, contains_iff read, Option.isSome_eq_false_iff,
    Option.isNone_iff_eq_none, Option.eq_none_iff_forall_ne_some]
  simp only [ne_eq, TypeExpr.optionValue?_eq_some_iff]
  exact ⟨fun ⟨⟨plain, kept⟩, writable⟩ => ⟨plain, kept, writable⟩,
    fun ⟨plain, kept, writable⟩ => ⟨⟨plain, kept⟩, writable⟩⟩

theorem HasRole.unique (has : field.HasRole role) (has' : field.HasRole other) : role = other := by
  cases has with
  | parent marked =>
    cases has' with
    | parent => rfl
    | skipped unmarked => exact absurd marked unmarked
    | property unmarked => exact absurd marked unmarked
  | skipped unmarked skipped =>
    cases has' with
    | parent marked => exact absurd marked unmarked
    | skipped => rfl
    | property _ kept => exact absurd skipped kept
  | @property form unmarked kept name follows readonly =>
    cases has' with
    | parent marked => exact absurd marked unmarked
    | skipped _ skipped => exact absurd skipped kept
    | @property form' _ _ name' follows' readonly' =>
      obtain ⟨type, nullable⟩ := follows.unique follows'
      cases form
      cases form'
      cases name
      cases name'
      cases type
      cases nullable
      congr
      exact Bool.eq_iff_iff.2 (readonly.trans readonly'.symm)

theorem HasRole.fitsParent (has : field.HasRole role) (marked : field.Marked .parent) :
    field.FitsParent := by
  cases has with
  | parent _ fits => exact fits
  | skipped unmarked => exact absurd marked unmarked
  | property unmarked => exact absurd marked unmarked

theorem HasRole.parent?_eq_none_iff (has : field.HasRole role) :
    role.parent? = none ↔ ¬ field.Marked .parent := by
  cases has with
  | parent marked => exact ⟨nofun, fun unmarked => absurd marked unmarked⟩
  | skipped unmarked => exact ⟨fun _ => unmarked, fun _ => rfl⟩
  | property unmarked => exact ⟨fun _ => unmarked, fun _ => rfl⟩

end FieldDecl

namespace FieldForms

structure Adds (forms : FieldForms) (role : FieldRole) (after : FieldForms) : Prop where
  parent : after.parent?.toList = forms.parent?.toList ++ role.parent?.toList
  properties : after.properties = forms.properties ++ role.property?.toList

variable {forms after : FieldForms} {field : FieldDecl} {error : BeanFormError}

theorem push_cases (readable : field.Readable) :
    (field.Marked .parent ∧ forms.parent?.isSome = true ∧ forms.push field = .error .secondParent) ∨
    (field.Marked .parent ∧ forms.parent?.isSome = false ∧ ¬ field.FitsParent ∧
      forms.push field = .error .unfitParent) ∨
    ∃ role after, field.HasRole role ∧ forms.Adds role after ∧
      (field.Marked .parent → forms.parent?.isSome = false) ∧ forms.push field = .ok after := by
  obtain ⟨flags, read⟩ := (@Flags.allKnown_iff _ .field _ _).1 readable
  have marked := FieldDecl.contains_iff read
  -- With the flags at hand a step is a choice by the ones that they contain.
  have pushed : forms.push field =
      if flags.contains .parent then
        if forms.parent?.isSome then .error .secondParent
        else if field.type.optionValue?.isSome || flags.contains .skip || flags.contains .readonly then
          .error .unfitParent
        else .ok { forms with parent? := some ⟨field.name, field.type⟩ }
      else if flags.contains .skip then .ok forms
      else .ok { forms with properties := forms.properties ++ [.ofField field flags] } := by
    rw [push, read]
    rfl
  by_cases parent : field.Marked .parent
  · rw [if_pos ((marked _).2 parent)] at pushed
    cases taken : forms.parent? with
    | some other =>
      exact .inl ⟨parent, rfl, pushed.trans (if_pos (congrArg Option.isSome taken))⟩
    | none =>
      rw [taken, if_neg (by exact Bool.false_ne_true)] at pushed
      by_cases fits : field.FitsParent
      · rw [(FieldDecl.fitsParent_iff read).2 fits, if_neg Bool.false_ne_true] at pushed
        have adds : forms.Adds (.parent ⟨field.name, field.type⟩)
            { forms with parent? := some ⟨field.name, field.type⟩ } :=
          ⟨by rw [taken]; rfl, (List.append_nil _).symm⟩
        exact .inr (.inr ⟨_, _, .parent parent fits, adds, fun _ => rfl, pushed⟩)
      · rw [if_pos (Bool.of_not_eq_false (mt (FieldDecl.fitsParent_iff read).1 fits))] at pushed
        exact .inr (.inl ⟨parent, rfl, fits, pushed⟩)
  · rw [if_neg (mt (marked _).1 parent)] at pushed
    by_cases skipped : field.Marked .skip
    · rw [if_pos ((marked _).2 skipped)] at pushed
      have adds : forms.Adds .skipped forms := ⟨(List.append_nil _).symm, (List.append_nil _).symm⟩
      exact .inr (.inr ⟨_, _, .skipped parent skipped, adds, fun marked => absurd marked parent, pushed⟩)
    · rw [if_neg (mt (marked _).1 skipped)] at pushed
      have role : field.HasRole (.property (.ofField field flags)) :=
        .property parent skipped rfl (PropertyForm.follows_ofField field flags) (marked .readonly)
      have adds : forms.Adds (.property (.ofField field flags))
          { forms with properties := forms.properties ++ [.ofField field flags] } :=
        ⟨(List.append_nil _).symm, rfl⟩
      exact .inr (.inr ⟨_, _, role, adds, fun marked => absurd marked parent, pushed⟩)

theorem push_of_unreadable {cause : FlagError}
    (fault : Flags.FirstFault .field FieldFlag.ofName? field.attributes cause) :
    forms.push field = .error (.flags cause) := by
  rw [push, Flags.ofAttributes_eq_error_iff.2 fault]
  rfl

/-- A step fails with the fault of its field, if a parent is there exactly when a field before was one. -/
theorem push_eq_error_iff {earlier : List FieldDecl}
    (parents : forms.parent?.isSome = true ↔ ∃ other ∈ earlier, other.Marked .parent) :
    forms.push field = .error error ↔ field.Fault earlier error := by
  -- Flags that cannot be read are a fault before any of the parent is, so the two come apart first.
  by_cases readable : field.Readable
  · rcases @push_cases forms _ readable with
      ⟨marked, taken, pushed⟩ | ⟨marked, free, unfit, pushed⟩ | ⟨role, after, has, -, free, pushed⟩
    all_goals rw [pushed]
    · constructor
      · rintro ⟨⟩
        exact .secondParent readable marked (parents.1 taken)
      · rintro (fault | ⟨_, _, _⟩ | ⟨_, _, none, _⟩)
        · exact absurd readable (Flags.not_allKnown_iff.2 ⟨_, fault⟩)
        · rfl
        · obtain ⟨other, before, marked'⟩ := parents.1 taken
          exact absurd marked' (none other before)
    · constructor
      · rintro ⟨⟩
        refine .unfitParent readable marked (fun other before marked' => ?_) unfit
        rw [parents.2 ⟨other, before, marked'⟩] at free
        cases free
      · rintro (fault | ⟨_, _, others⟩ | ⟨_, _, _, _⟩)
        · exact absurd readable (Flags.not_allKnown_iff.2 ⟨_, fault⟩)
        · rw [parents.2 others] at free
          cases free
        · rfl
    · refine ⟨nofun, ?_⟩
      rintro (fault | ⟨_, marked, others⟩ | ⟨_, marked, _, unfit⟩)
      · exact absurd readable (Flags.not_allKnown_iff.2 ⟨_, fault⟩)
      · have taken := free marked
        rw [parents.2 others] at taken
        cases taken
      · exact absurd (has.fitsParent marked) unfit
  · constructor
    · intro failed
      obtain ⟨cause, fault⟩ := Flags.not_allKnown_iff.1 readable
      rw [push_of_unreadable fault] at failed
      cases failed
      exact .flags fault
    · rintro (fault | ⟨readable', _, _⟩ | ⟨readable', _, _, _⟩)
      · exact push_of_unreadable fault
      · exact absurd readable' readable
      · exact absurd readable' readable

/-- The forms are those of the fields by their roles, in the order of the fields. -/
def Of (forms : FieldForms) (fields : List FieldDecl) : Prop :=
  ∃ roles, List.Forall₂ FieldDecl.HasRole fields roles ∧
    forms.parent?.toList = roles.filterMap FieldRole.parent? ∧
    forms.properties = roles.filterMap FieldRole.property?

theorem adds_of_push (pushed : forms.push field = .ok after) :
    ∃ role, field.HasRole role ∧ forms.Adds role after := by
  by_cases readable : field.Readable
  · rcases @push_cases forms _ readable with
      ⟨_, _, failed⟩ | ⟨_, _, _, failed⟩ | ⟨role, made, has, adds, -, succeeded⟩
    · rw [failed] at pushed
      cases pushed
    · rw [failed] at pushed
      cases pushed
    · rw [succeeded] at pushed
      cases pushed
      exact ⟨role, has, adds⟩
  · obtain ⟨cause, fault⟩ := Flags.not_allKnown_iff.1 readable
    rw [push_of_unreadable fault] at pushed
    cases pushed

theorem of_ofFields {fields : List FieldDecl} (read : ofFields fields = .ok forms) : forms.Of fields := by
  -- The last field is pushed onto the forms of those before it, so the induction is from the end.
  induction fields using List.reverseRecOn generalizing forms with
  | nil =>
    cases read
    exact ⟨[], .nil, rfl, rfl⟩
  | append_singleton fields field ih =>
    rw [ofFields, List.foldlM_append] at read
    obtain ⟨before, readBefore, pushed⟩ := bind_eq_ok.1 read
    obtain ⟨last, pushed, done⟩ := bind_eq_ok.1 pushed
    cases done
    obtain ⟨roles, each, parent, properties⟩ := ih readBefore
    obtain ⟨role, has, adds⟩ := adds_of_push pushed
    refine ⟨roles ++ [role], List.rel_append each (.cons has .nil), ?_, ?_⟩
    · rw [adds.parent, parent, List.filterMap_append]
      cases role <;> rfl
    · rw [adds.properties, properties, List.filterMap_append]
      cases role <;> rfl

theorem Of.parent_iff {fields : List FieldDecl} (of : forms.Of fields) :
    forms.parent?.isSome = true ↔ ∃ field ∈ fields, field.Marked .parent := by
  obtain ⟨roles, each, parent, -⟩ := of
  have some : forms.parent?.isSome = true ↔ roles.filterMap FieldRole.parent? ≠ [] := by
    rw [← parent]
    cases forms.parent? <;> simp
  rw [some, ne_eq, List.filterMap_eq_nil_iff, ← not_iff_not, not_not]
  push Not
  clear parent some
  induction each with
  | nil => simp
  | cons has _ ih => rw [List.forall_mem_cons, List.forall_mem_cons, has.parent?_eq_none_iff, ih]

theorem Of.exists_role {fields : List FieldDecl} (of : forms.Of fields) (member : field ∈ fields) :
    ∃ role, field.HasRole role := by
  obtain ⟨roles, each, -, -⟩ := of
  induction each with
  | nil => cases member
  | @cons _ role _ _ has _ ih =>
    rcases List.mem_cons.1 member with rfl | member
    · exact ⟨role, has⟩
    · exact ih member

theorem ofFields_eq_error_iff {fields : List FieldDecl} :
    ofFields fields = .error error ↔ ∃ before field after, fields = before ++ field :: after ∧
      (∃ forms, ofFields before = .ok forms) ∧ field.Fault before error := by
  rw [ofFields, foldlM_eq_error_iff]
  constructor
  · rintro ⟨before, field, after, forms, same, read, failed⟩
    exact ⟨before, field, after, same, ⟨forms, read⟩,
      (push_eq_error_iff (of_ofFields read).parent_iff).1 failed⟩
  · rintro ⟨before, field, after, same, ⟨forms, read⟩, fault⟩
    exact ⟨before, field, after, forms, same, read,
      (push_eq_error_iff (of_ofFields read).parent_iff).2 fault⟩

theorem exists_ofFields_iff {fields : List FieldDecl} : (∃ forms, ofFields fields = .ok forms) ↔
    ∀ before field after, fields = before ++ field :: after → ∀ error, ¬ field.Fault before error := by
  constructor
  · rintro ⟨forms, read⟩ before field after rfl error fault
    rw [ofFields, List.foldlM_append] at read
    obtain ⟨first, readFirst, others⟩ := bind_eq_ok.1 read
    obtain ⟨next, pushed, -⟩ := bind_eq_ok.1 others
    rw [(push_eq_error_iff (of_ofFields readFirst).parent_iff).2 fault] at pushed
    cases pushed
  · intro faultless
    cases read : ofFields fields with
    | ok forms => exact ⟨forms, rfl⟩
    | error error =>
      obtain ⟨before, field, after, same, -, fault⟩ := ofFields_eq_error_iff.1 read
      exact absurd fault (faultless before field after same error)

end FieldForms

theorem FieldDecl.faultless_iff {earlier : List FieldDecl} {field : FieldDecl} :
    (∀ error, ¬ field.Fault earlier error) ↔ field.Readable ∧ (field.Marked .parent →
      (∀ other ∈ earlier, ¬ other.Marked .parent) ∧ field.FitsParent) := by
  constructor
  · intro faultless
    have readable : field.Readable := by
      by_contra unreadable
      obtain ⟨cause, fault⟩ := Flags.not_allKnown_iff.1 unreadable
      exact faultless _ (.flags fault)
    refine ⟨readable, fun marked => ?_⟩
    have first : ∀ other ∈ earlier, ¬ other.Marked .parent :=
      fun other before marked' => faultless _ (.secondParent readable marked ⟨other, before, marked'⟩)
    refine ⟨first, ?_⟩
    by_contra unfit
    exact faultless _ (.unfitParent readable marked first unfit)
  · rintro ⟨readable, fit⟩ error (fault | ⟨_, marked, other, before, marked'⟩ | ⟨_, marked, _, unfit⟩)
    · exact Flags.not_allKnown_iff.2 ⟨_, fault⟩ readable
    · exact (fit marked).1 other before marked'
    · exact unfit (fit marked).2

theorem pairwise_iff_forall_before {α : Type} {R : α → α → Prop} {elements : List α} :
    elements.Pairwise R ↔
      ∀ before element after, elements = before ++ element :: after →
        ∀ earlier ∈ before, R earlier element := by
  induction elements using List.reverseRecOn with
  | nil => simp
  | append_singleton elements last ih =>
    rw [List.pairwise_append, ih]
    constructor
    · rintro ⟨each, -, ahead⟩ before element after same earlier member
      rcases List.eq_nil_or_concat after with rfl | ⟨after, final, rfl⟩
      · obtain ⟨rfl, here⟩ := List.append_inj' same rfl
        cases here
        exact ahead earlier member _ (List.mem_singleton.2 rfl)
      · rw [List.concat_eq_append, ← List.cons_append, ← List.append_assoc] at same
        obtain ⟨rfl, -⟩ := List.append_inj' same rfl
        exact each _ _ _ rfl earlier member
    · intro each
      refine ⟨?_, List.pairwise_singleton _ _, ?_⟩
      · rintro before element after rfl
        exact each before element (after ++ [last]) (by simp)
      · intro earlier member other here
        cases List.mem_singleton.1 here
        exact each _ _ [] rfl earlier member

namespace TypeDecl

variable {decl : TypeDecl}

/-- No field is at fault behind those before it where all can be read and one at the most is a parent,
which fits. -/
theorem fieldsFaultless_iff {fields : List FieldDecl} :
    (∀ before field after, fields = before ++ field :: after → ∀ error, ¬ field.Fault before error) ↔
      (∀ field ∈ fields, field.Readable) ∧
      fields.Pairwise (fun one other => ¬ (one.Marked .parent ∧ other.Marked .parent)) ∧
      ∀ field ∈ fields, field.Marked .parent → field.FitsParent := by
  simp only [FieldDecl.faultless_iff, pairwise_iff_forall_before]
  constructor
  · intro faultless
    refine ⟨fun field member => ?_, fun before field after same earlier member => ?_,
      fun field member marked => ?_⟩
    · obtain ⟨before, after, rfl⟩ := List.append_of_mem member
      exact (faultless _ _ _ rfl).1
    · rintro ⟨marked, marked'⟩
      exact ((faultless _ _ _ same).2 marked').1 earlier member marked
    · obtain ⟨before, after, rfl⟩ := List.append_of_mem member
      exact ((faultless _ _ _ rfl).2 marked).2
  · rintro ⟨readable, one, fit⟩ before field after rfl
    have member : field ∈ before ++ field :: after := List.mem_append_cons_self
    exact ⟨readable field member, fun marked => ⟨fun other earlier marked' =>
      one _ _ _ rfl other earlier ⟨marked', marked⟩, fit field member marked⟩⟩

end TypeDecl

namespace BeanForm

variable {decl : TypeDecl}

theorem ofDecl_of_noStructure (kind : decl.kind = .noStructure) : ofDecl decl = .error .noStructure := by
  rw [ofDecl, kind]
  rfl

theorem ofDecl_of_parameters (isStructure : decl.kind ≠ .noStructure) (generic : decl.parameters ≠ []) :
    ofDecl decl = .error .parameters := by
  rw [ofDecl, List.isEmpty_eq_false_iff.2 generic]
  cases kind : decl.kind with
  | noStructure => exact absurd kind isStructure
  | unnamedFields => rfl
  | namedFields fields => rfl

theorem ofDecl_of_structure (isStructure : decl.kind ≠ .noStructure) (concrete : decl.parameters = []) :
    ofDecl decl = ((Flags.ofAttributes .type TypeFlag.ofName? decl.attributes).mapError .flags >>=
      fun flags => match decl.kind with
      | .namedFields fields => (FieldForms.ofFields fields).map (⟨decl.name, flags, ·⟩)
      | _ => .error .unnamedFields) := by
  rw [ofDecl, concrete]
  cases kind : decl.kind with
  | noStructure => exact absurd kind isStructure
  | unnamedFields => rfl
  | namedFields fields => rfl

theorem ofDecl_eq_ok_iff {form : BeanForm} : ofDecl decl = .ok form ↔
    ∃ fields, decl.kind = .namedFields fields ∧ decl.parameters = [] ∧
      Flags.ofAttributes .type TypeFlag.ofName? decl.attributes = .ok form.flags ∧
      FieldForms.ofFields fields = .ok form.fields ∧ form.name = decl.name := by
  by_cases isStructure : decl.kind = .noStructure
  · simp [ofDecl_of_noStructure isStructure, isStructure]
  by_cases concrete : decl.parameters = []
  · rw [ofDecl_of_structure isStructure concrete, bind_eq_ok]
    simp only [mapError_eq_ok_iff, concrete, true_and]
    cases decl.kind with
    | noStructure => simp
    | unnamedFields => simp
    | namedFields fields =>
      simp only [map_eq_ok_iff]
      constructor
      · rintro ⟨flags, read, forms, parts, rfl⟩
        exact ⟨fields, rfl, read, parts, rfl⟩
      · rintro ⟨_, ⟨⟩, read, parts, name⟩
        refine ⟨form.flags, read, form.fields, parts, ?_⟩
        rw [← name]
  · rw [ofDecl_of_parameters isStructure concrete]
    simp [concrete]

theorem exists_ofDecl_iff : (∃ form, ofDecl decl = .ok form) ↔ ∃ fields, decl.DeclaresBean fields := by
  simp only [ofDecl_eq_ok_iff]
  constructor
  · rintro ⟨form, fields, named, concrete, read, parts, -⟩
    obtain ⟨readable, one, fit⟩ :=
      TypeDecl.fieldsFaultless_iff.1 (FieldForms.exists_ofFields_iff.1 ⟨_, parts⟩)
    exact ⟨fields, named, concrete, Flags.allKnown_iff.2 ⟨_, read⟩, readable, one, fit⟩
  · rintro ⟨fields, named, concrete, readable, fieldsReadable, one, fit⟩
    obtain ⟨flags, read⟩ := (@Flags.allKnown_iff _ .type _ _).1 readable
    obtain ⟨forms, parts⟩ :=
      FieldForms.exists_ofFields_iff.2 (TypeDecl.fieldsFaultless_iff.2 ⟨fieldsReadable, one, fit⟩)
    exact ⟨⟨decl.name, flags, forms⟩, fields, named, concrete, read, parts, rfl⟩

theorem ofDecl_eq_error_iff {error : BeanFormError} : ofDecl decl = .error error ↔ decl.FirstFault error := by
  -- Faults are looked for in one order, so each case rules out the causes before it.
  by_cases isStructure : decl.kind = .noStructure
  · rw [ofDecl_of_noStructure isStructure]
    constructor
    · rintro ⟨⟩
      exact .noStructure isStructure
    · rintro (_ | ⟨other, _⟩ | ⟨other, _, _⟩ | ⟨other, _, _⟩ | ⟨other, _, _, _, _⟩)
      · rfl
      all_goals simp [isStructure] at other
  by_cases concrete : decl.parameters = []
  · rw [ofDecl_of_structure isStructure concrete, bind_eq_error]
    simp only [mapError_eq_error_iff, mapError_eq_ok_iff, Flags.ofAttributes_eq_error_iff]
    constructor
    · rintro (⟨cause, fault, rfl⟩ | ⟨flags, read, failed⟩)
      · exact .flags isStructure concrete fault
      · have readable : decl.Readable := Flags.allKnown_iff.2 ⟨flags, read⟩
        cases kind : decl.kind with
        | noStructure => exact absurd kind isStructure
        | unnamedFields =>
          rw [kind] at failed
          cases failed
          exact .unnamedFields kind concrete readable
        | namedFields fields =>
          simp only [kind, map_eq_error_iff] at failed
          obtain ⟨before, field, after, rfl, parts, fault⟩ := FieldForms.ofFields_eq_error_iff.1 failed
          exact .field kind concrete readable (FieldForms.exists_ofFields_iff.1 parts) fault
    · rintro (other | ⟨_, generic⟩ | ⟨_, _, fault⟩ | ⟨kind, _, readable⟩ |
        ⟨kind, _, readable, faultless, fault⟩)
      · exact absurd other isStructure
      · exact absurd concrete generic
      · exact .inl ⟨_, fault, rfl⟩
      · obtain ⟨flags, read⟩ := (@Flags.allKnown_iff _ .type _ _).1 readable
        exact .inr ⟨flags, read, by rw [kind]⟩
      · obtain ⟨flags, read⟩ := (@Flags.allKnown_iff _ .type _ _).1 readable
        have parts := FieldForms.exists_ofFields_iff.2 faultless
        refine .inr ⟨flags, read, ?_⟩
        simp only [kind, map_eq_error_iff]
        exact FieldForms.ofFields_eq_error_iff.2 ⟨_, _, _, rfl, parts, fault⟩
  · rw [ofDecl_of_parameters isStructure concrete]
    constructor
    · rintro ⟨⟩
      exact .parameters isStructure concrete
    · rintro (other | _ | ⟨_, none, _⟩ | ⟨_, none, _⟩ | ⟨_, none, _, _, _⟩)
      · exact absurd other isStructure
      · rfl
      all_goals exact absurd none concrete

/-- A declaration is a bean where its fields are a bean's, each of which then has one role: the parent,
or left out, or a property in the order of the fields; any other is refused for its first fault. -/
theorem partitions (decl : TypeDecl) :
    ((∃ form, ofDecl decl = .ok form) ↔ ∃ fields, decl.DeclaresBean fields) ∧
    (∀ form, ofDecl decl = .ok form → form.name = decl.name ∧
      (∀ flag, flag ∈ form.flags ↔ Flags.Listed TypeFlag.ofName? decl.attributes flag) ∧
      ∃ fields, decl.kind = .namedFields fields ∧ form.fields.Of fields ∧
        ∀ field ∈ fields, ∃! role, field.HasRole role) ∧
    ∀ error, ofDecl decl = .error error ↔ decl.FirstFault error := by
  refine ⟨exists_ofDecl_iff, ?_, fun error => ofDecl_eq_error_iff⟩
  intro form made
  obtain ⟨fields, named, -, read, parts, name⟩ := ofDecl_eq_ok_iff.1 made
  have of := FieldForms.of_ofFields parts
  refine ⟨name, Flags.mem_iff_listed read, fields, named, of, fun field member => ?_⟩
  obtain ⟨role, has⟩ := of.exists_role member
  exact ⟨role, has, fun other has' => has'.unique has⟩

end BeanForm
end ObjectGraph.Declaration
