import ObjectGraph.Proofs.Signatures

/-! The types that members declare, and the types of the values that they pass.

A member declares the type that its function writes, without the option around it and the reference
behind that, and a text for a text slice. What it passes is of the type that is written, except where a
getter makes a text of the slice that its function returns. The two agree wherever a slice that is
declared as a text is also made one.
-/

set_option autoImplicit false
namespace ObjectGraph.Declaration

namespace TypeExpr

variable {written value : TypeExpr} {manner : Manner} {nullable : Bool}

/-- The type of text slices. No object has it. -/
def slice : TypeExpr :=
  .named (.ofName "str")

/-- The type without the option around it and the reference behind that. -/
def bare (written : TypeExpr) : TypeExpr :=
  match written.withoutOption.1.target? with
  | some (target, _) => target
  | none => written.withoutOption.1

def Manner.target? (manner : Manner) (value : TypeExpr) : Option (TypeExpr × Bool) :=
  match manner with
  | .owned => none
  | .shared => some (value, false)
  | .exclusive => some (value, true)

theorem Carries.target? (carries : written.Carries manner value nullable) :
    written.withoutOption.1.target? = manner.target? value := by
  cases carries with
  | owned unwraps nameable => rw [withoutOption_eq_iff.2 unwraps]; exact nameable.target?
  | shared unwraps => rw [withoutOption_eq_iff.2 unwraps]; rfl
  | exclusive unwraps => rw [withoutOption_eq_iff.2 unwraps]; rfl

theorem Carries.bare (carries : written.Carries manner value nullable) : written.bare = value := by
  rw [TypeExpr.bare, carries.target?]
  cases carries with
  | owned unwraps => rw [withoutOption_eq_iff.2 unwraps]; rfl
  | shared => rfl
  | exclusive => rfl

theorem Carries.shared_slice_iff (carries : written.Carries manner value nullable) :
    (∃ nullable, written.Carries .shared slice nullable) ↔ manner = .shared ∧ value = slice := by
  constructor
  · rintro ⟨_, shared⟩
    have same := carries.target?.symm.trans shared.target?
    cases manner with
    | shared => exact ⟨rfl, congrArg Prod.fst (Option.some.inj same)⟩
    | _ => cases same
  · rintro ⟨rfl, rfl⟩
    exact ⟨_, carries⟩

end TypeExpr

open TypeExpr (slice)

theorem ValueType.ofType_eq_text_iff {value : TypeExpr} : ofType value = .text ↔ value = slice := by
  rw [ofType, ite_eq_left_iff, Bool.not_eq_true, ← Bool.not_eq_true, not_imp_comm, TypeExpr.isText_iff]
  exact ⟨fun text => text nofun, fun text _ => text⟩

theorem ValueType.ofType_eq_type_iff {value : TypeExpr} :
    ofType value = .type value ↔ value ≠ slice := by
  rw [ofType, ite_eq_right_iff, TypeExpr.isText_iff]
  exact ⟨fun other text => (nomatch other text), fun other text => absurd text other⟩

/-- The type of what passes, when the function returns or takes values of this type. -/
def Passing.handled (passing : Passing) (value : TypeExpr) : ValueType :=
  match passing with
  | .ownedText => .text
  | _ => .type value

namespace Passing

variable {passing : Passing} {manner : TypeExpr.Manner} {value : TypeExpr} {nullable : Bool}

theorem ofGetter_eq_ownedText_iff (notExclusive : manner ≠ .exclusive) :
    ofGetter manner value = .ownedText ↔ manner = .shared ∧ value = slice := by
  cases manner with
  | owned => simp [ofGetter]
  | shared => simp [ofGetter, TypeExpr.isText_iff, slice]
  | exclusive => exact absurd rfl notExclusive

theorem ofSetter_ne_ownedText : ofSetter nullable ≠ .ownedText := by
  cases nullable <;> nofun

theorem ofCompanion_ne_ownedText : ofCompanion nullable ≠ .ownedText := by
  cases nullable <;> nofun

theorem ofType_eq_handled_iff (made : passing = .ownedText → value = slice) :
    ValueType.ofType value = passing.handled value ↔ (value = slice → passing = .ownedText) := by
  by_cases owned : passing = .ownedText
  · subst owned
    simp only [handled, ValueType.ofType_eq_text_iff, made rfl, implies_true]
  · have plain : passing.handled value = .type value := by
      cases passing <;> first | rfl | exact absurd rfl owned
    rw [plain, ValueType.ofType_eq_type_iff]
    exact ⟨fun other text => absurd text other, fun only text => owned (only text)⟩

end Passing

namespace FunctionDecl

variable {self : String} {decl : FunctionDecl} {members : List MemberForm}

/-- The type of what an accessor exchanges with its caller: that of its parameter, or of its result if it
takes none. -/
def exchanged? (decl : FunctionDecl) : Option TypeExpr :=
  decl.parameters.head?.or decl.result

/-- The accessor is of the type that its function exchanges. A text is made by a getter of a shared slice
and by no other member, and no getter hands out the slice itself. -/
structure Exchanges (decl : FunctionDecl) (form : AccessorForm) (written : TypeExpr) : Prop where
  exchanged : decl.exchanged? = some written
  declared : form.type = .ofType written.bare
  made : form.passing = .ownedText ↔
    form.role = .getter ∧ ∃ nullable, written.Carries .shared slice nullable
  lent : form.passing = .borrowed → written.bare ≠ slice

theorem Reads.exchanges {manner : TypeExpr.Manner} {value : TypeExpr} {nullable : Bool}
    (reads : decl.Reads manner value nullable) : ∃ written,
      decl.Exchanges ⟨.getter, decl.name, .ofType value, nullable, .ofGetter manner value⟩ written := by
  obtain ⟨accessible, notExclusive, written, result, carries⟩ := reads
  refine ⟨written, ?_, by rw [carries.bare], ?_, ?_⟩
  · rw [exchanged?, accessible.parameters]
    exact result
  · rw [carries.shared_slice_iff, Passing.ofGetter_eq_ownedText_iff notExclusive]
    exact ⟨fun made => ⟨rfl, made⟩, And.right⟩
  -- A getter of a shared slice makes a text of it, so what it borrows is something else.
  · rw [carries.bare]
    rintro lent rfl
    cases manner <;> cases lent

theorem Lends.exchanges {value : TypeExpr} {nullable : Bool} (lends : decl.Lends value nullable) :
    ∃ written, decl.Exchanges
      ⟨.getterMut, decl.name, .ofType value, nullable, .ofCompanion nullable⟩ written := by
  obtain ⟨accessible, written, result, carries⟩ := lends
  refine ⟨written, ?_, by rw [carries.bare], ?_, ?_⟩
  · rw [exchanged?, accessible.parameters]
    exact result
  · exact ⟨fun made => absurd made Passing.ofCompanion_ne_ownedText, fun getter => nomatch getter.1⟩
  · cases nullable <;> nofun

theorem Takes.exchanges {value : TypeExpr} {nullable : Bool} (takes : decl.Takes value nullable) :
    ∃ written, decl.Exchanges
      ⟨.setter, decl.name, .ofType value, nullable, .ofSetter nullable⟩ written := by
  obtain ⟨⟨written, accessible, carries⟩, nothing⟩ := takes
  refine ⟨written, ?_, by rw [carries.bare], ?_, ?_⟩
  · rw [exchanged?, accessible.parameters]
    rfl
  · exact ⟨fun made => absurd made Passing.ofSetter_ne_ownedText, fun getter => nomatch getter.1⟩
  · cases nullable <;> nofun

theorem Gives.exchanges {form : AccessorForm} (gives : decl.Gives self (.accessor form)) :
    ∃ written, decl.Exchanges form written := by
  cases gives with
  | getter reads => exact reads.exchanges
  | getterMut lends => exact lends.exchanges
  | setter takes => exact takes.exchanges

theorem Gives.parameters {form : ConstructorForm} (gives : decl.Gives self (.constructor form)) :
    List.Forall₂ (fun written parameter => parameter.type = .ofType written.bare) decl.parameters
      form.parameters := by
  cases gives with
  | constructor makes =>
    rw [List.forall₂_map_right_iff]
    refine makes.parameters.imp fun written value carries => ?_
    rw [carries.bare]

theorem gives_of_members (given : decl.members self = .ok members) {form : MemberForm}
    (member : form ∈ members) : decl.Gives self form := by
  obtain ⟨flags, -, rfl⟩ := members_eq_ok_iff.1 given
  split at member
  · cases member
  · exact member?_eq_some_iff.1 (Option.mem_toList.1 member)

/-- A member declares the type of the values that it passes, unless this is the type of slices and no text
is made of them: then it declares a text and passes a slice. Getters never do so with a slice that they
borrow, and constructors do with the parameters that are slices. -/
theorem declares_handled (given : decl.members self = .ok members) :
    (∀ form, .accessor form ∈ members → ∃ written, decl.Exchanges form written ∧
      (form.type = form.passing.handled written.bare ↔
        (written.bare = slice → form.passing = .ownedText)) ∧
      (form.type = .text → form.passing ≠ .borrowed)) ∧
    ∀ form, .constructor form ∈ members → List.Forall₂ (fun written parameter =>
      parameter.type = .ofType written.bare ∧
        (parameter.type = .type written.bare ↔ written.bare ≠ slice)) decl.parameters form.parameters := by
  constructor
  · intro form member
    obtain ⟨written, exchanges⟩ := (gives_of_members given member).exchanges
    refine ⟨written, exchanges, ?_, ?_⟩
    · rw [exchanges.declared]
      refine Passing.ofType_eq_handled_iff fun made => ?_
      obtain ⟨-, nullable, carries⟩ := exchanges.made.1 made
      exact carries.bare
    · rw [exchanges.declared, ValueType.ofType_eq_text_iff]
      exact fun text borrowed => exchanges.lent borrowed text
  · intro form member
    refine (gives_of_members given member).parameters.imp fun written parameter declared => ?_
    rw [declared, ValueType.ofType_eq_type_iff]
    exact ⟨rfl, Iff.rfl⟩

end FunctionDecl

namespace MethodBlock

/-- The title of a note is declared as a text, and a text is made of it. -/
theorem declares_handled_title :
    noteTitle.members "Note" = .ok [.accessor ⟨.getter, "title", .text, true, .ownedText⟩] ∧
      Passing.ownedText.handled slice = .text := by
  have given : noteTitle.members "Note" =
      .ok [.accessor ⟨.getter, "title", .text, true, .ownedText⟩] := rfl
  obtain ⟨written, exchanges, agree, -⟩ := (FunctionDecl.declares_handled given).1 _ (.head _)
  have text : written.bare = slice := ValueType.ofType_eq_text_iff.1 exchanges.declared.symm
  rw [text] at agree
  exact ⟨given, (agree.2 fun _ => rfl).symm⟩

def noteText : FunctionDecl :=
  ⟨"get_text_mut", .exclusive, [], false, some (.reference true none slice), .everyone, [], [], []⟩

/-- What is lent of a note is declared as a text, and is a slice. -/
theorem noteText_declares_other :
    noteText.members "Note" = .ok [.accessor ⟨.getterMut, "get_text_mut", .text, false, .exclusive⟩] ∧
      noteText.exchanged?.map (·.bare) = some slice ∧
      Passing.exclusive.handled slice = .type slice ∧ ValueType.text ≠ .type slice :=
  ⟨rfl, rfl, rfl, nofun⟩

end MethodBlock
end ObjectGraph.Declaration
