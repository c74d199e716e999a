import ObjectGraph.Proofs.Fitness
import ObjectGraph.Proofs.Refusal
import ObjectGraph.Proofs.Slotted

/-! What is made for a missing part is never refused.

The three accesses that make a missing part ask the factory for the type of the slot that they then write,
or for a map where the slot takes anything. So whatever goes wrong on the way, it is not that the value is
absent or of another type: no call is refused for its argument and no container refuses the element.
-/

set_option autoImplicit false
namespace ObjectGraph

/-! Members that are called -/

theorem AccessError.Unreached.notOfValue {e : AccessError} (unreached : e.Unreached) : e.NotOfValue := by
  cases unreached <;> rfl

namespace Edit.FailsWith

variable {ε δ α : Type} {P : ε → Prop} {Q : δ → Prop} {o : Obj}

theorem mapError {f : δ → ε} {edit : Edit δ α} (inner : edit.FailsWith Q o)
    (reworded : ∀ e, Q e → P (f e)) : (edit.mapError f).FailsWith P o := by
  intro e o' failed
  rw [mapError_apply] at failed
  split at failed <;> cases failed
  next failed => exact reworded _ (inner _ _ failed)

theorem inside {edit : Edit ε α} {part : Obj} (inner : edit.FailsWith P part) (place : Place) :
    (Edit.inside place part edit).FailsWith P o := by
  intro e o' failed
  rw [inside_apply] at failed
  split at failed <;> cases failed
  next failed => exact inner _ _ failed

end Edit.FailsWith

theorem Upcast.unrefused_of_follow {steps : List Upcast} {o : Obj} {e : InvokeError}
    (failed : follow steps o = .error e) : e.NotOfValue := by
  induction steps generalizing o with
  | nil => cases failed
  | cons step steps ih =>
    unfold follow at failed
    split at failed
    · exact ih failed
    · cases failed
      rfl

theorem Upcast.at?_of_follow {steps : List Upcast} {o owner : Obj}
    (followed : follow steps o = .ok owner) : o.at? (place steps) = some owner := by
  induction steps generalizing o with
  | nil => cases followed; rfl
  | cons step steps ih =>
    unfold follow at followed
    split at followed
    next parent found =>
      split at found
      · simpa [place, Obj.at?, found] using ih followed
      · cases found
    · cases followed

theorem Target.unrefused_of_check {t : Target} {o : Obj} {e : InvokeError} (failed : t.check o = .error e) :
    e.NotOfValue := by
  unfold check at failed
  split at failed <;> cases failed
  rfl

namespace Invoker

variable {i : Invoker} {o owner : Obj}

theorem failsWith_onOwner {α : Type} {edit : Edit InvokeError α}
    (each : ∀ owner, edit.FailsWith InvokeError.NotOfValue owner) :
    (i.onOwner edit).FailsWith InvokeError.NotOfValue o :=
  .bind_get (.bind_ofExcept (fun _ => Upcast.unrefused_of_follow) fun owner _ => (each owner).inside _)

theorem unrefused_of_borrowMember (i : Invoker) (owner : Obj) :
    i.borrowMember.FailsWith InvokeError.NotOfValue owner := by
  have field (f : Field) : (f.borrow i.target).FailsWith InvokeError.NotOfValue owner :=
    .bind_get (.bind_ofExcept (fun _ => Target.unrefused_of_check) fun _ _ => .of_pure _)
  unfold borrowMember
  split
  · exact field _
  · unfold Method.callBorrow
    split
    · refine .bind_get (.bind_ofExcept (fun _ => Target.unrefused_of_check) fun _ _ => ?_)
      exact .bind (.of_set _) fun _ _ _ => .of_pure _
    · exact .of_throw rfl
  · exact field _
  · exact .of_throw rfl

theorem unrefused_of_writeMember {new : Obj} (accepts : i.valueType.accepts new = true) (owner : Obj) :
    (i.writeMember (some new)).FailsWith InvokeError.NotOfValue owner := by
  unfold writeMember
  split
  next f bound =>
    have argument := Ty.argument_of_accepts (t := f.ty) (by simpa [valueType, bound] using accepts) f.nullable
    unfold Field.write
    split
    · refine .bind (.of_throw rfl) ?_
      intro _ _ ran
      cases ran
    · rw [argument]
      refine .bind_get (.bind_ofExcept (fun _ => Target.unrefused_of_check) fun _ _ => ?_)
      split
      · exact .of_set _
      · exact .of_pure _
  next m path bound =>
    have argument := Ty.argument_of_accepts (t := m.ty) (by simpa [valueType, bound] using accepts) m.nullable
    unfold Method.callSet
    split
    · rw [argument]
      exact .bind_get (.bind_ofExcept (fun _ => Target.unrefused_of_check) fun _ _ => .of_set _)
    · exact .of_throw rfl

theorem unrefused_of_borrow (i : Invoker) (o : Obj) : i.borrow.FailsWith AccessError.NotOfValue o := by
  refine .bind_get (.bind ?_ fun _ _ _ => .of_pure _)
  exact .mapError (failsWith_onOwner (i.unrefused_of_borrowMember ·)) fun _ unrefused => unrefused

theorem unrefused_of_write {new : Obj} (accepts : i.valueType.accepts new = true) (o : Obj) :
    (i.write (some new)).FailsWith AccessError.NotOfValue o :=
  .bind_get (.mapError (failsWith_onOwner (unrefused_of_writeMember accepts)) fun _ unrefused => unrefused)

theorem slotted_of_borrowMember (slotted : i.Slotted) {place : Option Place} {owner' : Obj}
    (ran : i.borrowMember owner = .ok place owner') (before : owner.Slotted) : owner'.Slotted := by
  have field (f : Field) (ran : f.borrow i.target owner = .ok place owner') : owner'.Slotted := by
    simp only [Field.borrow, Edit.bind_apply, Edit.get_apply] at ran
    cases checked : i.target.check owner with
    | error e => rw [checked] at ran; cases ran
    | ok => rw [checked] at ran; cases ran; exact before
  -- Only a companion can change its object. A field is lent as it is.
  unfold borrowMember at ran
  cases bound : i.member with
  | field f => rw [bound] at ran; exact field f ran
  | method m path =>
    rw [bound] at ran
    cases path with
    | field f => exact field f ran
    | none => cases ran
    | companion c =>
      simp only [Method.callBorrow] at ran
      cases body : c.body with
      | companion borrow =>
        simp only [body, Edit.bind_apply, Edit.get_apply] at ran
        cases checked : i.target.check owner with
        | error e => rw [checked] at ran; cases ran
        | ok =>
          rw [checked] at ran
          cases ran
          exact slotted m c bound borrow body owner before
      | _ => rw [body] at ran; cases ran

theorem slotted_of_borrow (slotted : i.Slotted) {place : Option Place} {o' : Obj}
    (ran : i.borrow o = .ok place o') (before : o.Slotted) : o'.Slotted := by
  simp only [borrow, onOwner, Edit.bind_apply, Edit.get_apply, Edit.mapError_apply] at ran
  cases followed : Upcast.follow i.route o with
  | error e => rw [followed] at ran; cases ran
  | ok owner =>
    have held := Upcast.at?_of_follow followed
    simp only [followed, Edit.ofExcept_ok_apply, Edit.inside_apply] at ran
    cases lent : i.borrowMember owner with
    | error e owner' => rw [lent] at ran; cases ran
    | ok place' owner' =>
      rw [lent] at ran
      cases ran
      exact before.replaceAt held (slotted_of_borrowMember slotted lent (before.at? held))

end Invoker

/-! Making what is missing -/

section Making
variable {ctx : Context} {o new : Obj} {s : Segment} {t : Ty}

theorem Schema.MakesOwn.ty_of_make {schema : Schema} (own : schema.MakesOwn)
    (made : (ObjectFactory.standard schema).make t = .ok o) : o.ty = t.concrete :=
  own.ty_of_instantiate (ObjectFactory.make_standard.mp made)

/-- The factory is the usual one, for a schema that makes objects of its own types. -/
structure Context.MakesOwn (ctx : Context) : Prop where
  objects : ctx.objects = .standard ctx.schema
  own : ctx.schema.MakesOwn

namespace Context.MakesOwn

theorem ty_of_createMissing (own : ctx.MakesOwn) {property : String}
    (made : ctx.createMissing o s property t = .ok new) : new.ty = t.concrete := by
  have made := createMissing_ok made
  rw [own.objects] at made
  exact own.own.ty_of_make made

theorem unrefused_of_createMissing (own : ctx.MakesOwn) {property : String} {e : AccessError}
    (failed : ctx.createMissing o s property t = .error e) : e.NotOfValue := by
  simp only [createMissing, own.objects, ObjectFactory.make, ObjectFactory.standard, List.isEmpty_nil,
    Bool.and_self, if_true] at failed
  cases result : ctx.schema.instantiate t.concrete with
  | ok => rw [result] at failed; cases failed
  | error cause =>
    rw [result] at failed
    cases failed
    exact own.own.unrefused_of_instantiate result

end Context.MakesOwn

theorem MapView.unrefused_of_insert {m : MapView} {key : String} {e : ElementError}
    (accepts : m.value.accepts new = true) (failed : m.insert key new = .error e) :
    e.refusesValue = false := by
  unfold insert at failed
  split at failed
  · cases failed
    rfl
  · rw [Ty.element_of_accepts accepts] at failed
    cases failed

theorem unrefused_of_replaceItem {items : List Obj} {i : Nat} {e : ElementError}
    (accepts : t.accepts new = true) (failed : replaceItem t items i new = .error e) :
    e.refusesValue = false := by
  unfold replaceItem at failed
  split at failed
  · rw [Ty.element_of_accepts accepts] at failed
    cases failed
  · cases failed
    rfl

theorem ListView.unrefused_of_set {l : ListView} {i : Nat} {e : ElementError}
    (accepts : l.item.accepts new = true) (failed : l.set i new = .error e) : e.refusesValue = false := by
  unfold set at failed
  cases replaced : replaceItem l.item l.items i new with
  | ok => rw [replaced] at failed; cases failed
  | error => rw [replaced] at failed; cases failed; exact unrefused_of_replaceItem accepts replaced

theorem ArrayView.unrefused_of_set {a : ArrayView} {i : Nat} {e : ElementError}
    (accepts : a.item.accepts new = true) (failed : a.set i new = .error e) : e.refusesValue = false := by
  unfold set at failed
  cases replaced : replaceItem a.item a.items i new with
  | ok => rw [replaced] at failed; cases failed
  | error => rw [replaced] at failed; cases failed; exact unrefused_of_replaceItem accepts replaced

namespace Indexed

theorem unrefused_of_write (accepts : ∀ t, o.elementType? = some t → t.accepts new = true) :
    (write s (some new)).FailsWith AccessError.NotOfValue o := by
  have rejected {α : Type} {r : Except ElementError α} (unrefused : ∀ e, r = .error e → e.refusesValue = false)
      (e : AccessError) (failed : r.mapError (s.rejected o.typeName) = .error e) : e.NotOfValue := by
    cases r with
    | ok => cases failed
    | error cause =>
      cases failed
      cases cause <;> exact unrefused _ rfl
  unfold write
  refine .bind_get ?_
  cases o with
  | map kind key value entries =>
    refine .bind_ofExcept (rejected fun e => ?_) fun _ _ => .of_set _
    exact MapView.unrefused_of_insert (accepts value rfl)
  | list kind item items =>
    refine .bind_reach AccessError.Unreached.notOfValue Segment.unreached_of_position fun i _ => ?_
    refine .bind_ofExcept (rejected fun e => ?_) fun _ _ => .of_set _
    exact ListView.unrefused_of_set (accepts item rfl)
  | array kind item items =>
    refine .bind_reach AccessError.Unreached.notOfValue Segment.unreached_of_position fun i _ => ?_
    refine .bind_ofExcept (rejected fun e => ?_) fun _ _ => .of_set _
    exact ArrayView.unrefused_of_set (accepts item rfl)
  | _ => exact .of_throw rfl

theorem unrefused_of_instantiate (own : ctx.MakesOwn) (slotted : o.Slotted) (s : Segment) :
    (instantiate ctx s).FailsWith AccessError.NotOfValue o := by
  unfold instantiate
  refine .bind_get ?_
  refine .bind_reach AccessError.Unreached.notOfValue unreached_of_elementType fun type found => ?_
  have declared : o.elementType? = some type := by
    cases o <;> cases found <;> rfl
  refine .bind_ofExcept (fun _ => own.unrefused_of_createMissing) fun new made => ?_
  have accepts : type.accepts new = true := by
    refine Ty.accepts_of_concrete (own.ty_of_createMissing made) ?_
    rintro rfl
    exact slotted.elementType declared
  refine .bind (unrefused_of_write ?_) fun _ _ _ =>
    .bind ((failsWith_borrow s _).mono AccessError.Unreached.notOfValue) fun place _ _ => ?_
  · intro t same
    cases declared.symm.trans same
    exact accepts
  · split
    · exact .of_pure _
    · exact .of_throw rfl

end Indexed

theorem MapAccess.unrefused_of_writeKey {kind : MapKind} {key : KeyType} {value : Ty} {entries : Entries}
    (accepts : value.accepts new = true) (s : Segment) :
    (writeKey s (some new)).FailsWith AccessError.NotOfValue (.map kind key value entries) := by
  refine .bind_get ?_
  refine .bind_reach AccessError.Unreached.notOfValue unreached_of_asMap fun m opened => ?_
  cases opened
  refine .bind_ofExcept (fun e failed => ?_) fun _ _ => .of_set _
  cases inserted : MapView.insert ⟨kind, key, value, entries⟩ s.name new with
  | ok => rw [inserted] at failed; cases failed
  | error =>
    rw [inserted] at failed
    cases failed
    exact MapView.unrefused_of_insert accepts inserted

theorem MapAccess.concrete_missingType (t : Ty) : (missingType t).concrete = t.concrete := by
  cases t <;> rfl

theorem MapAccess.unrefused_of_instantiateKey (own : ctx.MakesOwn) (slotted : o.Slotted) (s : Segment) :
    (instantiateKey ctx s).FailsWith AccessError.NotOfValue o := by
  unfold instantiateKey
  refine .bind_get ?_
  cases o with
  | map kind key value entries =>
    refine .bind_ofExcept (fun _ => own.unrefused_of_createMissing) fun new made => ?_
    -- A map is made where anything goes, and it is what anything stands for.
    have accepts : value.accepts new = true := by
      refine Ty.accepts_of_concrete ((own.ty_of_createMissing made).trans (concrete_missingType value)) ?_
      rintro rfl
      exact slotted.elementType rfl
    refine .bind (unrefused_of_writeKey accepts s) fun _ _ _ => .bind_get ?_
    refine .bind_reach AccessError.Unreached.notOfValue unreached_of_asMap fun m _ => ?_
    split
    · exact .of_pure _
    · exact .of_throw rfl
  | _ => exact .of_throw rfl

theorem BeanAccess.unrefused_of_instantiateProperty (own : ctx.MakesOwn) (slotted : ctx.schema.Slotted)
    (s : Segment) : (instantiateProperty ctx s).FailsWith AccessError.NotOfValue o := by
  unfold instantiateProperty
  refine .bind_get ?_
  refine .bind_reach AccessError.Unreached.notOfValue Descriptor.unreached_of_setter fun j setter => ?_
  refine .bind_reach AccessError.Unreached.notOfValue Descriptor.unreached_of_getter fun i _ => ?_
  refine .bind_ofExcept (fun e failed => ?_) fun _ _ => ?_
  · unfold Invoker.ensureBorrowable at failed
    split at failed <;> cases failed
    rfl
  refine .bind_ofExcept (fun _ => own.unrefused_of_createMissing) fun new made => ?_
  have accepts : j.valueType.accepts new = true :=
    Ty.accepts_of_concrete (own.ty_of_createMissing made) (slotted.of_setter setter)
  refine .bind (Invoker.unrefused_of_write accepts o) fun _ _ _ => ?_
  refine .bind (i.unrefused_of_borrow _) fun place _ _ => ?_
  split
  · exact .of_pure _
  · exact .of_throw rfl

theorem BeanAccess.unrefused_of_existingContainer (s : Segment) (o : Obj) :
    (existingContainer ctx s).FailsWith AccessError.NotOfValue o := by
  unfold existingContainer containerPlace
  refine .bind ?_ fun place _ _ => ?_
  · split
    · exact .of_pure _
    · exact .bind_get (.bind_reach AccessError.Unreached.notOfValue Descriptor.unreached_of_getter
        fun i _ => i.unrefused_of_borrow o)
  · split
    · exact .of_pure _
    · exact .of_throw rfl

theorem BeanAccess.slotted_of_existingContainer (schema : ctx.schema.Slotted) (slotted : o.Slotted)
    {s : Segment} {place : Place} {o' : Obj} (ran : existingContainer ctx s o = .ok place o') :
    o'.Slotted := by
  simp only [existingContainer, Edit.bind_apply] at ran
  cases found : containerPlace ctx s o with
  | error e => rw [found] at ran; cases ran
  | ok place? after =>
    have kept : after.Slotted := by
      unfold containerPlace at found
      split at found
      · cases found
        exact slotted
      · simp only [Edit.bind_apply, Edit.get_apply] at found
        cases bound : (ctx.descriptorOf o).getter s.name with
        | error => rw [bound] at found; cases found
        | ok i =>
          rw [bound] at found
          exact Invoker.slotted_of_borrow (schema.of_getter bound) found slotted
    rw [found] at ran
    cases place? with
    | none => cases ran
    | some => cases ran; exact kept

theorem MapAccess.unrefused_of_existingContainer (s : Segment) (o : Obj) :
    (existingContainer s).FailsWith AccessError.NotOfValue o := by
  unfold existingContainer containerPlace
  refine .bind ?_ fun place _ _ => ?_
  · split
    · exact .of_pure _
    · exact .bind_get (.bind_reach AccessError.Unreached.notOfValue unreached_of_asMap fun _ _ => .of_pure _)
  · split
    · exact .of_pure _
    · exact .of_throw rfl

theorem MapAccess.existingContainer_ok {s : Segment} {place : Place} {o' : Obj}
    (ran : existingContainer s o = .ok place o') : o' = o := by
  simp only [existingContainer, containerPlace, Edit.bind_apply] at ran
  by_cases own : s.name = ""
  · rw [if_pos own] at ran
    cases ran
    rfl
  · rw [if_neg own] at ran
    simp only [Edit.bind_apply, Edit.get_apply] at ran
    cases opened : asMap o "property writes" with
    | error => rw [opened] at ran; cases ran
    | ok m =>
      simp only [opened, Edit.ofExcept_ok_apply, Edit.pure_apply] at ran
      cases held : keyPlace m s.name with
      | none => rw [held] at ran; cases ran
      | some => rw [held] at ran; cases ran; rfl

theorem unrefused_of_enter (own : ctx.MakesOwn) {find : Edit AccessError Place} {s : Segment}
    (found : find.FailsWith AccessError.NotOfValue o)
    (slotted : ∀ place o', find o = .ok place o' → o'.Slotted) :
    (do
      let place ← find
      return place ++ (← Edit.lent place (Indexed.instantiate ctx s)
        (throw (s.notIndexable absentName)))).FailsWith AccessError.NotOfValue o := by
  refine .bind found fun place o' ran => .bind (.lent ?_ (.of_throw rfl)) fun _ _ _ => .of_pure _
  intro part held
  exact Indexed.unrefused_of_instantiate own ((slotted place o' ran).at? held) s

/-- None of the three adapters is refused for what it makes. -/
theorem Adapter.unrefused_of_instantiate (own : ctx.MakesOwn) (schema : ctx.schema.Slotted)
    (slotted : o.Slotted) {a : Adapter} (given : a ∈ [Adapter.bean, .map, .collection]) (s : Segment) :
    (a.instantiate ctx s).FailsWith AccessError.NotOfValue o := by
  have bean : (BeanAccess.instantiate ctx s).FailsWith AccessError.NotOfValue o := by
    unfold BeanAccess.instantiate
    split
    · exact unrefused_of_enter own (BeanAccess.unrefused_of_existingContainer s o) fun _ _ =>
        BeanAccess.slotted_of_existingContainer schema slotted
    · exact BeanAccess.unrefused_of_instantiateProperty own schema s
  have map : (MapAccess.instantiate ctx s).FailsWith AccessError.NotOfValue o := by
    unfold MapAccess.instantiate
    split
    · refine unrefused_of_enter own (MapAccess.unrefused_of_existingContainer s o) fun _ _ ran => ?_
      exact MapAccess.existingContainer_ok ran ▸ slotted
    · exact MapAccess.unrefused_of_instantiateKey own slotted s
  simp only [List.mem_cons, List.not_mem_nil, or_false] at given
  rcases given with rfl | rfl | rfl
  · exact bean
  · exact map
  · exact bean

/-- What the usual factory makes is of the concrete type that stands for the type asked for, is a
collection just when the factory says so, and fits every slot declared with that type. So no adapter is
refused for what it makes. -/
theorem Context.MakesOwn.made_fits_slots (own : ctx.MakesOwn) :
    (∀ t o, ctx.objects.make t = .ok o → o.ty = t.concrete ∧
      (ctx.objects.isCollection t = true ↔ o.kind = .list ∨ o.kind = .array ∨ o.kind = .set) ∧
      (t ≠ .shaped .sortedSet → t.SlotsTake o)) ∧
    (ctx.schema.Slotted → ∀ o, o.Slotted → ∀ a ∈ [Adapter.bean, .map, .collection], ∀ s,
      (a.instantiate ctx s).FailsWith AccessError.NotOfValue o) := by
  constructor
  · intro t o made
    rw [own.objects] at made ⊢
    have concrete : o.ty = t.concrete := own.own.ty_of_make made
    refine ⟨concrete, Ty.isCollection_iff_kind concrete, ?_⟩
    intro declared
    exact Ty.slotsTake_of_accepts (Ty.accepts_of_concrete concrete declared)
  · intro schema o slotted a given s
    exact Adapter.unrefused_of_instantiate own schema slotted given s

end Making

namespace Sample

theorem market_makesOwn : market.MakesOwn where
  defaults type bean o found made := by
    rcases market_cases found with ⟨rfl, rfl⟩ | ⟨rfl, rfl⟩ | ⟨rfl, rfl⟩ <;> cases made <;> rfl
  constructs type bean c o found member := by
    rcases market_cases found with ⟨rfl, rfl⟩ | ⟨rfl, rfl⟩ | ⟨rfl, rfl⟩ <;> cases member
  unrefused type bean c e found member := by
    rcases market_cases found with ⟨rfl, rfl⟩ | ⟨rfl, rfl⟩ | ⟨rfl, rfl⟩ <;> cases member

theorem market_slotted : market.Slotted := by
  have home : (homeDecl.toClass [] []).Slotted := BeanDecl.slotted (by decide) nofun nofun
  have till : (tillDecl.toClass tillMethods []).Slotted := by
    refine BeanDecl.slotted (by decide) ?_ ?_
    · intro m member _
      simp only [tillMethods, List.mem_cons, List.not_mem_nil, or_false] at member
      rcases member with rfl | rfl | rfl | rfl <;> decide
    · intro m member borrow body o slotted
      simp only [tillMethods, List.mem_cons, List.not_mem_nil, or_false] at member
      rcases member with rfl | rfl | rfl | rfl <;> cases body
      exact slotted
  have kiosk : (kioskDecl.toClass [] []).Slotted := BeanDecl.slotted (by decide) nofun nofun
  intro type bean found entry member
  rcases market_cases found with ⟨rfl, rfl⟩ | ⟨rfl, rfl⟩ | ⟨rfl, rfl⟩
  · cases List.mem_singleton.mp member
    exact home
  · cases List.mem_singleton.mp member
    exact till
  · rcases List.mem_cons.mp member with rfl | member
    · exact kiosk
    · cases List.mem_singleton.mp member
      exact till

theorem slotted_kiosk (label : String) : (kiosk label []).Slotted := by
  have scalar (value : Scalar) : (Obj.scalar value).Slotted := .of_parts nofun nofun
  have coins : (Obj.list .vec (.int .u8) []).Slotted := .of_parts (by decide) (by rintro (_ | _ | _) _ ⟨⟩)
  have till : (till []).Slotted := .of_fields (by simpa using coins)
  exact .of_fields (by simpa [Obj.str] using ⟨till, scalar (.str label)⟩)

end Sample

open Sample in
/-- A home is made for a till, which takes it, and a kiosk is not refused for one that it makes. -/
theorem Context.MakesOwn.made_fits_slots_market :
    (standard market).MakesOwn ∧ (standard market).objects.make (.bean "fx::Home") = .ok blankHome ∧
    (Ty.bean "fx::Home").SlotsTake blankHome ∧ market.Slotted ∧ (kiosk "A" []).Slotted ∧
    (∃ place o', Adapter.bean.instantiate (standard market) ⟨"home"⟩ (kiosk "A" []) = .ok place o') ∧
    ∀ s, (Adapter.bean.instantiate (standard market) s).FailsWith AccessError.NotOfValue (kiosk "A" []) := by
  have own : (standard market).MakesOwn := ⟨rfl, market_makesOwn⟩
  have made : (standard market).objects.make (.bean "fx::Home") = .ok blankHome := rfl
  obtain ⟨fits, unrefused⟩ := own.made_fits_slots
  exact ⟨own, made, (fits _ _ made).2.2 nofun, market_slotted, slotted_kiosk "A", ⟨_, _, rfl⟩,
    unrefused market_slotted _ (slotted_kiosk "A") _ (by simp)⟩

end ObjectGraph
