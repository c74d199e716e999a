import ObjectGraph.Proofs.SegmentAccess

/-! What an action is refused for.

Each way into an object names the causes that it fails for, and passes on those of what it calls. Only
where something is read and not lent does an access say so: all other refusals are of another kind.
What is made for a property is lent where no field is redeclared.
-/

set_option autoImplicit false
namespace ObjectGraph

/-! Where an error comes from -/

theorem error_of_bind {ε α β : Type} {r : Except ε α} {next : α → Except ε β} {e : ε}
    (failed : r >>= next = .error e) : r = .error e ∨ ∃ a, r = .ok a ∧ next a = .error e := by
  cases r with
  | error => cases failed; exact .inl rfl
  | ok a => exact .inr ⟨a, rfl, failed⟩

theorem error_of_mapError {ε δ α : Type} {r : Except δ α} {f : δ → ε} {e : ε}
    (failed : r.mapError f = .error e) : ∃ cause, e = f cause := by
  cases r with
  | error cause => cases failed; exact ⟨cause, rfl⟩
  | ok => cases failed

namespace Edit

/-- Where the action fails on the object, it does so with an error that has the property. -/
def FailsWith {ε α : Type} (P : ε → Prop) (edit : Edit ε α) (o : Obj) : Prop :=
  ∀ e o', edit o = .error e o' → P e

namespace FailsWith

variable {ε δ α β : Type} {P : ε → Prop} {o : Obj}

theorem mono {Q : ε → Prop} {edit : Edit ε α} (fails : edit.FailsWith P o)
    (weaker : ∀ {e}, P e → Q e) : edit.FailsWith Q o :=
  fun e o' failed => weaker (fails e o' failed)

theorem of_pure (a : α) : FailsWith P (pure a : Edit ε α) o := by
  intro e o' failed
  cases failed

theorem of_set (new : Obj) : FailsWith P (set new : Edit ε PUnit) o := by
  intro e o' failed
  cases failed

theorem of_throw {e : ε} (holds : P e) : FailsWith P (throw e : Edit ε α) o := by
  intro e o' failed
  cases failed
  exact holds

theorem of_mapError {f : δ → ε} (holds : ∀ e, P (f e)) (edit : Edit δ α) :
    FailsWith P (edit.mapError f) o := by
  intro e o' failed
  rw [mapError_apply] at failed
  split at failed <;> cases failed
  exact holds _

theorem bind {edit : Edit ε α} {next : α → Edit ε β} (first : edit.FailsWith P o)
    (onward : ∀ a o', edit o = .ok a o' → (next a).FailsWith P o') : (edit >>= next).FailsWith P o := by
  intro e o' failed
  rw [bind_apply] at failed
  split at failed
  next ran => exact onward _ _ ran e o' failed
  next failed' => cases failed; exact first _ _ failed'

theorem bind_get {next : Obj → Edit ε α} (onward : (next o).FailsWith P o) :
    (get >>= next).FailsWith P o :=
  onward

theorem bind_ofExcept {r : Except ε α} {next : α → Edit ε β} (first : ∀ e, r = .error e → P e)
    (onward : ∀ a, r = .ok a → (next a).FailsWith P o) : (ofExcept r >>= next).FailsWith P o := by
  cases r with
  | error e => exact of_throw (first e rfl)
  | ok a => exact onward a rfl

theorem lent {place : Place} {edit missing : Edit ε α}
    (inner : ∀ part, o.at? place = some part → edit.FailsWith P part) (absent : missing.FailsWith P o) :
    (Edit.lent place edit missing).FailsWith P o := by
  unfold Edit.lent
  refine bind_get ?_
  split
  next part held =>
    intro e o' failed
    rw [inside_apply] at failed
    split at failed <;> cases failed
    next failed' => exact inner part held _ _ failed'
  · exact absent

end FailsWith

end Edit

def AccessError.NotOfLending (e : AccessError) : Prop :=
  ∀ segment type property, e ≠ .notBorrowable segment type property

/-- The access reaches nothing: there is no such property, container, key or position. -/
inductive AccessError.Unreached : AccessError → Prop where
  | property (accessor : Accessor) (type property : String) :
    Unreached (.accessorNotFound accessor type property)
  | container (segment type : String) : Unreached (.notIndexable segment type)
  | index (segment type index : String) : Unreached (.invalidIndex segment type index)
  | position (segment type : String) (index length : Nat) :
    Unreached (.indexOutOfRange segment type index length)
  | operation (type operation : String) : Unreached (.unsupported type operation)

theorem AccessError.Unreached.notOfLending {e : AccessError} (unreached : e.Unreached) :
    e.NotOfLending := by
  cases unreached <;> exact fun _ _ _ => nofun

theorem Edit.FailsWith.bind_reach {P : AccessError → Prop} {α β : Type} {o : Obj}
    {r : Except AccessError α} {next : α → Edit AccessError β}
    (covered : ∀ {e : AccessError}, e.Unreached → P e) (first : ∀ {e}, r = .error e → e.Unreached)
    (onward : ∀ a, r = .ok a → (next a).FailsWith P o) : (ofExcept r >>= next).FailsWith P o :=
  bind_ofExcept (fun _ failed => covered (first failed)) onward

section Parts
variable {ctx : Context} {o : Obj} {s : Segment} {name : String} {e : AccessError}

theorem Segment.notOfLending_rejected (s : Segment) (type : String) (e : ElementError) :
    (s.rejected type e).NotOfLending := by
  cases e <;> exact fun _ _ _ => nofun

theorem Segment.unreached_of_position {type : String} (failed : s.position type = .error e) :
    e.Unreached := by
  unfold position at failed
  split at failed <;> cases failed
  exact .index _ _ _

theorem Context.notOfLending_createMissing {property : String} {t : Ty}
    (failed : ctx.createMissing o s property t = .error e) : e.NotOfLending := by
  obtain ⟨cause, rfl⟩ := error_of_mapError failed
  exact fun _ _ _ => nofun

theorem MapAccess.unreached_of_asMap {operation : String} (failed : asMap o operation = .error e) :
    e.Unreached := by
  unfold asMap at failed
  split at failed <;> cases failed
  exact .operation _ _

theorem Descriptor.unreached_of_getter {d : Descriptor} (failed : d.getter name = .error e) :
    e.Unreached := by
  unfold getter at failed
  split at failed <;> cases failed
  exact .property _ _ _

theorem Descriptor.unreached_of_setter {d : Descriptor} (failed : d.setter name = .error e) :
    e.Unreached := by
  unfold setter at failed
  split at failed <;> cases failed
  exact .property _ _ _

end Parts

namespace Indexed

variable {ctx : Context} {o : Obj} {s : Segment} {e : AccessError}

theorem unreached_of_positionSlot {type : String} {length : Nat}
    (failed : positionSlot s type length = .error e) : e.Unreached := by
  rcases error_of_bind failed with failed | ⟨i, _, failed⟩
  · exact Segment.unreached_of_position failed
  · split at failed <;> cases failed
    exact .position _ _ _ _

theorem unreached_of_slot? (failed : slot? o s = .error e) : e.Unreached := by
  unfold slot? at failed
  split at failed
  · split at failed <;> cases failed
  · exact unreached_of_positionSlot failed
  · exact unreached_of_positionSlot failed
  · cases failed
    exact .container _ _

theorem unreached_of_elementType (failed : elementType o s = .error e) : e.Unreached := by
  unfold elementType at failed
  split at failed <;> cases failed
  exact .container _ _

theorem notOfLending_read {container : Value} (failed : read container s = .error e) :
    e.NotOfLending := by
  rcases error_of_bind failed with failed | ⟨slot, _, failed⟩
  · exact (unreached_of_slot? failed).notOfLending
  · cases failed

theorem failsWith_borrow (s : Segment) (o : Obj) : (borrow s).FailsWith AccessError.Unreached o :=
  .bind_get (.bind_ofExcept (fun _ => unreached_of_slot?) fun _ _ => .of_pure _)

theorem failsWith_write (s : Segment) (v : Option Obj) (o : Obj) :
    (write s v).FailsWith AccessError.NotOfLending o := by
  unfold write
  refine .bind_get ?_
  have rejected {α : Type} (r : Except ElementError α) (e : AccessError)
      (failed : r.mapError (s.rejected o.typeName) = .error e) : e.NotOfLending := by
    obtain ⟨cause, rfl⟩ := error_of_mapError failed
    exact s.notOfLending_rejected _ cause
  dsimp only
  split
  · exact .bind_ofExcept (rejected _) fun _ _ => .of_set _
  · exact .of_set _
  · refine .bind_reach AccessError.Unreached.notOfLending Segment.unreached_of_position fun i _ => ?_
    split
    · exact .of_throw fun _ _ _ => nofun
    · exact .bind_ofExcept (rejected _) fun _ _ => .of_set _
  · refine .bind_reach AccessError.Unreached.notOfLending Segment.unreached_of_position fun i _ => ?_
    split
    · exact .of_throw fun _ _ _ => nofun
    · exact .bind_ofExcept (rejected _) fun _ _ => .of_set _
  · exact .of_throw fun _ _ _ => nofun

theorem failsWith_instantiate (ctx : Context) (s : Segment) (o : Obj) :
    (instantiate ctx s).FailsWith AccessError.NotOfLending o := by
  unfold instantiate
  refine .bind_get ?_
  refine .bind_reach AccessError.Unreached.notOfLending unreached_of_elementType fun type _ => ?_
  refine .bind_ofExcept (fun _ => Context.notOfLending_createMissing) fun new _ => ?_
  refine .bind (failsWith_write s _ _) fun _ _ _ =>
    .bind ((failsWith_borrow s _).mono AccessError.Unreached.notOfLending) fun place _ _ => ?_
  split
  · exact .of_pure _
  · exact .of_throw fun _ _ _ => nofun

end Indexed

namespace Context

variable {ctx : Context} {o : Obj} {s : Segment} {name : String} {e : AccessError}

theorem notOfLending_readName (failed : ctx.readName o name = .error e) : e.NotOfLending := by
  unfold readName at failed
  split at failed
  · rcases error_of_bind failed with failed | ⟨m, _, failed⟩
    · exact (MapAccess.unreached_of_asMap failed).notOfLending
    · cases failed
  · rcases error_of_bind failed with failed | ⟨i, _, failed⟩
    · exact (Descriptor.unreached_of_getter failed).notOfLending
    · obtain ⟨cause, rfl⟩ := error_of_mapError failed
      exact fun _ _ _ => nofun

theorem failsWith_borrow (i : Invoker) (o : Obj) : i.borrow.FailsWith AccessError.NotOfLending o :=
  .bind_get (.bind (.of_mapError (fun _ _ _ _ => nofun) _) fun _ _ _ => .of_pure _)

theorem failsWith_write (i : Invoker) (v : Option Obj) (o : Obj) :
    (i.write v).FailsWith AccessError.NotOfLending o :=
  .bind_get (.of_mapError (fun _ _ _ _ => nofun) _)

theorem failsWith_lendName (ctx : Context) (byKey : Bool) (name : String) (o : Obj) :
    (ctx.lendName byKey name).FailsWith AccessError.NotOfLending o := by
  unfold lendName
  split
  · exact .bind_get (.bind_reach AccessError.Unreached.notOfLending MapAccess.unreached_of_asMap
      fun _ _ => .of_pure _)
  · exact .bind_get (.bind_reach AccessError.Unreached.notOfLending Descriptor.unreached_of_getter fun i _ =>
      failsWith_borrow i o)

theorem failsWith_writeKey (s : Segment) (v : Option Obj) (o : Obj) :
    (MapAccess.writeKey s v).FailsWith AccessError.NotOfLending o := by
  unfold MapAccess.writeKey
  refine .bind_get ?_
  refine .bind_reach AccessError.Unreached.notOfLending MapAccess.unreached_of_asMap fun m _ => ?_
  split
  · refine .bind_ofExcept (fun e failed => ?_) fun _ _ => .of_set _
    obtain ⟨cause, rfl⟩ := error_of_mapError failed
    exact fun _ _ _ => nofun
  · exact .of_set _

theorem failsWith_writeName (ctx : Context) (byKey : Bool) (s : Segment) (v : Option Obj) (o : Obj) :
    (ctx.writeName byKey s v).FailsWith AccessError.NotOfLending o := by
  unfold writeName
  split
  · exact failsWith_writeKey s v o
  · exact .bind_get (.bind_reach AccessError.Unreached.notOfLending Descriptor.unreached_of_setter fun i _ =>
      failsWith_write i v o)

theorem failsWith_instantiateKey (ctx : Context) (s : Segment) (o : Obj) :
    (MapAccess.instantiateKey ctx s).FailsWith AccessError.NotOfLending o := by
  unfold MapAccess.instantiateKey
  refine .bind_get ?_
  split
  · exact .of_throw fun _ _ _ => nofun
  · refine .bind_ofExcept (fun _ => notOfLending_createMissing) fun new _ => ?_
    refine .bind (failsWith_writeKey s _ _) fun _ _ _ => .bind_get ?_
    refine .bind_reach AccessError.Unreached.notOfLending MapAccess.unreached_of_asMap fun m _ => ?_
    split
    · exact .of_pure _
    · exact .of_throw fun _ _ _ => nofun

theorem failsWith_instantiateProperty (usual : ctx.Usual) (sound : ctx.schema.Sound)
    (typed : ctx.schema.WellTyped o) (plain : ctx.Plain o s.name) (once : ctx.DeclaredOnce o)
    (notMap : o.isMap = false) :
    (BeanAccess.instantiateProperty ctx s).FailsWith AccessError.NotOfLending o := by
  unfold BeanAccess.instantiateProperty
  refine .bind_get ?_
  refine .bind_reach AccessError.Unreached.notOfLending Descriptor.unreached_of_setter fun j found => ?_
  refine .bind_reach AccessError.Unreached.notOfLending Descriptor.unreached_of_getter fun i found' => ?_
  refine .bind_ofExcept (fun e failed => ?_) fun _ _ => ?_
  · unfold Invoker.ensureBorrowable at failed
    split at failed <;> cases failed
    exact fun _ _ _ => nofun
  refine .bind_ofExcept (fun _ => notOfLending_createMissing) fun new made => ?_
  refine .bind (failsWith_write j (some new) o) fun _ o' written => ?_
  refine .bind (failsWith_borrow i o') fun place _ lent => ?_
  cases place with
  | some => exact .of_pure _
  | none =>
    -- The value is in the slot that is written, which is the one that is read, so it is lent.
    have stores := (BeanAccess.storesBoth sound typed notMap plain rfl typed (some new)).left
    have ran : BeanAccess.writeProperty ctx s.name (some new) o = j.write (some new) o := by
      simp only [BeanAccess.writeProperty, Edit.bind_apply, Edit.get_apply, found,
        Edit.ofExcept_ok_apply]
    rw [ran, written] at stores
    cases stores with
    | nothing isNone => cases isNone
    | @stored place slot writes admits =>
      have reads := plain.reads_of_writes sound typed once writes
      have typed' := typed.assign admits fun w eq => Option.some.inj eq ▸
        usual.make_wellTyped sound (createMissing_ok made)
      have ty := Obj.ty_assign o place slot (some new)
      have source := (slotBy_congr ty _).trans (reaches_singleton.mp reads)
      have lends := BeanAccess.borrowProperty_of_source sound typed' ((isMap_congr ty).trans notMap) source
      simp only [BeanAccess.borrowProperty, Edit.bind_apply, Edit.get_apply, descriptorOf_congr ty,
        found', Edit.ofExcept_ok_apply, lent, Obj.at?_assign new admits.hasSlotAt] at lends
      cases lends

end Context

namespace Segment

variable {ctx : Context} {o : Obj} {s : Segment} {e : AccessError}

theorem notOfLending_fetch {readName : Except AccessError (Option Value)}
    (named : ∀ e, readName = .error e → e.NotOfLending) (failed : s.fetch o readName = .error e) :
    e.NotOfLending := by
  cases s.shape with
  | name unindexed =>
    rw [fetch_name unindexed] at failed
    exact named e failed
  | key indexed own =>
    rw [fetch_own indexed own] at failed
    exact Indexed.notOfLending_read failed
  | both indexed other =>
    rw [fetch_other indexed other] at failed
    split at failed
    · exact Indexed.notOfLending_read failed
    · cases failed
    · cases failed
      exact named e rfl

theorem failsWith_enter {α : Type} {lendName : Edit AccessError (Option Place)}
    {byKey : Place → Edit AccessError α} {byName : Edit AccessError α}
    (lends : lendName.FailsWith AccessError.NotOfLending o)
    (keyed : ∀ place o, (byKey place).FailsWith AccessError.NotOfLending o)
    (named : s.isIndexed = false → byName.FailsWith AccessError.NotOfLending o) :
    (s.enter lendName byKey byName).FailsWith AccessError.NotOfLending o := by
  unfold enter
  cases indexed : s.isIndexed with
  | false => exact named indexed
  | true =>
    refine .bind ?_ fun place o' _ => keyed place o'
    unfold existingContainer containerPlace
    refine .bind ?_ fun place _ _ => ?_
    · split
      · exact .of_pure _
      · exact lends
    · split
      · exact .of_pure _
      · exact .of_throw fun _ _ _ => nofun

end Segment

end ObjectGraph
