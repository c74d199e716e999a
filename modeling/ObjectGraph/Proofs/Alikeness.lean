import ObjectGraph.Proofs.SegmentAccess

/-! Segments that say the same.

The text of a segment has no meaning beyond its name and its key, and it comes up again in the errors
that the segment leads to. Two segments of one name and one key are therefore answered alike: with the
same result, or with errors that differ at most in the text of the segment.
-/

set_option autoImplicit false
namespace ObjectGraph

def AccessError.withoutSegment : AccessError → AccessError
  | .notIndexable _ type => .notIndexable "" type
  | .indexOutOfRange _ type index length => .indexOutOfRange "" type index length
  | .invalidIndex _ type index => .invalidIndex "" type index
  | .keyAbsent _ type key => .keyAbsent "" type key
  | .creationFailed _ type property cause => .creationFailed "" type property cause
  | .notBorrowable _ type property => .notBorrowable "" type property
  | .incompatibleValue _ type cause => .incompatibleValue "" type cause
  | e => e

structure Segment.SameAccess (s t : Segment) : Prop where
  name : t.name = s.name
  isIndexed : t.isIndexed = s.isIndexed
  key : t.key = s.key

/-- The results are the same, or errors that differ at most in the segment that they name. -/
inductive UpToSegment {α : Type} : Except AccessError α → Except AccessError α → Prop where
  | ok (a : α) : UpToSegment (.ok a) (.ok a)
  | error {e e' : AccessError} : e'.withoutSegment = e.withoutSegment →
    UpToSegment (.error e) (.error e')

/-- What two actions come to leaves the same object, and results that are the same up to the segment
that errors name. -/
inductive SameEffect {α : Type} :
    EStateM.Result AccessError Obj α → EStateM.Result AccessError Obj α → Prop where
  | ok (a : α) (o : Obj) : SameEffect (.ok a o) (.ok a o)
  | error {e e' : AccessError} (o : Obj) : e'.withoutSegment = e.withoutSegment →
    SameEffect (.error e o) (.error e' o)

namespace UpToSegment

variable {α β : Type} {r r' r'' : Except AccessError α}

@[refl] theorem refl (r : Except AccessError α) : UpToSegment r r := by
  cases r with
  | ok a => exact .ok a
  | error e => exact .error rfl

@[symm] theorem symm (same : UpToSegment r r') : UpToSegment r' r := by
  cases same with
  | ok a => exact .ok a
  | error strip => exact .error strip.symm

theorem trans (same : UpToSegment r r') (same' : UpToSegment r' r'') : UpToSegment r r'' := by
  cases same with
  | ok a => exact same'
  | error strip =>
    cases same' with
    | error strip' => exact .error (strip'.trans strip)

theorem eq_ok {a : α} (same : UpToSegment r r') (succeeded : r = .ok a) : r' = .ok a := by
  subst succeeded
  cases same
  rfl

theorem bind {next next' : α → Except AccessError β} (same : UpToSegment r r')
    (onward : ∀ a, r = .ok a → UpToSegment (next a) (next' a)) :
    UpToSegment (r >>= next) (r' >>= next') := by
  cases same with
  | ok a => exact onward a rfl
  | error strip => exact .error strip

theorem map (f : α → β) (same : UpToSegment r r') : UpToSegment (r.map f) (r'.map f) := by
  cases same with
  | ok a => exact .ok (f a)
  | error strip => exact .error strip

theorem mapError {ε : Type} {f g : ε → AccessError} (r : Except ε α)
    (strip : ∀ e, (g e).withoutSegment = (f e).withoutSegment) :
    UpToSegment (r.mapError f) (r.mapError g) := by
  cases r with
  | ok a => exact .ok a
  | error e => exact .error (strip e)

end UpToSegment

namespace SameEffect

variable {α β : Type} {edit edit' : Edit AccessError α} {o : Obj}

@[refl] theorem refl (r : EStateM.Result AccessError Obj α) : SameEffect r r := by
  cases r with
  | ok a o => exact .ok a o
  | error e o => exact .error o rfl

@[symm] theorem symm {r r' : EStateM.Result AccessError Obj α} (same : SameEffect r r') :
    SameEffect r' r := by
  cases same with
  | ok a o => exact .ok a o
  | error o strip => exact .error o strip.symm

theorem trans {r r' r'' : EStateM.Result AccessError Obj α} (same : SameEffect r r')
    (same' : SameEffect r' r'') : SameEffect r r'' := by
  cases same with
  | ok a o => exact same'
  | error o strip =>
    cases same' with
    | error _ strip' => exact .error o (strip'.trans strip)

theorem after (same : SameEffect (edit o) (edit' o)) : edit'.after o = edit.after o := by
  unfold Edit.after
  generalize edit o = r at same
  generalize edit' o = r' at same
  cases same <;> rfl

theorem outcome (same : SameEffect (edit o) (edit' o)) :
    UpToSegment (edit.outcome o) (edit'.outcome o) := by
  unfold Edit.outcome
  generalize edit o = r at same
  generalize edit' o = r' at same
  cases same with
  | ok a => exact .ok a
  | error _ strip => exact .error strip

theorem bind {next next' : α → Edit AccessError β} (same : SameEffect (edit o) (edit' o))
    (onward : ∀ a o', edit o = .ok a o' → SameEffect (next a o') (next' a o')) :
    SameEffect ((edit >>= next) o) ((edit' >>= next') o) := by
  simp only [Edit.bind_apply]
  generalize edit o = r at same onward
  generalize edit' o = r' at same
  cases same with
  | ok a o' => exact onward a o' rfl
  | error o' strip => exact .error o' strip

theorem bind_ofExcept {r r' : Except AccessError α} {next next' : α → Edit AccessError β}
    (same : UpToSegment r r') (onward : ∀ a, r = .ok a → SameEffect (next a o) (next' a o)) :
    SameEffect ((Edit.ofExcept r >>= next) o) ((Edit.ofExcept r' >>= next') o) := by
  cases same with
  | ok a => exact onward a rfl
  | error strip => exact .error o strip

theorem inside {place : Place} {part : Obj} (same : SameEffect (edit part) (edit' part)) (o : Obj) :
    SameEffect (Edit.inside place part edit o) (Edit.inside place part edit' o) := by
  simp only [Edit.inside_apply]
  generalize edit part = r at same
  generalize edit' part = r' at same
  cases same with
  | ok a => exact .ok a _
  | error _ strip => exact .error _ strip

theorem lent {place : Place} {missing missing' : Edit AccessError α}
    (inner : ∀ part, o.at? place = some part → SameEffect (edit part) (edit' part))
    (absent : SameEffect (missing o) (missing' o)) :
    SameEffect (Edit.lent place edit missing o) (Edit.lent place edit' missing' o) := by
  simp only [Edit.lent, Edit.bind_apply, Edit.get_apply]
  cases held : o.at? place with
  | none => exact absent
  | some part => exact (inner part held).inside o

end SameEffect

section Keys
variable {s t : Segment}

theorem Segment.upToSegment_rejected {α : Type} (s t : Segment) (r : Except ElementError α)
    (type : String) : UpToSegment (r.mapError (s.rejected type)) (r.mapError (t.rejected type)) :=
  .mapError r fun e => by cases e <;> rfl

theorem Segment.upToSegment_position (same : t.key = s.key) (type : String) :
    UpToSegment (s.position type) (t.position type) := by
  unfold position
  rw [same]
  cases IntType.usize.read? s.key with
  | none => exact .error rfl
  | some n => exact .ok _

theorem Context.upToSegment_createMissing (ctx : Context) (o : Obj) (s t : Segment) (property : String)
    (type : Ty) : UpToSegment (ctx.createMissing o s property type) (ctx.createMissing o t property type) :=
  .mapError _ fun _ => rfl

end Keys

namespace Indexed

variable {s t : Segment} (same : t.key = s.key)
include same

theorem upToSegment_slot? (o : Obj) : UpToSegment (slot? o s) (slot? o t) := by
  have sequence (type : String) (length : Nat) :
      UpToSegment (positionSlot s type length) (positionSlot t type length) := by
    refine .bind (Segment.upToSegment_position same type) fun i _ => ?_
    split
    · exact .refl _
    · exact .error rfl
  unfold slot?
  cases o with
  | map kind key value entries =>
    simp only [same]
    exact .refl _
  | list => exact sequence _ _
  | array => exact sequence _ _
  | scalar => exact .error rfl
  | set => exact .error rfl
  | bean => exact .error rfl

theorem upToSegment_read (container : Value) : UpToSegment (read container s) (read container t) :=
  .bind (upToSegment_slot? same container.obj) fun _ _ => .refl _

theorem sameEffect_borrow (o : Obj) : SameEffect (borrow s o) (borrow t o) :=
  .bind_ofExcept (upToSegment_slot? same o) fun _ _ => .refl _

theorem sameEffect_write (v : Option Obj) (o : Obj) : SameEffect (write s v o) (write t v o) := by
  unfold write
  simp only [Edit.bind_apply, Edit.get_apply, same]
  cases o.view with
  | map m =>
    cases v with
    | none => exact .refl _
    | some v => exact .bind_ofExcept (s.upToSegment_rejected t _ _) fun _ _ => .refl _
  | list l =>
    refine .bind_ofExcept (Segment.upToSegment_position same _) fun i _ => ?_
    cases v with
    | none => exact .refl _
    | some v => exact .bind_ofExcept (s.upToSegment_rejected t _ _) fun _ _ => .refl _
  | array a =>
    refine .bind_ofExcept (Segment.upToSegment_position same _) fun i _ => ?_
    cases v with
    | none => exact .refl _
    | some v => exact .bind_ofExcept (s.upToSegment_rejected t _ _) fun _ _ => .refl _
  | value | bean | set => exact .error o rfl

theorem sameEffect_instantiate (ctx : Context) (o : Obj) :
    SameEffect (instantiate ctx s o) (instantiate ctx t o) := by
  unfold instantiate
  simp only [Edit.bind_apply _ get, Edit.get_apply, same]
  refine .bind_ofExcept ?_ fun type _ => ?_
  · unfold elementType
    cases o with
    | map | list | array => exact .refl _
    | scalar | set | bean => exact .error rfl
  refine .bind_ofExcept (ctx.upToSegment_createMissing o s t s.key type) fun new _ => ?_
  refine .bind (sameEffect_write same _ o) fun _ o' _ => .bind (sameEffect_borrow same o') fun place o' _ => ?_
  cases place with
  | some => exact .refl _
  | none => exact .error o' rfl

end Indexed

namespace Context

variable {s t : Segment} (same : s.SameAccess t) (ctx : Context) (o : Obj)
include same

theorem sameEffect_writeKey (v : Option Obj) :
    SameEffect (MapAccess.writeKey s v o) (MapAccess.writeKey t v o) := by
  unfold MapAccess.writeKey
  simp only [Edit.bind_apply _ get, Edit.get_apply, same.name]
  refine .bind_ofExcept (.refl _) fun m _ => ?_
  cases v with
  | none => exact .refl _
  | some v => exact .bind_ofExcept (.mapError _ fun _ => rfl) fun _ _ => .refl _

theorem sameEffect_writeName (byKey : Bool) (v : Option Obj) :
    SameEffect (ctx.writeName byKey s v o) (ctx.writeName byKey t v o) := by
  unfold writeName
  rw [same.name]
  cases byKey with
  | true => exact sameEffect_writeKey same o v
  | false => exact .refl _

theorem sameEffect_makeName (byKey : Bool) :
    SameEffect (ctx.makeName byKey s o) (ctx.makeName byKey t o) := by
  unfold makeName
  cases byKey with
  | true =>
    simp only [if_true, MapAccess.instantiateKey, Edit.bind_apply _ get, Edit.get_apply, same.name]
    cases MapAccess.valueType? o with
    | none => exact .refl _
    | some value =>
      refine .bind_ofExcept (ctx.upToSegment_createMissing o s t s.name _) fun new _ => ?_
      refine .bind (sameEffect_writeKey same o _) fun _ o' _ => ?_
      simp only [Edit.bind_apply _ get, Edit.get_apply]
      refine .bind_ofExcept (.refl _) fun m _ => ?_
      cases MapAccess.keyPlace m s.name with
      | some => exact .refl _
      | none => exact .error o' rfl
  | false =>
    simp only [Bool.false_eq_true, if_false, BeanAccess.instantiateProperty, Edit.bind_apply _ get,
      Edit.get_apply, same.name]
    refine .bind_ofExcept (.refl _) fun j _ => .bind_ofExcept (.refl _) fun i _ => ?_
    refine .bind_ofExcept (.refl _) fun _ _ => ?_
    refine .bind_ofExcept (ctx.upToSegment_createMissing o s t s.name _) fun new _ => ?_
    refine .bind (.refl _) fun _ o' _ => .bind (.refl _) fun place o' _ => ?_
    cases place with
    | some => exact .refl _
    | none => exact .error o' rfl

end Context

namespace Segment

variable {s t : Segment} (same : s.SameAccess t) {o : Obj}
include same

theorem upToSegment_fetch (o : Obj) (readName : Except AccessError (Option Value)) :
    UpToSegment (s.fetch o readName) (t.fetch o readName) := by
  cases s.shape with
  | name plain => rw [fetch_name plain, fetch_name (same.isIndexed.trans plain)]
  | key indexed own =>
    rw [fetch_own indexed own, fetch_own (same.isIndexed.trans indexed) (same.name.trans own)]
    exact Indexed.upToSegment_read same.key _
  | both indexed other =>
    rw [fetch_other indexed other, fetch_other (same.isIndexed.trans indexed) (same.name ▸ other)]
    rcases readName with e | _ | container
    · exact .refl _
    · exact .refl _
    · exact Indexed.upToSegment_read same.key container

theorem sameEffect_lend (lendName : Edit AccessError (Option Place)) :
    SameEffect (s.lend lendName o) (t.lend lendName o) := by
  unfold lend containerPlace
  rw [same.isIndexed, same.name]
  cases s.isIndexed with
  | false => exact .refl _
  | true =>
    simp only [if_true]
    refine .bind (.refl _) fun place o' _ => ?_
    cases place with
    | none => exact .refl _
    | some place =>
      exact .bind (.lent (fun part _ => Indexed.sameEffect_borrow same.key part) (.refl _)) fun _ _ _ => .refl _

theorem sameEffect_enter {α : Type} {lendName : Edit AccessError (Option Place)}
    {byKey byKey' : Place → Edit AccessError α} {byName byName' : Edit AccessError α}
    (keyed : ∀ place o, SameEffect (byKey place o) (byKey' place o))
    (named : SameEffect (byName o) (byName' o)) :
    SameEffect (s.enter lendName byKey byName o) (t.enter lendName byKey' byName' o) := by
  unfold enter
  rw [same.isIndexed]
  cases s.isIndexed with
  | false => exact named
  | true =>
    simp only [if_true, existingContainer, containerPlace, same.name]
    refine .bind (.bind (.refl _) fun place o' _ => ?_) fun place o' _ => keyed place o'
    cases place with
    | some => exact .refl _
    | none => exact .error o' rfl

theorem sameEffect_store {lendName : Edit AccessError (Option Place)} {v : Option Obj}
    {writeName writeName' : Edit AccessError Unit} (named : SameEffect (writeName o) (writeName' o)) :
    SameEffect (s.store lendName writeName v o) (t.store lendName writeName' v o) := by
  refine sameEffect_enter same (fun place o => ?_) named
  exact .lent (fun part _ => Indexed.sameEffect_write same.key v part) (.error o rfl)

theorem sameEffect_make {ctx : Context} {lendName : Edit AccessError (Option Place)}
    {makeName makeName' : Edit AccessError Place} (named : SameEffect (makeName o) (makeName' o)) :
    SameEffect (s.make ctx lendName makeName o) (t.make ctx lendName makeName' o) := by
  refine sameEffect_enter same (fun place o => ?_) named
  exact .bind (.lent (fun part _ => Indexed.sameEffect_instantiate same.key ctx part) (.error o rfl))
    fun _ _ _ => .refl _

end Segment

end ObjectGraph
