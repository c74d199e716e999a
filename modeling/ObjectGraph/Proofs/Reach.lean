import ObjectGraph.Proofs.FieldAccess

/-! Slots that steps lead to, and what lending, writing and making a value come to there.

A step from an object addresses at most one slot: of the object itself, or of an embedded parent of
it. The slot may be empty. Several steps address the slot of the last one, on the part that the
others lead to. Acting on what the steps address either fails and changes nothing or acts on exactly
that slot; only a property that is read in one slot and written in another is left with a value that
is not found again.
-/

set_option autoImplicit false
namespace ObjectGraph

def Obj.keySlot? (o : Obj) (text : String) : Option Slot :=
  match o with
  | .map _ key _ _ => (Key.read? key text).map .entry
  | .list _ _ _ => (IntType.usize.read? text).map fun i => .item i.toNat
  | .array _ _ _ => (IntType.usize.read? text).map fun i => .item i.toNat
  | _ => none

namespace Schema

def slotType? (s : Schema) : Obj → Slot → Option Ty
  | .bean type _, .field name =>
    (s.layouts type).bind fun layout => (layout.slot? name).map SlotType.ty
  | .list _ item _, .item _ => some item
  | .array _ item _, .item _ => some item
  | .map _ _ value _, .entry _ => some value
  | _, _ => none

theorem Fits.slotType? {s : Schema} {type : String} {c : Class} {f : Field} {o : Obj}
    (fits : s.Fits type c) (member : f ∈ c.fields) (same : o.ty = .bean type) :
    s.slotType? o (.field f.slot) = some f.ty := by
  obtain ⟨layout, slot, layoutFound, slotFound, tySame, _⟩ := fits.stored f member
  obtain ⟨fields, rfl⟩ := bean_of_ty same
  simp [Schema.slotType?, layoutFound, slotFound, tySame]

def AdmitsAt (s : Schema) (o : Obj) (place : Place) (slot : Slot) (v : Option Obj) : Prop :=
  ∃ owner, o.at? place = some owner ∧ owner.hasSlot slot ∧ s.Admits owner slot v

variable {s : Schema} {o part : Obj} {base place : Place} {slot : Slot} {v : Option Obj}

theorem AdmitsAt.hasSlotAt (admits : s.AdmitsAt o place slot v) : o.hasSlotAt place slot := by
  obtain ⟨owner, found, has, _⟩ := admits
  exact ⟨owner, found, has⟩

theorem AdmitsAt.lift (found : o.at? base = some part) (admits : s.AdmitsAt part place slot v) :
    s.AdmitsAt o (base ++ place) slot v := by
  obtain ⟨owner, ownerFound, has, admitted⟩ := admits
  exact ⟨owner, (Obj.at?_below found place).trans ownerFound, has, admitted⟩

theorem AdmitsAt.congr {child new : Obj} (admits : s.AdmitsAt o place slot (some child))
    (same : new.ty = child.ty) : s.AdmitsAt o place slot (some new) := by
  obtain ⟨owner, found, has, admitted⟩ := admits
  exact ⟨owner, found, has, admitted.congr same⟩

/-- Giving a slot anywhere in a well-typed graph what it admits keeps the graph well typed. -/
theorem WellTyped.assign (typed : s.WellTyped o) (admits : s.AdmitsAt o place slot v)
    (values : ∀ w, v = some w → s.WellTyped w) : s.WellTyped (o.assign place slot v) := by
  obtain ⟨owner, found, _, admitted⟩ := admits
  rw [Obj.assign_eq found]
  exact typed.replaceAt found ((typed.at? found).put admitted values) (Obj.ty_put owner slot v)

end Schema

theorem Obj.replaceAt_assign {o part : Obj} {base : Place} (found : o.at? base = some part)
    (place : Place) (slot : Slot) (v : Option Obj) :
    o.replaceAt base (part.assign place slot v) = o.assign (base ++ place) slot v := by
  unfold assign
  rw [at?_below found]
  cases part.at? place with
  | none => exact replaceAt_at? found
  | some owner => exact (replaceAt_append found place _).symm

namespace Context

variable (ctx : Context)

/-- The slot that one step from an object addresses, with the place of the part that has it. An
object that answers by an adapter of its own has no slots to offer. -/
def slotBy (serves : Descriptor → String → Option Invoker) (o : Obj) :
    AccessStep → Option (Place × Slot)
  | .property name =>
    if o.isMap then (o.keySlot? name).map ([], ·)
    else if (ctx.schema.adapter? o).isSome then none
    else (serves (ctx.descriptorOf o) name).bind Invoker.slot?
  | .key text => (o.keySlot? text).map ([], ·)

def source : Obj → AccessStep → Option (Place × Slot) := ctx.slotBy Descriptor.getter?

def sink : Obj → AccessStep → Option (Place × Slot) := ctx.slotBy Descriptor.setter?

/-- The slot that steps address, where `last` tells it for the last of them. The parts on the way
are there; the slot itself may be empty. -/
inductive Reaches (last : Obj → AccessStep → Option (Place × Slot)) :
    Obj → List AccessStep → Place → Slot → Prop where
  | last {o : Obj} {a : AccessStep} {place : Place} {slot : Slot} : last o a = some (place, slot) →
    Reaches last o [a] place slot
  | step {o part : Obj} {a : AccessStep} {steps : List AccessStep} {place below : Place}
    {slot target : Slot} : ctx.source o a = some (place, slot) →
    o.at? (place ++ [slot]) = some part → Reaches last part steps below target →
    Reaches last o (a :: steps) (place ++ [slot] ++ below) target

abbrev ReadsFrom : Obj → List AccessStep → Place → Slot → Prop := ctx.Reaches ctx.source

abbrev WritesTo : Obj → List AccessStep → Place → Slot → Prop := ctx.Reaches ctx.sink

/-- The object is what the factory makes for the declared type of the slot. -/
def Creates (o : Obj) (place : Place) (slot : Slot) (new : Obj) : Prop :=
  ∃ owner t, o.at? place = some owner ∧ ctx.schema.slotType? owner slot = some t ∧
    ctx.objects.make t = .ok new

/-- What lending the value comes to that steps read. -/
inductive Lends (o : Obj) (steps : List AccessStep) :
    EStateM.Result AccessError Obj (Option Place) → Prop where
  | failed (e : AccessError) : Lends o steps (.error e o)
  | absent : (∀ place slot, ctx.ReadsFrom o steps place slot → o.at? (place ++ [slot]) = none) →
    Lends o steps (.ok none o)
  | found {place : Place} {slot : Slot} {part : Obj} : ctx.ReadsFrom o steps place slot →
    o.at? (place ++ [slot]) = some part → Lends o steps (.ok (some (place ++ [slot])) o)

/-- What writing the value comes to that steps write. -/
inductive Stores (o : Obj) (steps : List AccessStep) (v : Option Obj) :
    EStateM.Result AccessError Obj Unit → Prop where
  | failed (e : AccessError) : Stores o steps v (.error e o)
  | nothing : v = none → Stores o steps v (.ok () o)
  | stored {place : Place} {slot : Slot} : ctx.WritesTo o steps place slot →
    ctx.schema.AdmitsAt o place slot v → Stores o steps v (.ok () (o.assign place slot v))

/-- What making the missing value comes to that steps read. -/
inductive Makes (o : Obj) (steps : List AccessStep) :
    EStateM.Result AccessError Obj Place → Prop where
  | failed (e : AccessError) : Makes o steps (.error e o)
  | made {place : Place} {slot : Slot} {new : Obj} : ctx.ReadsFrom o steps place slot →
    ctx.WritesTo o steps place slot → ctx.schema.AdmitsAt o place slot (some new) →
    ctx.Creates o place slot new →
    Makes o steps (.ok (place ++ [slot]) (o.assign place slot (some new)))
  | lost {place : Place} {slot : Slot} {new : Obj} (e : AccessError) :
    ctx.WritesTo o steps place slot → ¬ ctx.ReadsFrom o steps place slot →
    ctx.schema.AdmitsAt o place slot (some new) → ctx.Creates o place slot new →
    Makes o steps (.error e (o.assign place slot (some new)))

/-! One action on two objects: both are answered alike, and the same change is made to both -/

inductive LendsBoth (o o' : Obj) (steps : List AccessStep) :
    EStateM.Result AccessError Obj (Option Place) → EStateM.Result AccessError Obj (Option Place) →
    Prop where
  | failed (e : AccessError) : LendsBoth o o' steps (.error e o) (.error e o')
  | absent : LendsBoth o o' steps (.ok none o) (.ok none o')
  | found {place : Place} {slot : Slot} {part part' : Obj} : ctx.ReadsFrom o steps place slot →
    o.at? (place ++ [slot]) = some part → o'.at? (place ++ [slot]) = some part' →
    part'.ty = part.ty → part'.length? = part.length? →
    LendsBoth o o' steps (.ok (some (place ++ [slot])) o) (.ok (some (place ++ [slot])) o')

/-- What writing the value comes to on two objects: one refusal, or one slot of both is given it. -/
inductive StoresBoth (o o' : Obj) (steps : List AccessStep) (v : Option Obj) :
    EStateM.Result AccessError Obj Unit → EStateM.Result AccessError Obj Unit → Prop where
  | failed (e : AccessError) : StoresBoth o o' steps v (.error e o) (.error e o')
  | nothing : v = none → StoresBoth o o' steps v (.ok () o) (.ok () o')
  | stored {place : Place} {slot : Slot} : ctx.WritesTo o steps place slot →
    ctx.schema.AdmitsAt o place slot v → ctx.schema.AdmitsAt o' place slot v →
    StoresBoth o o' steps v (.ok () (o.assign place slot v)) (.ok () (o'.assign place slot v))

inductive MakesBoth (o o' : Obj) (steps : List AccessStep) :
    EStateM.Result AccessError Obj Place → EStateM.Result AccessError Obj Place → Prop where
  | failed (e : AccessError) : MakesBoth o o' steps (.error e o) (.error e o')
  | made {place : Place} {slot : Slot} {new : Obj} : ctx.ReadsFrom o steps place slot →
    ctx.WritesTo o steps place slot → ctx.schema.AdmitsAt o place slot (some new) →
    ctx.schema.AdmitsAt o' place slot (some new) → ctx.Creates o place slot new →
    MakesBoth o o' steps (.ok (place ++ [slot]) (o.assign place slot (some new)))
      (.ok (place ++ [slot]) (o'.assign place slot (some new)))
  | lost {place : Place} {slot : Slot} {new : Obj} (e : AccessError) :
    ctx.WritesTo o steps place slot → ¬ ctx.ReadsFrom o steps place slot →
    ctx.schema.AdmitsAt o place slot (some new) → ctx.Creates o place slot new →
    MakesBoth o o' steps (.error e (o.assign place slot (some new)))
      (.error e (o'.assign place slot (some new)))

variable {ctx} {last : Obj → AccessStep → Option (Place × Slot)} {o o' part part' : Obj}
  {a : AccessStep} {steps : List AccessStep} {base place other : Place} {slot slot' : Slot}

theorem Lends.both {r : EStateM.Result AccessError Obj (Option Place)} (lends : ctx.Lends o steps r) :
    ctx.LendsBoth o o steps r r := by
  cases lends with
  | failed e => exact .failed e
  | absent => exact .absent
  | found reads held => exact .found reads held held rfl rfl

theorem StoresBoth.left {v : Option Obj} {r r' : EStateM.Result AccessError Obj Unit}
    (stores : ctx.StoresBoth o o' steps v r r') : ctx.Stores o steps v r := by
  cases stores with
  | failed e => exact .failed e
  | nothing isNone => exact .nothing isNone
  | stored writes admits => exact .stored writes admits

theorem MakesBoth.left {r r' : EStateM.Result AccessError Obj Place}
    (makes : ctx.MakesBoth o o' steps r r') : ctx.Makes o steps r := by
  cases makes with
  | failed e => exact .failed e
  | made reads writes admits _ creates => exact .made reads writes admits creates
  | lost e writes unread admits creates => exact .lost e writes unread admits creates

theorem reaches_singleton : ctx.Reaches last o [a] place slot ↔ last o a = some (place, slot) := by
  constructor
  · intro reaches
    cases reaches with
    | last found => exact found
    | step _ _ rest => cases rest
  · exact .last

theorem Reaches.unique (first : ctx.Reaches last o steps place slot)
    (second : ctx.Reaches last o steps other slot') : other = place ∧ slot' = slot := by
  -- The part on the way is determined by the first step, and with it the rest.
  induction first generalizing other with
  | last found =>
    rw [reaches_singleton, found] at second
    cases second
    exact ⟨rfl, rfl⟩
  | step found held rest ih =>
    cases second with
    | last => cases rest
    | step found' held' rest' =>
      rw [found] at found'
      cases found'
      rw [held] at held'
      cases held'
      obtain ⟨rfl, rfl⟩ := ih rest'
      exact ⟨rfl, rfl⟩

theorem reaches_cons {b : AccessStep} {full : Place} (found : ctx.source o a = some (place, slot))
    (held : o.at? (place ++ [slot]) = some part)
    (reaches : ctx.Reaches last o (a :: b :: steps) full slot') :
    ∃ below, full = place ++ [slot] ++ below ∧ ctx.Reaches last part (b :: steps) below slot' := by
  cases reaches with
  | step found' held' rest =>
    rw [found] at found'
    cases found'
    rw [held] at held'
    cases held'
    exact ⟨_, rfl, rest⟩

/-! Acting below a place that a step leads to -/

theorem Creates.lift {new : Obj} (held : o.at? base = some part)
    (creates : ctx.Creates part place slot new) : ctx.Creates o (base ++ place) slot new := by
  obtain ⟨owner, t, found, declared, made⟩ := creates
  exact ⟨owner, t, (Obj.at?_below held place).trans found, declared, made⟩

section Lift
variable {b : AccessStep} (found : ctx.source o a = some (place, slot))
  (held : o.at? (place ++ [slot]) = some part)
include found held

theorem Lends.lift {edit : Edit AccessError (Option Place)}
    (lends : ctx.Lends part (b :: steps) (edit part)) :
    ctx.Lends o (a :: b :: steps) ((do
      return (← Edit.lent (place ++ [slot]) edit (return none)).map (place ++ [slot] ++ ·)) o) := by
  simp only [Edit.bind_apply, Edit.lent_of_at? held, Edit.inside_apply]
  generalize edit part = r at lends
  cases lends with
  | failed e => simpa [Obj.replaceAt_at? held] using Lends.failed e
  | absent missing =>
    simp only [Obj.replaceAt_at? held]
    refine .absent fun full target reads => ?_
    -- What the steps address in the whole, the later ones address in the part.
    obtain ⟨below, rfl, rest⟩ := reaches_cons found held reads
    rw [List.append_assoc, Obj.at?_below held]
    exact missing below target rest
  | @found below target child reads belowHeld =>
    simp only [Obj.replaceAt_at? held]
    have full : o.at? (place ++ [slot] ++ below ++ [target]) = some child := by
      rw [List.append_assoc, Obj.at?_below held]
      exact belowHeld
    rw [Edit.pure_apply, Option.map_some, ← List.append_assoc]
    exact .found (.step found held reads) full

theorem StoresBoth.lift {v : Option Obj} {edit : Edit AccessError Unit}
    (held' : o'.at? (place ++ [slot]) = some part')
    (stores : ctx.StoresBoth part part' (b :: steps) v (edit part) (edit part'))
    (missing : Edit AccessError Unit) :
    ctx.StoresBoth o o' (a :: b :: steps) v (Edit.lent (place ++ [slot]) edit missing o)
      (Edit.lent (place ++ [slot]) edit missing o') := by
  simp only [Edit.lent_of_at? held, Edit.lent_of_at? held', Edit.inside_apply]
  generalize edit part = r at stores
  generalize edit part' = r' at stores
  cases stores with
  | failed e =>
    simpa [Obj.replaceAt_at? held, Obj.replaceAt_at? held'] using StoresBoth.failed e
  | nothing isNone =>
    simpa [Obj.replaceAt_at? held, Obj.replaceAt_at? held'] using StoresBoth.nothing isNone
  | stored writes admits admits' =>
    simp only [Obj.replaceAt_assign held, Obj.replaceAt_assign held']
    exact .stored (.step found held writes) (admits.lift held) (admits'.lift held')

theorem MakesBoth.lift {edit : Edit AccessError Place}
    (held' : o'.at? (place ++ [slot]) = some part')
    (makes : ctx.MakesBoth part part' (b :: steps) (edit part) (edit part'))
    (missing : Edit AccessError Place) : ctx.MakesBoth o o' (a :: b :: steps)
      ((do return place ++ [slot] ++ (← Edit.lent (place ++ [slot]) edit missing)) o)
      ((do return place ++ [slot] ++ (← Edit.lent (place ++ [slot]) edit missing)) o') := by
  simp only [Edit.bind_apply, Edit.lent_of_at? held, Edit.lent_of_at? held', Edit.inside_apply]
  generalize edit part = r at makes
  generalize edit part' = r' at makes
  cases makes with
  | failed e => simpa [Obj.replaceAt_at? held, Obj.replaceAt_at? held'] using MakesBoth.failed e
  | made reads writes admits admits' creates =>
    simp only [Obj.replaceAt_assign held, Obj.replaceAt_assign held']
    rw [Edit.pure_apply, Edit.pure_apply, ← List.append_assoc]
    exact .made (.step found held reads) (.step found held writes) (admits.lift held)
      (admits'.lift held') (creates.lift held)
  | lost e writes unread admits creates =>
    simp only [Obj.replaceAt_assign held, Obj.replaceAt_assign held']
    refine .lost e (.step found held writes) (fun reads => ?_) (admits.lift held)
      (creates.lift held)
    obtain ⟨below, same, rest⟩ := reaches_cons found held reads
    rw [List.append_cancel_left same] at unread
    exact unread rest

end Lift

end Context

end ObjectGraph
