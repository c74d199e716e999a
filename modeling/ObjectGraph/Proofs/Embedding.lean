import ObjectGraph.Proofs.SegmentAccess

/-! Actions on an embedded part, and on the whole through the part.

A route that is one step longer leads to the same owner. Reading, lending and writing by it come to
what they come to in the part, with the part put back and places that start in its slot. An error that
names the type of the part may name that of the whole instead, and nothing else is different.
-/

set_option autoImplicit false
namespace ObjectGraph

def AccessError.renamed (type : String) : AccessError → AccessError
  | .accessorNotFound accessor _ property => .accessorNotFound accessor type property
  | .propertyAccessFailed action _ property cause => .propertyAccessFailed action type property cause
  | .creationFailed segment _ property cause => .creationFailed segment type property cause
  | .notBorrowable segment _ property => .notBorrowable segment type property
  | .unsupported _ operation => .unsupported type operation
  | e => e

/-- The results are the same, or errors of which the second names the given type. -/
inductive UpToType (type : String) {α : Type} : Except AccessError α → Except AccessError α → Prop where
  | ok (a : α) : UpToType type (.ok a) (.ok a)
  | same (e : AccessError) : UpToType type (.error e) (.error e)
  | renamed (e : AccessError) : UpToType type (.error e) (.error (e.renamed type))

inductive Lifts (o : Obj) (slot : Slot) {α β : Type} (f : α → β) :
    EStateM.Result AccessError Obj α → EStateM.Result AccessError Obj β → Prop where
  | ok (a : α) (part : Obj) : Lifts o slot f (.ok a part) (.ok (f a) (o.withPart slot part))
  | same (e : AccessError) (part : Obj) :
    Lifts o slot f (.error e part) (.error e (o.withPart slot part))
  | renamed (e : AccessError) (part : Obj) :
    Lifts o slot f (.error e part) (.error (e.renamed o.typeName) (o.withPart slot part))

namespace UpToType

variable {type : String} {α β : Type} {r r' : Except AccessError α}

@[refl] theorem refl (r : Except AccessError α) : UpToType type r r := by
  cases r with
  | ok a => exact .ok a
  | error e => exact .same e

theorem bind {next next' : α → Except AccessError β} (first : UpToType type r r')
    (onward : ∀ a, UpToType type (next a) (next' a)) : UpToType type (r >>= next) (r' >>= next') := by
  cases first with
  | ok a => exact onward a
  | same e => exact .same e
  | renamed e => exact .renamed e

theorem mapError {ε : Type} {f g : ε → AccessError} (r : Except ε α)
    (renames : ∀ e, g e = (f e).renamed type) : UpToType type (r.mapError f) (r.mapError g) := by
  cases r with
  | ok a => exact .ok a
  | error e =>
    rw [mapError_error, mapError_error, renames]
    exact .renamed (f e)

end UpToType

namespace Obj

variable {o old : Obj} {slot : Slot}

theorem at?_withPart (held : o.part? slot = some old) (part : Obj) (place : Place) :
    (o.withPart slot part).at? (slot :: place) = part.at? place := by
  simp only [at?, part?_withPart_self part held]

theorem replaceAt_withPart (held : o.part? slot = some old) (part new : Obj) (place : Place) :
    (o.withPart slot part).replaceAt (slot :: place) new = o.withPart slot (part.replaceAt place new) := by
  simp only [replaceAt, part?_withPart_self part held, withPart_withPart]

theorem typeName_withPart (o : Obj) (slot : Slot) (part : Obj) :
    (o.withPart slot part).typeName = o.typeName :=
  congrArg Ty.name (ty_withPart o slot part)

end Obj

theorem Target.accepts_withPart (t : Target) (o : Obj) (slot : Slot) (part : Obj) :
    t.accepts (o.withPart slot part) = t.accepts o := by
  cases o <;> cases slot <;> cases t <;> rfl

namespace Lifts

variable {o old part : Obj} {slot : Slot} {α β γ δ : Type} {f : α → β} {g : γ → δ}
  {edit : Edit AccessError α} {edit' : Edit AccessError β}

theorem bind {next : α → Edit AccessError γ} {next' : β → Edit AccessError δ}
    (first : Lifts o slot f (edit part) (edit' (o.withPart slot part)))
    (onward : ∀ a part', Lifts o slot g (next a part') (next' (f a) (o.withPart slot part'))) :
    Lifts o slot g ((edit >>= next) part) ((edit' >>= next') (o.withPart slot part)) := by
  simp only [Edit.bind_apply]
  generalize edit part = r at first
  generalize edit' (o.withPart slot part) = r' at first
  cases first with
  | ok a part' => exact onward a part'
  | same e part' => exact .same e part'
  | renamed e part' => exact .renamed e part'

theorem ofExcept {r r' : Except AccessError α} (first : UpToType o.typeName r r') {next : α → Edit AccessError γ}
    {next' : α → Edit AccessError δ}
    (onward : ∀ a, Lifts o slot g (next a part) (next' a (o.withPart slot part))) :
    Lifts o slot g ((Edit.ofExcept r >>= next) part)
      ((Edit.ofExcept r' >>= next') (o.withPart slot part)) := by
  cases first with
  | ok a => exact onward a
  | same e => exact .same e part
  | renamed e => exact .renamed e part

theorem inside (held : o.part? slot = some old) (place : Place) (inner : Obj)
    (edit : Edit AccessError α) : Lifts o slot id (Edit.inside place inner edit part)
      (Edit.inside (slot :: place) inner edit (o.withPart slot part)) := by
  simp only [Edit.inside_apply]
  cases edit inner with
  | ok a inner' =>
    simp only [Obj.replaceAt_withPart held]
    exact .ok a _
  | error e inner' =>
    simp only [Obj.replaceAt_withPart held]
    exact .same e _

theorem lent (held : o.part? slot = some old) (place : Place) {edit missing : Edit AccessError α}
    (absent : Lifts o slot id (missing part) (missing (o.withPart slot part))) :
    Lifts o slot id (Edit.lent place edit missing part)
      (Edit.lent (slot :: place) edit missing (o.withPart slot part)) := by
  simp only [Edit.lent, Edit.bind_apply, Edit.get_apply, Obj.at?_withPart held]
  cases part.at? place with
  | none => exact absent
  | some inner => exact .inside held place inner edit

theorem after (lifts : Lifts o slot f (edit part) (edit' (o.withPart slot part))) :
    edit'.after (o.withPart slot part) = o.withPart slot (edit.after part) := by
  unfold Edit.after
  generalize edit part = r at lifts
  generalize edit' (o.withPart slot part) = r' at lifts
  cases lifts <;> rfl

theorem outcome {edit edit' : Edit AccessError α}
    (lifts : Lifts o slot id (edit part) (edit' (o.withPart slot part))) :
    UpToType o.typeName (edit.outcome part) (edit'.outcome (o.withPart slot part)) := by
  unfold Edit.outcome
  generalize edit part = r at lifts
  generalize edit' (o.withPart slot part) = r' at lifts
  cases lifts with
  | ok a => exact .ok a
  | same e => exact .same e
  | renamed e => exact .renamed e

end Lifts

def Invoker.below (step : Upcast) (i : Invoker) : Invoker := { i with route := step :: i.route }

namespace Upcast

structure Leads (step : Upcast) (o parent : Obj) : Prop where
  accepted : step.child.accepts o = true
  held : o.part? (.field step.slot) = some parent

variable {step : Upcast} {o parent : Obj} (leads : step.Leads o parent)
include leads

theorem Leads.withPart_parent : o.withPart (.field step.slot) parent = o :=
  Obj.withPart_part? leads.held

theorem Leads.follow (route : List Upcast) (part : Obj) :
    Upcast.follow (step :: route) (o.withPart (.field step.slot) part) = Upcast.follow route part := by
  simp only [Upcast.follow, Target.accepts_withPart, leads.accepted, if_true,
    Obj.part?_withPart_self part leads.held]

end Upcast

namespace Invoker

variable {step : Upcast} {o parent : Obj} (leads : step.Leads o parent) (i : Invoker) (part : Obj)
include leads

theorem upToType_read : UpToType o.typeName (i.read part)
    ((i.below step).read (o.withPart (.field step.slot) part)) := by
  unfold read
  rw [show (i.below step).route = step :: i.route from rfl, leads.follow, Obj.typeName_withPart]
  exact .mapError _ fun _ => rfl

theorem onOwner_below {α : Type} (edit : Edit InvokeError α) :
    (i.below step).onOwner edit (o.withPart (.field step.slot) part) =
      match i.onOwner edit part with
      | .ok a part' => .ok a (o.withPart (.field step.slot) part')
      | .error e part' => .error e (o.withPart (.field step.slot) part') := by
  simp only [onOwner, Edit.bind_apply, Edit.get_apply]
  rw [show (i.below step).route = step :: i.route from rfl, leads.follow]
  cases Upcast.follow i.route part with
  | error e => rfl
  | ok owner =>
    simp only [Edit.ofExcept_ok_apply, Edit.inside_apply, Upcast.place, List.map_cons,
      Obj.replaceAt_withPart leads.held]
    cases edit owner <;> rfl

theorem lifts_borrow : Lifts o (.field step.slot) (Option.map (.field step.slot :: ·)) (i.borrow part)
    ((i.below step).borrow (o.withPart (.field step.slot) part)) := by
  simp only [borrow, Edit.bind_apply, Edit.get_apply, Edit.mapError_apply]
  rw [onOwner_below leads, show (i.below step).borrowMember = i.borrowMember from rfl]
  cases i.onOwner i.borrowMember part with
  | error e part' =>
    simp only [Obj.typeName_withPart]
    exact .renamed (i.failed .borrow part.typeName e) part'
  | ok place part' =>
    have places : place.map (Upcast.place (i.below step).route ++ ·) =
        (place.map (Upcast.place i.route ++ ·)).map (.field step.slot :: ·) := by
      rw [Option.map_map]
      rfl
    simp only [Edit.pure_apply, places]
    exact .ok _ part'

theorem lifts_write (v : Option Obj) : Lifts o (.field step.slot) id (i.write v part)
    ((i.below step).write v (o.withPart (.field step.slot) part)) := by
  simp only [write, Edit.bind_apply, Edit.get_apply, Edit.mapError_apply]
  rw [onOwner_below leads, show (i.below step).writeMember v = i.writeMember v from rfl]
  cases i.onOwner (i.writeMember v) part with
  | error e part' =>
    simp only [Obj.typeName_withPart]
    exact .renamed (i.failed .set part.typeName e) part'
  | ok _ part' => exact .ok () part'

end Invoker

end ObjectGraph
