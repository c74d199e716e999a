import ObjectGraph.Proofs.Invocation
import ObjectGraph.Proofs.Place

/-! The types that slots are declared with.

A slot may be declared with every type but that of sorted sets in the abstract, since nothing boxes them.
Objects and schemas whose slots keep to that are slotted: a part of a slotted object is slotted, and the
object stays so when a slotted part is put in.
-/

set_option autoImplicit false
namespace ObjectGraph

namespace Obj

def elementType? : Obj → Option Ty
  | .list _ item _ => some item
  | .array _ item _ => some item
  | .map _ _ value _ => some value
  | _ => none

/-- No container in the object is declared for sorted sets in the abstract, which nothing boxes. -/
def Slotted (o : Obj) : Prop :=
  ∀ place part, o.at? place = some part → part.elementType? ≠ some (.shaped .sortedSet)

variable {o old new : Obj} {slot : Slot} {place : Place}

theorem elementType?_withPart (o : Obj) (slot : Slot) (part : Obj) :
    (o.withPart slot part).elementType? = o.elementType? := by
  cases o <;> cases slot <;> rfl

namespace Slotted

theorem elementType (slotted : o.Slotted) : o.elementType? ≠ some (.shaped .sortedSet) :=
  slotted [] o rfl

theorem at? (slotted : o.Slotted) {part : Obj} (found : o.at? place = some part) : part.Slotted := by
  intro below inner held
  exact slotted (place ++ below) inner ((at?_below found below).trans held)

theorem of_parts (own : o.elementType? ≠ some (.shaped .sortedSet))
    (parts : ∀ slot part, o.part? slot = some part → part.Slotted) : o.Slotted := by
  intro place inner found
  cases place with
  | nil => cases found; exact own
  | cons slot rest =>
    unfold Obj.at? at found
    split at found
    next part held => exact parts slot part held rest inner found
    · cases found

theorem of_fields {type : String} {fields : Fields}
    (parts : ∀ f ∈ fields, ∀ o, f.2 = some o → o.Slotted) : (Obj.bean type fields).Slotted := by
  refine .of_parts nofun ?_
  intro slot part held
  cases slot with
  | field name => exact parts (name, some part) (Fields.mem_of_get? held) part rfl
  | item => cases held
  | entry => cases held

theorem withPart (slotted : o.Slotted) (held : o.part? slot = some old) (part : new.Slotted) :
    (o.withPart slot new).Slotted := by
  intro place inner found
  cases place with
  | nil =>
    cases found
    rw [elementType?_withPart]
    exact slotted.elementType
  | cons other rest =>
    by_cases same : other = slot
    · subst same
      rw [Obj.at?, part?_withPart_self new held] at found
      exact part rest inner found
    · rw [Obj.at?, part?_withPart_of_ne o new same] at found
      exact slotted (other :: rest) inner found

theorem replaceAt (slotted : o.Slotted) (found : o.at? place = some old) (part : new.Slotted) :
    (o.replaceAt place new).Slotted := by
  fun_induction Obj.at? o place with
  | case1 => exact part
  | case2 o slot place child held ih =>
    simp only [Obj.replaceAt, held]
    have inSlot : o.at? [slot] = some child := (at?_singleton o slot).trans held
    exact slotted.withPart held (ih (slotted.at? inSlot) found)
  | case3 => cases found

end Slotted

end Obj

/-- No field and no setter is declared for sorted sets in the abstract, and no companion brings in a
container that is. -/
structure Class.Slotted (c : Class) : Prop where
  fields : ∀ f ∈ c.fields, f.ty ≠ .shaped .sortedSet
  setters : ∀ m ∈ c.methods, m.isSetter = true → m.ty ≠ .shaped .sortedSet
  companions : ∀ m ∈ c.methods, ∀ borrow, m.body = .companion borrow →
    ∀ o, o.Slotted → (borrow o).1.Slotted

def Lineage.Slotted (l : Lineage) : Prop :=
  ∀ entry ∈ l.classes, entry.2.Slotted

def Schema.Slotted (s : Schema) : Prop :=
  ∀ type bean, s.bean? type = some bean → bean.lineage.Slotted

def Invoker.Slotted (i : Invoker) : Prop :=
  ∀ m c, i.member = .method m (.companion c) → ∀ borrow, c.body = .companion borrow →
    ∀ o : Obj, o.Slotted → (borrow o).1.Slotted

namespace Lineage

variable {l : Lineage} {namer : PropertyNamer} {i : Invoker}

theorem Slotted.valueType_of_writer (slotted : l.Slotted) (writer : i ∈ l.writers namer) :
    i.valueType ≠ .shaped .sortedSet := by
  rcases List.mem_append.mp writer with writer | writer
  · obtain ⟨entry, member, writer⟩ := List.mem_flatMap.mp writer
    obtain ⟨m, mMember, made⟩ := List.mem_filterMap.mp writer
    obtain ⟨property, writes, rfl⟩ := Option.map_eq_some_iff.mp made
    exact (slotted entry member).setters m mMember (Method.isSetter_of_writtenProperty? writes)
  · obtain ⟨entry, member, writer⟩ := List.mem_flatMap.mp writer
    obtain ⟨f, fMember, rfl⟩ := List.mem_map.mp writer
    exact (slotted entry member).fields f (List.mem_filter.mp fMember).1

theorem Slotted.of_reader (slotted : l.Slotted) (reader : i ∈ l.readers namer) : i.Slotted := by
  intro m c bound borrow body
  rcases List.mem_append.mp reader with reader | reader
  · obtain ⟨entry, member, reader⟩ := List.mem_flatMap.mp reader
    obtain ⟨m', _, made⟩ := List.mem_filterMap.mp reader
    obtain ⟨property, _, rfl⟩ := Option.map_eq_some_iff.mp made
    obtain ⟨_, path⟩ := Member.method.inj bound
    unfold Class.mutablePath at path
    split at path
    next found =>
      cases path
      exact (slotted entry member).companions c (List.mem_of_find?_eq_some found) borrow body
    · split at path <;> cases path
  · obtain ⟨entry, _, reader⟩ := List.mem_flatMap.mp reader
    obtain ⟨f, _, rfl⟩ := List.mem_map.mp reader
    cases bound

end Lineage

theorem Class.slotted_collection : collection.Slotted where
  fields := nofun
  setters m member isSetter := by
    cases List.mem_singleton.mp member
    cases isSetter
  companions m member borrow body := by
    cases List.mem_singleton.mp member
    cases body

namespace Schema.Slotted

variable {s : Schema} {l : Lineage} {t : Ty} {namer : PropertyNamer} {i : Invoker} {property : String}

theorem lineage (slotted : s.Slotted) (found : s.lineage? t = some l) : l.Slotted := by
  cases t with
  | bean type =>
    obtain ⟨bean, beanFound, rfl⟩ := Option.map_eq_some_iff.mp found
    exact slotted type bean beanFound
  | scalar => cases found
  | any => cases found
  | shaped => cases found
  | _ =>
    cases found
    intro entry member
    cases List.mem_singleton.mp member
    exact Class.slotted_collection

theorem of_setter (slotted : s.Slotted)
    (bound : (Descriptor.build namer t (s.lineage? t)).setter property = .ok i) :
    i.valueType ≠ .shaped .sortedSet := by
  unfold Descriptor.setter at bound
  split at bound <;> cases bound
  next bound =>
    cases found : s.lineage? t with
    | none => rw [found] at bound; cases bound
    | some l =>
      rw [found, Descriptor.setter?_build] at bound
      exact (slotted.lineage found).valueType_of_writer (List.mem_of_find?_eq_some bound)

theorem of_getter (slotted : s.Slotted)
    (bound : (Descriptor.build namer t (s.lineage? t)).getter property = .ok i) : i.Slotted := by
  unfold Descriptor.getter at bound
  split at bound <;> cases bound
  next bound =>
    cases found : s.lineage? t with
    | none => rw [found] at bound; cases bound
    | some l =>
      rw [found, Descriptor.getter?_build] at bound
      exact (slotted.lineage found).of_reader (List.mem_of_find?_eq_some bound)

end Schema.Slotted

/-- The class of a declared bean, if no slot of it and no method is against it. -/
theorem BeanDecl.slotted {d : BeanDecl} {methods : List Method} {constructors : List Constructor}
    (slots : ∀ slot ∈ d.slots, slot.ty ≠ .shaped .sortedSet)
    (setters : ∀ m ∈ methods, m.isSetter = true → m.ty ≠ .shaped .sortedSet)
    (companions : ∀ m ∈ methods, ∀ borrow, m.body = .companion borrow →
      ∀ o, o.Slotted → (borrow o).1.Slotted) : (d.toClass methods constructors).Slotted where
  fields f member := by
    obtain ⟨slot, slotMember, made⟩ := List.mem_filterMap.mp member
    rw [(SlotDecl.field?_some made).2.2.1]
    exact slots slot slotMember
  setters := setters
  companions := companions

end ObjectGraph
