import ObjectGraph.Obj.Parts

/-! Places as addresses: reading and replacing below a place, and giving a slot a value.

A slot that an object has may be empty: a field without a value, a key that a map does not hold.
Giving such a slot a value makes the object find the value there and nothing new anywhere else.
-/

set_option autoImplicit false
namespace ObjectGraph

theorem Fields.set_set (name : String) (first second : Option Obj) (fields : Fields) :
    Fields.set name second (Fields.set name first fields) = Fields.set name second fields := by
  fun_induction Fields.set name first fields <;> simp_all [Fields.set]

theorem Fields.set_get? {name : String} {value : Obj} {fields : Fields}
    (found : Fields.get? name fields = some value) :
    Fields.set name (some value) fields = fields := by
  fun_induction Fields.get? name fields <;> simp_all [Fields.set]

theorem Entries.replace_insert (before : Key → Key → Bool) (key : Key) (first second : Obj)
    (entries : Entries) :
    Entries.replace key second (Entries.insert before key first entries) =
      Entries.insert before key second entries := by
  fun_induction Entries.insert before key first entries <;>
    simp_all [Entries.replace, Entries.insert]

theorem Entries.insert_insert (before : Key → Key → Bool) (key : Key) (first second : Obj)
    (entries : Entries) :
    Entries.insert before key second (Entries.insert before key first entries) =
      Entries.insert before key second entries := by
  fun_induction Entries.insert before key first entries <;> simp_all [Entries.insert]

theorem Entries.replace_replace (key : Key) (first second : Obj) (entries : Entries) :
    Entries.replace key second (Entries.replace key first entries) =
      Entries.replace key second entries := by
  fun_induction Entries.replace key first entries <;> simp_all [Entries.replace]

theorem Entries.replace_get? {key : Key} {value : Obj} {entries : Entries}
    (found : Entries.get? key entries = some value) :
    Entries.replace key value entries = entries := by
  fun_induction Entries.get? key entries <;> simp_all [Entries.replace]

namespace Obj

def hasSlot : Obj → Slot → Bool
  | .bean _ fields, .field name => (Fields.names fields).contains name
  | .list _ _ items, .item i => i < items.length
  | .array _ _ items, .item i => i < items.length
  | .map _ _ _ _, .entry _ => true
  | _, _ => false

/-- Gives a slot a value or none. Positions keep their items: they cannot be emptied. -/
def put : Obj → Slot → Option Obj → Obj
  | .bean type fields, .field name, part => .bean type (Fields.set name part fields)
  | .list kind item items, .item i, some part => .list kind item (items.set i part)
  | .array kind item items, .item i, some part => .array kind item (items.set i part)
  | .map kind key value entries, .entry k, some part =>
    .map kind key value (Entries.insert kind.before k part entries)
  | .map kind key value entries, .entry k, none =>
    .map kind key value (Entries.erase k entries)
  | o, _, _ => o

def length? : Obj → Option Nat
  | .list _ _ items => some items.length
  | .array _ _ items => some items.length
  | _ => none

@[simp] theorem ty_put (o : Obj) (slot : Slot) (part : Option Obj) : (o.put slot part).ty = o.ty := by
  unfold put
  split <;> rfl

@[simp] theorem length?_put (o : Obj) (slot : Slot) (part : Option Obj) :
    (o.put slot part).length? = o.length? := by
  unfold put
  split <;> simp [length?]

@[simp] theorem length?_withPart (o : Obj) (slot : Slot) (part : Obj) :
    (o.withPart slot part).length? = o.length? := by
  unfold withPart
  split <;> simp [length?]

theorem part?_put_self (part : Obj) {o : Obj} {slot : Slot} (has : o.hasSlot slot) :
    (o.put slot (some part)).part? slot = some part := by
  unfold hasSlot at has
  split at has
  · exact Fields.get?_set_self _ (by simpa using has)
  · simp_all [put, part?]
  · simp_all [put, part?]
  · exact Entries.get?_insert_self _ _ _ _
  · cases has

theorem part?_put_of_ne (o : Obj) (part : Option Obj) {slot other : Slot} (ne : other ≠ slot) :
    (o.put slot part).part? other = o.part? other := by
  unfold put
  split
  · cases other <;> simp only [part?]
    exact Fields.get?_set_of_ne _ _ fun same => ne (by rw [same])
  · cases other <;> simp only [part?]
    exact List.getElem?_set_ne fun same => ne (by rw [same])
  · cases other <;> simp only [part?]
    exact List.getElem?_set_ne fun same => ne (by rw [same])
  · cases other <;> simp only [part?]
    exact Entries.get?_insert_of_ne _ _ _ fun same => ne (by rw [same])
  · cases other <;> simp only [part?]
    exact Entries.get?_erase_of_ne _ fun same => ne (by rw [same])
  · rfl

theorem withPart_put (first second : Obj) {o : Obj} {slot : Slot} (has : o.hasSlot slot) :
    (o.put slot (some first)).withPart slot second = o.put slot (some second) := by
  unfold hasSlot at has
  split at has
  · simp [put, withPart, Fields.set_set]
  · simp [put, withPart]
  · simp [put, withPart]
  · simp [put, withPart, Entries.replace_insert]
  · cases has

theorem put_put (o : Obj) (slot : Slot) (first second : Obj) :
    (o.put slot (some first)).put slot (some second) = o.put slot (some second) := by
  cases o <;> cases slot <;> simp [put, Fields.set_set, Entries.insert_insert]

theorem withPart_withPart (o : Obj) (slot : Slot) (first second : Obj) :
    (o.withPart slot first).withPart slot second = o.withPart slot second := by
  cases o <;> cases slot <;>
    simp [withPart, Fields.set_set, Entries.replace_replace]

theorem withPart_part? {o part : Obj} {slot : Slot} (found : o.part? slot = some part) :
    o.withPart slot part = o := by
  unfold part? at found
  split at found
  · simp [withPart, Fields.set_get? found]
  · obtain ⟨bound, rfl⟩ := List.getElem?_eq_some_iff.mp found
    simp [withPart]
  · obtain ⟨bound, rfl⟩ := List.getElem?_eq_some_iff.mp found
    simp [withPart]
  · simp [withPart, Entries.replace_get? found]
  · cases found

theorem at?_singleton (o : Obj) (slot : Slot) : o.at? [slot] = o.part? slot := by
  simp only [at?]
  cases o.part? slot <;> rfl

theorem at?_append (o : Obj) (place below : Place) :
    o.at? (place ++ below) = (o.at? place).bind (·.at? below) := by
  fun_induction at? o place with
  | case1 => rfl
  | case2 o slot place part found ih => simp only [List.cons_append, at?, found, ih]
  | case3 o slot place missing => simp only [List.cons_append, at?, missing, Option.bind_none]

theorem at?_below {o part : Obj} {place : Place} (found : o.at? place = some part) (below : Place) :
    o.at? (place ++ below) = part.at? below := by
  rw [at?_append, found, Option.bind_some]

theorem at?_concat {o owner : Obj} {place : Place} (found : o.at? place = some owner) (slot : Slot) :
    o.at? (place ++ [slot]) = owner.part? slot := by
  rw [at?_below found, at?_singleton]

theorem replaceAt_append {o part : Obj} {place : Place} (found : o.at? place = some part)
    (below : Place) (new : Obj) :
    o.replaceAt (place ++ below) new = o.replaceAt place (part.replaceAt below new) := by
  fun_induction at? o place with
  | case1 => cases found; rfl
  | case2 o slot place child slotFound ih =>
    simp only [List.cons_append, replaceAt, slotFound, ih found]
  | case3 => cases found

theorem at?_replaceAt_append (new : Obj) {o old : Obj} {place : Place}
    (found : o.at? place = some old) (below : Place) :
    (o.replaceAt place new).at? (place ++ below) = new.at? below :=
  at?_below (at?_replaceAt_self new found) below

@[simp] theorem replaceAt_at? {o part : Obj} {place : Place} (found : o.at? place = some part) :
    o.replaceAt place part = o := by
  fun_induction at? o place with
  | case1 => cases found; rfl
  | case2 o slot place child slotFound ih =>
    simp only [replaceAt, slotFound, ih found, withPart_part? slotFound]
  | case3 => cases found

theorem ty_replaceAt {o old new : Obj} {place : Place} (found : o.at? place = some old)
    (same : new.ty = old.ty) : (o.replaceAt place new).ty = o.ty := by
  cases place with
  | nil => cases found; exact same
  | cons slot place =>
    simp only [replaceAt]
    split
    · exact ty_withPart o slot _
    · rfl

theorem replaceAt_replaceAt (first second : Obj) {o old : Obj} {place : Place}
    (found : o.at? place = some old) :
    (o.replaceAt place first).replaceAt place second = o.replaceAt place second := by
  fun_induction at? o place with
  | case1 => rfl
  | case2 o slot place child slotFound ih =>
    -- The first replacement leaves a part in the slot, and the second one goes on in that.
    have again := part?_withPart_self (child.replaceAt place first) slotFound
    simp only [replaceAt, slotFound, again, ih found, withPart_withPart]
  | case3 => cases found

def assign (o : Obj) (place : Place) (slot : Slot) (part : Option Obj) : Obj :=
  match o.at? place with
  | some owner => o.replaceAt place (owner.put slot part)
  | none => o

theorem assign_eq {o owner : Obj} {place : Place} (found : o.at? place = some owner) (slot : Slot)
    (part : Option Obj) : o.assign place slot part = o.replaceAt place (owner.put slot part) := by
  simp only [assign, found]

@[simp] theorem assign_nil (o : Obj) (slot : Slot) (part : Option Obj) :
    o.assign [] slot part = o.put slot part := rfl

@[simp] theorem ty_assign (o : Obj) (place : Place) (slot : Slot) (part : Option Obj) :
    (o.assign place slot part).ty = o.ty := by
  unfold assign
  split
  next owner found => exact ty_replaceAt found (ty_put owner slot part)
  · rfl

theorem assign_assign (o : Obj) (place : Place) (slot : Slot) (first second : Obj) :
    (o.assign place slot (some first)).assign place slot (some second) =
      o.assign place slot (some second) := by
  cases found : o.at? place with
  | none => simp only [assign, found]
  | some owner =>
    rw [assign_eq found, assign_eq (at?_replaceAt_self _ found), replaceAt_replaceAt _ _ found,
      put_put, assign_eq found]

def hasSlotAt (o : Obj) (place : Place) (slot : Slot) : Prop :=
  ∃ owner, o.at? place = some owner ∧ owner.hasSlot slot

theorem at?_assign (part : Obj) {o : Obj} {place : Place} {slot : Slot}
    (has : o.hasSlotAt place slot) :
    (o.assign place slot (some part)).at? (place ++ [slot]) = some part := by
  obtain ⟨owner, found, has⟩ := has
  rw [assign_eq found, at?_replaceAt_append _ found, at?_singleton, part?_put_self part has]

/-- A value that was just given to a slot and is then replaced might have been given at once. -/
theorem assign_replaceAt (first second : Obj) {o : Obj} {place : Place} {slot : Slot}
    (has : o.hasSlotAt place slot) :
    (o.assign place slot (some first)).replaceAt (place ++ [slot]) second =
      o.assign place slot (some second) := by
  obtain ⟨owner, found, has⟩ := has
  have stored := part?_put_self first has
  rw [assign_eq found, assign_eq found, replaceAt_append (at?_replaceAt_self _ found),
    replaceAt_replaceAt _ _ found]
  simp only [replaceAt, stored, withPart_put _ _ has]

end Obj

end ObjectGraph
