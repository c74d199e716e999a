import ObjectGraph.Schema
import ObjectGraph.Proofs.Place

/-! Well-typed object graphs: every part conforms to the declared type of its slot.

A concrete slot holds objects of exactly its type, an open slot any object of its shape, and only a
slot that may stay empty is empty. Replacing a part by one of the same type, and giving a slot what
it admits, keep a graph well typed.
-/

set_option autoImplicit false
namespace ObjectGraph

/-- The objects that a slot of the type holds. -/
inductive Ty.Conforms : Ty → Obj → Prop where
  | exact (o : Obj) : Conforms o.ty o
  | any (o : Obj) : Conforms .any o
  | list (kind : ListKind) (item : Ty) (items : List Obj) :
    Conforms (.shaped .list) (.list kind item items)
  | map (kind : MapKind) (key : KeyType) (value : Ty) (entries : Entries) :
    Conforms (.shaped .map) (.map kind key value entries)
  | set (kind : SetKind) (item : Ty) (members : Members) :
    Conforms (.shaped .set) (.set kind item members)

/-- A slot accepts exactly the objects that it may hold. -/
theorem Ty.accepts_iff {t : Ty} {o : Obj} : t.accepts o = true ↔ t.Conforms o := by
  constructor
  · intro accepted
    unfold accepts at accepted
    split at accepted
    · exact .any o
    · cases o <;> simp [Obj.kind] at accepted
      exact .list _ _ _
    · cases o <;> simp [Obj.kind] at accepted
      exact .map _ _ _ _
    · cases o <;> simp [Obj.kind] at accepted
      exact .set _ _ _
    · cases accepted
    · exact beq_iff_eq.mp accepted ▸ .exact o
  · intro conforms
    cases conforms with
    | exact => cases o <;> simp [accepts, Obj.ty]
    | any => rfl
    | list => rfl
    | map => rfl
    | set => rfl

theorem Ty.Conforms.congr {t : Ty} {a b : Obj} (conforms : t.Conforms a) (same : b.ty = a.ty) :
    t.Conforms b := by
  cases conforms with
  | exact => exact same ▸ .exact b
  | any => exact .any b
  | list => cases b <;> cases same; exact .list _ _ _
  | map => cases b <;> cases same; exact .map _ _ _ _
  | set => cases b <;> cases same; exact .set _ _ _

theorem Ty.Conforms.ty_eq {t : Ty} {o : Obj} (conforms : t.Conforms o) (concrete : t.isOpen = false) :
    o.ty = t := by
  cases conforms with
  | exact => rfl
  | any => cases concrete
  | list => cases concrete
  | map => cases concrete
  | set => cases concrete

def Scalar.InRange : Scalar → Prop
  | .int t n => t.contains n
  | _ => True

def ArrayKind.Fits : ArrayKind → Nat → Prop
  | .fixed length, n => n = length
  | .slice, _ => True

def SlotType.Takes (slot : SlotType) : Option Obj → Prop
  | none => slot.nullable
  | some o => slot.ty.Conforms o

namespace Schema

/-- An object whose parts all conform to the types of their slots. -/
inductive WellTyped (s : Schema) : Obj → Prop where
  | scalar {value : Scalar} : value.InRange → WellTyped s (.scalar value)
  | list {kind : ListKind} {item : Ty} {items : List Obj} :
    (∀ o ∈ items, item.Conforms o) → (∀ o ∈ items, WellTyped s o) →
    WellTyped s (.list kind item items)
  | array {kind : ArrayKind} {item : Ty} {items : List Obj} : kind.Fits items.length →
    (∀ o ∈ items, item.Conforms o) → (∀ o ∈ items, WellTyped s o) →
    WellTyped s (.array kind item items)
  | map {kind : MapKind} {key : KeyType} {value : Ty} {entries : Entries} :
    (∀ e ∈ entries, e.1.hasType key) → (∀ e ∈ entries, value.Conforms e.2) →
    (∀ e ∈ entries, WellTyped s e.2) → WellTyped s (.map kind key value entries)
  | set {kind : SetKind} {item : Ty} {members : Members} :
    (∀ o ∈ members, item.Conforms o) → (∀ o ∈ members, WellTyped s o) →
    WellTyped s (.set kind item members)
  | bean {type : String} {layout : Layout} {fields : Fields} : s.layouts type = some layout →
    Fields.names fields = layout.slots.map SlotType.name →
    (∀ name slot, layout.slot? name = some slot → slot.Takes (Fields.get? name fields)) →
    (∀ f ∈ fields, ∀ o, f.2 = some o → WellTyped s o) → WellTyped s (.bean type fields)

/-- What may be given to a slot of an object. -/
def Admits (s : Schema) : Obj → Slot → Option Obj → Prop
  | .bean type _, .field name, part => ∃ layout slot,
    s.layouts type = some layout ∧ layout.slot? name = some slot ∧ slot.Takes part
  | .list _ item _, .item _, some part => item.Conforms part
  | .array _ item _, .item _, some part => item.Conforms part
  | .map _ key value _, .entry k, part => k.hasType key ∧ ∀ o, part = some o → value.Conforms o
  | _, _, _ => False

end Schema

/-! Members of changed fields and entries -/

theorem Fields.mem_set {name : String} {value : Option Obj} {fields : Fields}
    {f : String × Option Obj} (member : f ∈ Fields.set name value fields) :
    f = (name, value) ∨ f ∈ fields := by
  fun_induction Fields.set name value fields with
  | case1 => cases member
  | case2 v rest =>
    rcases List.mem_cons.mp member with same | member
    · exact .inl same
    · exact .inr (List.mem_cons_of_mem _ member)
  | case3 n v rest ne ih =>
    rcases List.mem_cons.mp member with same | member
    · exact .inr (same ▸ List.mem_cons_self)
    · exact (ih member).imp_right (List.mem_cons_of_mem _)

theorem Fields.mem_of_get? {name : String} {fields : Fields} {o : Obj}
    (found : Fields.get? name fields = some o) : (name, some o) ∈ fields := by
  fun_induction Fields.get? name fields <;> simp_all

theorem Entries.mem_insert {before : Key → Key → Bool} {key : Key} {value : Obj}
    {entries : Entries} {e : Key × Obj} (member : e ∈ Entries.insert before key value entries) :
    e = (key, value) ∨ e ∈ entries := by
  fun_induction Entries.insert before key value entries with
  | case1 => exact .inl (List.mem_singleton.mp member)
  | case2 v rest =>
    exact (List.mem_cons.mp member).imp_right (List.mem_cons_of_mem _)
  | case3 => exact List.mem_cons.mp member
  | case4 k v rest _ _ ih =>
    rcases List.mem_cons.mp member with same | member
    · exact .inr (same ▸ List.mem_cons_self)
    · exact (ih member).imp_right (List.mem_cons_of_mem _)

theorem Entries.mem_replace {key : Key} {value : Obj} {entries : Entries} {e : Key × Obj}
    (member : e ∈ Entries.replace key value entries) : e = (key, value) ∨ e ∈ entries := by
  fun_induction Entries.replace key value entries with
  | case1 => cases member
  | case2 v rest => exact (List.mem_cons.mp member).imp_right (List.mem_cons_of_mem _)
  | case3 k v rest _ ih =>
    rcases List.mem_cons.mp member with same | member
    · exact .inr (same ▸ List.mem_cons_self)
    · exact (ih member).imp_right (List.mem_cons_of_mem _)

theorem Entries.mem_of_mem_erase {key : Key} {entries : Entries} {e : Key × Obj}
    (member : e ∈ Entries.erase key entries) : e ∈ entries := by
  fun_induction Entries.erase key entries with
  | case1 => cases member
  | case2 v rest ih => exact List.mem_cons_of_mem _ (ih member)
  | case3 k v rest _ ih =>
    rcases List.mem_cons.mp member with same | member
    · exact same ▸ List.mem_cons_self
    · exact List.mem_cons_of_mem _ (ih member)

theorem Entries.mem_of_get? {key : Key} {entries : Entries} {o : Obj}
    (found : Entries.get? key entries = some o) : (key, o) ∈ entries := by
  fun_induction Entries.get? key entries <;> simp_all

namespace Schema

variable {s : Schema} {o child : Obj} {slot : Slot}

namespace WellTyped

theorem part (typed : s.WellTyped o) (found : o.part? slot = some child) : s.WellTyped child := by
  unfold Obj.part? at found
  split at found
  · cases typed with
    | bean _ _ _ parts => exact parts _ (Fields.mem_of_get? found) _ rfl
  · cases typed with
    | list _ parts => exact parts _ (List.mem_of_getElem? found)
  · cases typed with
    | array _ _ parts => exact parts _ (List.mem_of_getElem? found)
  · cases typed with
    | map _ _ parts => exact parts _ (Entries.mem_of_get? found)
  · cases found

theorem at? {place : Place} (typed : s.WellTyped o) (found : o.at? place = some child) :
    s.WellTyped child := by
  fun_induction Obj.at? o place with
  | case1 => cases found; exact typed
  | case2 o slot place part slotFound ih => exact ih (typed.part slotFound) found
  | case3 => cases found

theorem admits (typed : s.WellTyped o) (found : o.part? slot = some child) :
    s.Admits o slot (some child) := by
  unfold Obj.part? at found
  split at found
  next type fields name =>
    cases typed with
    | @bean _ layout _ layoutFound names takes _ =>
      -- What the bean has is declared: its fields are named as the slots of the layout.
      have known : name ∈ layout.slots.map SlotType.name := names ▸ Fields.mem_names_of_get? found
      obtain ⟨declared, member, same⟩ := List.mem_map.mp known
      have some : (layout.slot? name).isSome := by
        rw [Layout.slot?, List.find?_isSome]
        exact ⟨declared, member, by simpa using same⟩
      obtain ⟨slot, slotFound⟩ := Option.isSome_iff_exists.mp some
      exact ⟨layout, slot, layoutFound, slotFound, found ▸ takes name slot slotFound⟩
  · cases typed with
    | list conform _ => exact conform _ (List.mem_of_getElem? found)
  · cases typed with
    | array _ conform _ => exact conform _ (List.mem_of_getElem? found)
  · cases typed with
    | map keys conform _ =>
      have member := Entries.mem_of_get? found
      exact ⟨keys _ member, fun o same => Option.some.inj same ▸ conform _ member⟩
  · cases found

end WellTyped

theorem Admits.congr {new : Obj} (admits : s.Admits o slot (some child)) (same : new.ty = child.ty) :
    s.Admits o slot (some new) := by
  cases o <;> cases slot <;> try exact admits
  case list.item => exact Ty.Conforms.congr admits same
  case array.item => exact Ty.Conforms.congr admits same
  case map.entry =>
    exact ⟨admits.1, fun o found => (admits.2 child rfl).congr (Option.some.inj found ▸ same)⟩
  case bean.field =>
    obtain ⟨layout, slot, layoutFound, slotFound, takes⟩ := admits
    exact ⟨layout, slot, layoutFound, slotFound, Ty.Conforms.congr takes same⟩

theorem Admits.takes {type name : String} {fields : Fields} {value : Option Obj}
    (admits : s.Admits (.bean type fields) (.field name) value) {layout : Layout}
    (layoutFound : s.layouts type = some layout) {slot : SlotType}
    (slotFound : layout.slot? name = some slot) : slot.Takes value := by
  obtain ⟨_, _, sameLayout, sameSlot, takes⟩ := admits
  rw [layoutFound] at sameLayout
  cases sameLayout
  rw [slotFound] at sameSlot
  cases sameSlot
  exact takes

namespace WellTyped

theorem setField {type name : String} {fields : Fields} {value : Option Obj}
    (typed : s.WellTyped (.bean type fields)) (admits : s.Admits (.bean type fields) (.field name) value)
    (values : ∀ o, value = some o → s.WellTyped o) :
    s.WellTyped (.bean type (Fields.set name value fields)) := by
  cases typed with
  | @bean _ layout _ layoutFound names takes parts =>
    refine .bean layoutFound (by rw [Fields.names_set, names]) ?_ ?_
    · intro other slot slotFound
      by_cases same : other = name
      · subst same
        have has : other ∈ Fields.names fields := by
          rw [names]
          have member := List.mem_of_find?_eq_some slotFound
          exact List.mem_map.mpr ⟨slot, member, by simpa using List.find?_some slotFound⟩
        rw [Fields.get?_set_self value has]
        exact admits.takes layoutFound slotFound
      · rw [Fields.get?_set_of_ne value fields same]
        exact takes other slot slotFound
    · intro f member o found
      rcases Fields.mem_set member with rfl | member
      · exact values o found
      · exact parts f member o found

theorem setItem {item : Ty} {items : List Obj} {i : Nat} {o : Obj} (conforms : item.Conforms o)
    (typed : s.WellTyped o) (conform : ∀ x ∈ items, item.Conforms x)
    (parts : ∀ x ∈ items, s.WellTyped x) :
    (∀ x ∈ items.set i o, item.Conforms x) ∧ ∀ x ∈ items.set i o, s.WellTyped x := by
  constructor <;> intro x member <;> rcases List.mem_or_eq_of_mem_set member with old | rfl
  · exact conform _ old
  · exact conforms
  · exact parts _ old
  · exact typed

theorem mapOf {kind : MapKind} {key : KeyType} {value : Ty} {entries entries' : Entries} {k : Key}
    {o : Obj} (typed : s.WellTyped (.map kind key value entries)) (hasType : k.hasType key)
    (conforms : value.Conforms o) (oTyped : s.WellTyped o)
    (only : ∀ e ∈ entries', e = (k, o) ∨ e ∈ entries) :
    s.WellTyped (.map kind key value entries') := by
  cases typed with
  | map keys conform parts =>
    refine .map ?_ ?_ ?_ <;> intro e member <;> rcases only e member with rfl | old
    · exact hasType
    · exact keys e old
    · exact conforms
    · exact conform e old
    · exact oTyped
    · exact parts e old

/-- Giving a slot what it admits keeps the object well typed. -/
theorem put {value : Option Obj} (typed : s.WellTyped o) (admits : s.Admits o slot value)
    (values : ∀ o, value = some o → s.WellTyped o) : s.WellTyped (o.put slot value) := by
  unfold Obj.put
  split
  · exact typed.setField admits values
  next part =>
    cases typed with
    | list conform parts =>
      obtain ⟨conform, parts⟩ := setItem admits (values _ rfl) conform parts
      exact .list conform parts
  next part =>
    cases typed with
    | array fits conform parts =>
      obtain ⟨conform, parts⟩ := setItem admits (values _ rfl) conform parts
      exact .array (by simpa using fits) conform parts
  next part =>
    exact typed.mapOf admits.1 (admits.2 part rfl) (values part rfl) fun _ => Entries.mem_insert
  · cases typed with
    | map keys conform parts =>
      exact .map (fun e member => keys e (Entries.mem_of_mem_erase member))
        (fun e member => conform e (Entries.mem_of_mem_erase member))
        (fun e member => parts e (Entries.mem_of_mem_erase member))
  · exact typed

theorem withPart {new : Obj} (typed : s.WellTyped o) (found : o.part? slot = some child)
    (newTyped : s.WellTyped new) (same : new.ty = child.ty) :
    s.WellTyped (o.withPart slot new) := by
  -- The slot admits what it holds, hence everything of the same type.
  have admits := (typed.admits found).congr same
  unfold Obj.withPart
  split
  · exact typed.setField admits fun _ eq => Option.some.inj eq ▸ newTyped
  · cases typed with
    | list conform parts =>
      obtain ⟨conform, parts⟩ := setItem admits newTyped conform parts
      exact .list conform parts
  · cases typed with
    | array fits conform parts =>
      obtain ⟨conform, parts⟩ := setItem admits newTyped conform parts
      exact .array (by simpa using fits) conform parts
  · exact typed.mapOf admits.1 (admits.2 new rfl) newTyped fun _ => Entries.mem_replace
  · exact typed

theorem replaceAt {new : Obj} {place : Place} (typed : s.WellTyped o)
    (found : o.at? place = some child) (newTyped : s.WellTyped new) (same : new.ty = child.ty) :
    s.WellTyped (o.replaceAt place new) := by
  fun_induction Obj.at? o place with
  | case1 => exact newTyped
  | case2 o slot place part slotFound ih =>
    simp only [Obj.replaceAt, slotFound]
    exact typed.withPart slotFound (ih (typed.part slotFound) found) (Obj.ty_replaceAt found same)
  | case3 => cases found

end WellTyped

end Schema

end ObjectGraph
