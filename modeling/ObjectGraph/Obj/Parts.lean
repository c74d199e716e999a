import ObjectGraph.Obj.Order

/-!
The parts of an object by name, position or key: fields of a bean as an association list, entries
of a map as a finite map in enumeration order, members of a set in their natural order.
-/

set_option autoImplicit false
namespace ObjectGraph

/-- The fields of a bean, in declaration order; an absent value is `none`. -/
abbrev Fields := List (String × Option Obj)

namespace Fields

def get? (name : String) : Fields → Option Obj
  | [] => none
  | (n, v) :: rest => if n = name then v else get? name rest

def set (name : String) (value : Option Obj) : Fields → Fields
  | [] => []
  | (n, v) :: rest => if n = name then (n, value) :: rest else (n, v) :: set name value rest

def names (fields : Fields) : List String :=
  fields.map Prod.fst

@[simp] theorem names_set (name : String) (value : Option Obj) (fields : Fields) :
    names (set name value fields) = names fields := by
  fun_induction set name value fields <;> simp_all [names]

theorem get?_set_self (value : Option Obj) {name : String} {fields : Fields}
    (h : name ∈ names fields) : get? name (set name value fields) = value := by
  fun_induction set name value fields with
  | case1 => simp [names] at h
  | case2 => simp [get?]
  | case3 n v rest hn ih =>
    simp only [names, List.map_cons, List.mem_cons] at h
    simp only [get?, if_neg hn]
    exact ih (h.resolve_left fun e => hn e.symm)

theorem get?_set_of_ne (value : Option Obj) (fields : Fields) {name other : String}
    (h : other ≠ name) : get? other (set name value fields) = get? other fields := by
  fun_induction set name value fields <;> simp_all [get?, eq_comm]

theorem mem_names_of_get? {name : String} {fields : Fields} {value : Obj}
    (h : get? name fields = some value) : name ∈ names fields := by
  fun_induction get? name fields <;> simp_all [names]

end Fields

abbrev Entries := List (Key × Obj)

namespace Entries

def get? (key : Key) : Entries → Option Obj
  | [] => none
  | (k, v) :: rest => if k = key then some v else get? key rest

def insert (before : Key → Key → Bool) (key : Key) (value : Obj) : Entries → Entries
  | [] => [(key, value)]
  | (k, v) :: rest =>
    if k = key then (key, value) :: rest
    else if before key k then (key, value) :: (k, v) :: rest
    else (k, v) :: insert before key value rest

def replace (key : Key) (value : Obj) : Entries → Entries
  | [] => []
  | (k, v) :: rest => if k = key then (k, value) :: rest else (k, v) :: replace key value rest

def erase (key : Key) : Entries → Entries
  | [] => []
  | (k, v) :: rest => if k = key then erase key rest else (k, v) :: erase key rest

def keys (entries : Entries) : List Key :=
  entries.map Prod.fst

@[simp] theorem get?_insert_self (before : Key → Key → Bool) (key : Key) (value : Obj)
    (entries : Entries) : get? key (insert before key value entries) = some value := by
  fun_induction insert before key value entries <;> simp_all [get?]

theorem get?_insert_of_ne (before : Key → Key → Bool) (value : Obj) (entries : Entries)
    {key other : Key} (h : other ≠ key) :
    get? other (insert before key value entries) = get? other entries := by
  fun_induction insert before key value entries with
  | case1 => simp [get?, h.symm]
  | case2 v rest => simp [get?, h.symm]
  | case3 k v rest hk hb => simp [get?, h.symm]
  | case4 k v rest hk hb ih => simp only [get?, ih]

theorem get?_replace_self (value : Obj) {key : Key} {entries : Entries} {old : Obj}
    (h : get? key entries = some old) : get? key (replace key value entries) = some value := by
  fun_induction replace key value entries <;> simp_all [get?]

theorem get?_replace_of_ne (value : Obj) (entries : Entries) {key other : Key}
    (h : other ≠ key) : get? other (replace key value entries) = get? other entries := by
  fun_induction replace key value entries <;> simp_all [get?, eq_comm]

@[simp] theorem get?_erase_self (key : Key) (entries : Entries) :
    get? key (erase key entries) = none := by
  fun_induction erase key entries <;> simp_all [get?]

theorem get?_erase_of_ne (entries : Entries) {key other : Key} (h : other ≠ key) :
    get? other (erase key entries) = get? other entries := by
  fun_induction erase key entries <;> simp_all [get?, eq_comm]

end Entries

def MapKind.before : MapKind → Key → Key → Bool
  | .hash, k, l => k.textBefore l
  | .swiss, k, l => k.textBefore l
  | .sorted, k, l => k.before l

abbrev Members := List Obj

namespace Members

def has (o : Obj) (members : Members) : Bool :=
  members.any fun m => o.order m == .eq

def insert (o : Obj) : Members → Members
  | [] => [o]
  | m :: rest =>
    match o.order m with
    | .lt => o :: m :: rest
    | .eq => m :: rest
    | .gt => m :: insert o rest

def erase (o : Obj) (members : Members) : Members :=
  members.filter fun m => o.order m != .eq

end Members

/-- Where a part of an object sits. -/
inductive Slot where
  | field (name : String)
  | item (index : Nat)
  | entry (key : Key)
deriving DecidableEq, Repr

/-- Where a part of a part sits: the slots from the outside in. The empty place is the object. -/
abbrev Place := List Slot

namespace Obj

def part? : Obj → Slot → Option Obj
  | .bean _ fields, .field name => Fields.get? name fields
  | .list _ _ items, .item i => items[i]?
  | .array _ _ items, .item i => items[i]?
  | .map _ _ _ entries, .entry key => Entries.get? key entries
  | _, _ => none

/-- Replaces the part in a slot; a slot without a part is left as it is, save that a field may
receive its first value. -/
def withPart : Obj → Slot → Obj → Obj
  | .bean type fields, .field name, part => .bean type (Fields.set name (some part) fields)
  | .list kind item items, .item i, part => .list kind item (items.set i part)
  | .array kind item items, .item i, part => .array kind item (items.set i part)
  | .map kind key value entries, .entry k, part =>
    .map kind key value (Entries.replace k part entries)
  | o, _, _ => o

def at? : Obj → Place → Option Obj
  | o, [] => some o
  | o, slot :: place =>
    match o.part? slot with
    | some part => part.at? place
    | none => none

def replaceAt : Obj → Place → Obj → Obj
  | _, [], new => new
  | o, slot :: place, new =>
    match o.part? slot with
    | some part => o.withPart slot (part.replaceAt place new)
    | none => o

theorem part?_withPart_self (new : Obj) {o : Obj} {slot : Slot} {old : Obj}
    (h : o.part? slot = some old) : (o.withPart slot new).part? slot = some new := by
  unfold part? at h
  split at h
  · exact Fields.get?_set_self _ (Fields.mem_names_of_get? h)
  · simp [withPart, part?, (List.getElem?_eq_some_iff.1 h).1]
  · simp [withPart, part?, (List.getElem?_eq_some_iff.1 h).1]
  · exact Entries.get?_replace_self new h
  · cases h

theorem part?_withPart_of_ne (o : Obj) (new : Obj) {slot other : Slot} (h : other ≠ slot) :
    (o.withPart slot new).part? other = o.part? other := by
  cases o <;> cases slot <;> cases other <;> simp only [withPart, part?]
  · exact List.getElem?_set_ne fun e => h (by rw [e])
  · exact List.getElem?_set_ne fun e => h (by rw [e])
  · exact Entries.get?_replace_of_ne _ _ fun e => h (by rw [e])
  · exact Fields.get?_set_of_ne _ _ fun e => h (by rw [e])

@[simp] theorem ty_withPart (o : Obj) (slot : Slot) (new : Obj) :
    (o.withPart slot new).ty = o.ty := by
  cases o <;> cases slot <;> rfl

theorem at?_replaceAt_self (new : Obj) {o : Obj} {place : Place} {old : Obj}
    (h : o.at? place = some old) : (o.replaceAt place new).at? place = some new := by
  fun_induction at? o place with
  | case1 => rfl
  | case2 o slot place part hp ih =>
    simp only [replaceAt, hp, at?, part?_withPart_self _ hp]
    exact ih h
  | case3 => cases h

end Obj

end ObjectGraph
