import ObjectGraph.Proofs.Reach
import ObjectGraph.Proofs.Standard

/-! Access by key: the slot that a text denotes in a container.

A text is read under the key type of a map, or as a position. What it denotes depends on the type of
the container only, so a slot that was found is found again after any change of what it holds.
-/

set_option autoImplicit false
namespace ObjectGraph

theorem Key.hasType_of_read? {t : KeyType} {text : String} {k : Key} (read : Key.read? t text = some k) :
    k.hasType t := by
  cases t with
  | int type =>
    obtain ⟨n, found, rfl⟩ := Option.map_eq_some_iff.mp read
    unfold IntType.read? at found
    split at found
    next n' _ =>
      by_cases contained : type.contains n'
      · simp only [contained, if_true, Option.some.injEq] at found
        exact found ▸ contained
      · simp [contained] at found
    · cases found
  | char =>
    simp only [Key.read?] at read
    split at read
    · cases read; rfl
    · cases read
  | str => cases read; rfl

theorem Ty.element_ok {t : Ty} {o o' : Obj} (accepted : t.element o = .ok o') :
    o' = o ∧ t.Conforms o := by
  unfold element convert at accepted
  by_cases accepts : t.accepts o
  · simp only [accepts, if_true, Except.ok.injEq] at accepted
    exact ⟨accepted.symm, accepts_iff.mp accepts⟩
  · simp [accepts] at accepted

/-! What the containers do with what they are given -/

theorem replaceItem_both (item : Ty) {items items' : List Obj} (length : items'.length = items.length)
    (i : Nat) (o : Obj) :
    (∃ e, replaceItem item items i o = .error e ∧ replaceItem item items' i o = .error e) ∨
      replaceItem item items i o = .ok (items.set i o) ∧
        replaceItem item items' i o = .ok (items'.set i o) ∧ i < items.length ∧ item.Conforms o := by
  unfold replaceItem
  rw [length]
  by_cases bound : i < items.length
  · simp only [bound, if_true]
    cases accepted : item.element o with
    | error e => exact .inl ⟨e, rfl, rfl⟩
    | ok o' =>
      obtain ⟨rfl, conforms⟩ := Ty.element_ok accepted
      exact .inr ⟨rfl, rfl, trivial, conforms⟩
  · simp only [bound, if_false]
    exact .inl ⟨_, rfl, rfl⟩

theorem MapView.insert_both (kind : MapKind) (key : KeyType) (value : Ty) (entries entries' : Entries)
    (text : String) (o : Obj) :
    (∃ e, (MapView.mk kind key value entries).insert text o = .error e ∧
      (MapView.mk kind key value entries').insert text o = .error e) ∨
    ∃ k old old', Key.read? key text = some k ∧ value.Conforms o ∧
      (MapView.mk kind key value entries).insert text o =
        .ok (⟨kind, key, value, Entries.insert kind.before k o entries⟩, old) ∧
      (MapView.mk kind key value entries').insert text o =
        .ok (⟨kind, key, value, Entries.insert kind.before k o entries'⟩, old') := by
  unfold MapView.insert
  cases read : Key.read? key text with
  | none => exact .inl ⟨_, rfl, rfl⟩
  | some k =>
    cases accepted : value.element o with
    | error e => exact .inl ⟨e, rfl, rfl⟩
    | ok o' =>
      obtain ⟨rfl, conforms⟩ := Ty.element_ok accepted
      exact .inr ⟨k, _, _, rfl, conforms, rfl, rfl⟩

theorem MapView.remove_obj (m : MapView) (text : String) : (m.remove text).1.obj =
    match Key.read? m.key text with
    | some k => m.obj.put (.entry k) none
    | none => m.obj := by
  unfold MapView.remove
  split
  next missing => rw [missing]
  next k read => rw [read]; rfl

theorem Obj.keySlot?_congr {a b : Obj} (same : a.ty = b.ty) (text : String) :
    a.keySlot? text = b.keySlot? text := by
  cases a <;> cases b <;> simp_all [Obj.ty, Obj.keySlot?]

namespace Context

variable {ctx : Context} {o o' : Obj} {text : String} {slot : Slot} {a : AccessStep}

theorem source_key : ctx.source o (.key text) = some ([], slot) ↔ o.keySlot? text = some slot := by
  simp [source, slotBy]

theorem keySlot?_of_reads {place : Place} (reads : ctx.ReadsFrom o [.key text] place slot) :
    o.keySlot? text = some slot ∧ place = [] := by
  have found := reaches_singleton.mp reads
  simp only [source, slotBy, Option.map_eq_some_iff, Prod.mk.injEq] at found
  obtain ⟨_, denoted, rfl, rfl⟩ := found
  exact ⟨denoted, rfl⟩

theorem createMissing_congr (ctx : Context) {owner owner' : Obj} (same : owner'.typeName = owner.typeName)
    (s : Segment) (property : String) (t : Ty) :
    ctx.createMissing owner' s property t = ctx.createMissing owner s property t := by
  simp only [createMissing, same]

/-- Nothing is read and written by key in different slots. -/
theorem reads_key {place : Place} (writes : ctx.WritesTo o [.key text] place slot) :
    ctx.ReadsFrom o [.key text] place slot := by
  cases writes with
  | last found => exact .last found
  | step _ _ rest => cases rest

theorem storesBoth_put {v : Option Obj} (denoted : ctx.sink o a = some ([], slot))
    (has : o.hasSlot slot) (admits : ctx.schema.Admits o slot v) (has' : o'.hasSlot slot)
    (admits' : ctx.schema.Admits o' slot v) :
    ctx.StoresBoth o o' [a] v (.ok () (o.put slot v)) (.ok () (o'.put slot v)) := by
  have writes : ctx.WritesTo o [a] [] slot := .last denoted
  exact .stored writes ⟨o, rfl, has, admits⟩ ⟨o', rfl, has', admits'⟩

theorem storesBoth_entry (ctx : Context) {kind : MapKind} {key : KeyType} {value : Ty}
    {entries : Entries} (entries' : Entries)
    (denoted : ∀ k, Key.read? key text = some k →
      ctx.sink (.map kind key value entries) a = some ([], .entry k))
    (reword : ElementError → AccessError) (v : Option Obj) :
    let store (entries : Entries) : Edit AccessError Unit :=
      match v with
      | some o => do
        let (m, _) ← Edit.ofExcept
          (((MapView.mk kind key value entries).insert text o).mapError reword)
        set m.obj
      | none => set ((MapView.mk kind key value entries).remove text).1.obj
    ctx.StoresBoth (.map kind key value entries) (.map kind key value entries') [a] v
      (store entries (.map kind key value entries)) (store entries' (.map kind key value entries')) := by
  cases v with
  | none =>
    simp only [Edit.set_apply, MapView.remove_obj]
    cases read : Key.read? key text with
    | none => exact .nothing rfl
    | some k =>
      -- Every entry may be dropped, whatever the values are.
      have admits (entries : Entries) : ctx.schema.Admits (.map kind key value entries) (.entry k) none :=
        ⟨Key.hasType_of_read? read, fun _ same => nomatch same⟩
      exact storesBoth_put (denoted k read) rfl (admits entries) rfl (admits entries')
  | some v =>
    rcases MapView.insert_both kind key value entries entries' text v with
      ⟨e, first, second⟩ | ⟨k, old, old', read, conforms, first, second⟩
    · simp only [first, second, mapError_error]
      exact .failed _
    · simp only [first, second, mapError_ok, Edit.bind_apply, Edit.ofExcept_ok_apply, Edit.set_apply]
      have admits (entries : Entries) :
          ctx.schema.Admits (.map kind key value entries) (.entry k) (some v) :=
        ⟨Key.hasType_of_read? read, fun _ same => Option.some.inj same ▸ conforms⟩
      exact storesBoth_put (denoted k read) rfl (admits entries) rfl (admits entries')

end Context

namespace Indexed

variable {o part : Obj} {s : Segment} {slot : Slot}

theorem position_of_read? {i : Int} (type : String) (read : IntType.usize.read? s.key = some i) :
    s.position type = .ok i.toNat := by
  simp only [Segment.position, read]

theorem position_ok {type : String} {i : Nat} (read : s.position type = .ok i) :
    (IntType.usize.read? s.key).map (fun i => Slot.item i.toNat) = some (.item i) := by
  unfold Segment.position at read
  split at read
  next n found => cases read; simp [found]
  · cases read

theorem positionSlot_ok {type : String} {length : Nat} {found : Option Slot}
    (ok : positionSlot s type length = .ok found) :
    ∃ i, found = some (.item i) ∧ i < length ∧ s.position type = .ok i := by
  unfold positionSlot at ok
  cases read : s.position type with
  | error e => simp [read, bind, Except.bind] at ok
  | ok i =>
    simp only [read, bind, Except.bind] at ok
    split at ok
    next bound => cases ok; exact ⟨i, rfl, bound, rfl⟩
    · cases ok

theorem slot?_some (found : slot? o s = .ok (some slot)) :
    o.keySlot? s.key = some slot ∧ ∃ part, o.part? slot = some part := by
  unfold slot? at found
  split at found
  · split at found
    next k read =>
      simp only [Except.ok.injEq, Option.map_eq_some_iff] at found
      obtain ⟨part, held, rfl⟩ := found
      exact ⟨by simp [Obj.keySlot?, read], part, held⟩
    · cases found
  · obtain ⟨i, same, bound, read⟩ := positionSlot_ok found
    cases same
    exact ⟨position_ok read, _, List.getElem?_eq_getElem bound⟩
  · obtain ⟨i, same, bound, read⟩ := positionSlot_ok found
    cases same
    exact ⟨position_ok read, _, List.getElem?_eq_getElem bound⟩
  · cases found

theorem slot?_none (found : slot? o s = .ok none) (denoted : o.keySlot? s.key = some slot) :
    o.part? slot = none := by
  unfold slot? at found
  split at found
  · simp only [Obj.keySlot?, Option.map_eq_some_iff] at denoted
    obtain ⟨k, read, rfl⟩ := denoted
    simpa [read, Obj.part?] using found
  · obtain ⟨i, same, _⟩ := positionSlot_ok found
    cases same
  · obtain ⟨i, same, _⟩ := positionSlot_ok found
    cases same
  · cases found

theorem slot?_of_part? (denoted : o.keySlot? s.key = some slot) (held : o.part? slot = some part) :
    slot? o s = .ok (some slot) := by
  cases o <;> simp only [Obj.keySlot?, Option.map_eq_some_iff, reduceCtorEq] at denoted
  case map =>
    obtain ⟨k, read, rfl⟩ := denoted
    simp only [Obj.part?] at held
    simp [slot?, read, held]
  all_goals
    obtain ⟨i, read, rfl⟩ := denoted
    have bound := (List.getElem?_eq_some_iff.mp held).1
    simp [slot?, positionSlot, position_of_read? _ read, bind, Except.bind, bound, pure, Except.pure]

theorem read_of_part? (owned : Bool) (denoted : o.keySlot? s.key = some slot)
    (held : o.part? slot = some part) : read ⟨o, owned⟩ s = .ok (some ⟨part, owned⟩) := by
  simp [read, slot?_of_part? denoted held, bind, Except.bind, pure, Except.pure, held]

theorem borrow_of_part? (denoted : o.keySlot? s.key = some slot) (held : o.part? slot = some part) :
    borrow s o = .ok (some [slot]) o := by
  simp only [borrow, Edit.bind_apply, Edit.get_apply, slot?_of_part? denoted held]
  rfl

theorem part?_of_read {owned : Bool} {v : Value} (found : read ⟨o, owned⟩ s = .ok (some v)) :
    ∃ slot, o.keySlot? s.key = some slot ∧ o.part? slot = some v.obj ∧ v.owned = owned := by
  unfold read at found
  cases sits : slot? o s with
  | error e => simp [sits, bind, Except.bind] at found
  | ok slot =>
    cases slot with
    | none => simp [sits, bind, Except.bind, pure, Except.pure] at found
    | some slot =>
      obtain ⟨denoted, part, held⟩ := slot?_some sits
      simp [sits, held, bind, Except.bind, pure, Except.pure] at found
      exact ⟨slot, denoted, by rw [← found]; exact held, by rw [← found]⟩

theorem elementType_congr (s : Segment) {o o' : Obj} (same : o'.ty = o.ty) :
    elementType o' s = elementType o s := by
  have type : o'.typeName = o.typeName := congrArg Ty.name same
  cases o <;> cases o' <;> simp only [Obj.ty, reduceCtorEq] at same <;>
    simp only [elementType, type]
  all_goals
    cases same
    rfl

theorem slotType?_of_keySlot? {t : Ty} (schema : Schema) (declared : elementType o s = .ok t)
    (denoted : o.keySlot? s.key = some slot) : schema.slotType? o slot = some t := by
  unfold elementType at declared
  split at declared <;> cases declared <;>
    simp only [Obj.keySlot?, Option.map_eq_some_iff] at denoted <;>
    obtain ⟨_, _, rfl⟩ := denoted <;> rfl

variable (ctx : Context)

theorem lends (s : Segment) (o : Obj) : ctx.Lends o [.key s.key] (borrow s o) := by
  simp only [borrow, Edit.bind_apply, Edit.get_apply]
  cases found : slot? o s with
  | error e => exact .failed e
  | ok slot =>
    cases slot with
    | none =>
      refine .absent fun place slot reads => ?_
      obtain ⟨denoted, rfl⟩ := Context.keySlot?_of_reads reads
      rw [List.nil_append, Obj.at?_singleton]
      exact slot?_none found denoted
    | some slot =>
      obtain ⟨denoted, part, held⟩ := slot?_some found
      have reads : ctx.ReadsFrom o [.key s.key] [] slot := .last (Context.source_key.mpr denoted)
      exact .found reads ((Obj.at?_singleton o slot).trans held)

/-- Storing at a position of two sequences of one length, where `back` makes an object of a sequence
that has got new items. -/
theorem storesBoth_item {α : Type} {item : Ty} {items items' : List Obj} {type : String}
    (view : List Obj → α) (back : α → Obj) (length : items'.length = items.length)
    (denoted : ∀ i, s.position type = .ok i →
      ctx.sink (back (view items)) (.key s.key) = some ([], .item i))
    (put : ∀ items i new, back (view (items.set i new)) = (back (view items)).put (.item i) (some new))
    (has : ∀ items i, i < items.length → (back (view items)).hasSlot (.item i) = true)
    (admits : ∀ items i new, item.Conforms new →
      ctx.schema.Admits (back (view items)) (.item i) (some new)) (v : Option Obj) :
    let store (items : List Obj) : Edit AccessError Unit := do
      let i ← Edit.ofExcept (s.position type)
      match v with
      | none => throw (AccessError.unsupported type "null elements")
      | some new =>
        set (back (← Edit.ofExcept
          (((replaceItem item items i new).map view).mapError (s.rejected type))))
    ctx.StoresBoth (back (view items)) (back (view items')) [.key s.key] v
      (store items (back (view items))) (store items' (back (view items'))) := by
  simp only [Edit.bind_apply]
  cases read : s.position type with
  | error e => exact .failed _
  | ok i =>
    cases v with
    | none => exact .failed _
    | some new =>
      rcases replaceItem_both item length i new with ⟨e, first, second⟩ | ⟨first, second, bound, conforms⟩
      · simp only [Edit.bind_apply, Edit.ofExcept_ok_apply, first, second]
        exact .failed _
      · simp only [Edit.bind_apply, Edit.ofExcept_ok_apply, first, second, Except.map, mapError_ok,
          Edit.set_apply, put]
        exact Context.storesBoth_put (denoted i read) (has _ _ bound) (admits _ _ _ conforms)
          (has _ _ (length ▸ bound)) (admits _ _ _ conforms)

theorem storesBoth (s : Segment) (v : Option Obj) {o o' : Obj} (ty : o'.ty = o.ty)
    (length : o'.length? = o.length?) : ctx.StoresBoth o o' [.key s.key] v (write s v o) (write s v o') := by
  have type : o'.typeName = o.typeName := congrArg Ty.name ty
  simp only [write, Edit.bind_apply, Edit.get_apply, type]
  cases o <;> cases o' <;> simp only [Obj.ty, reduceCtorEq] at ty <;> simp only [Obj.view]
  case scalar.scalar => exact .failed _
  case set.set => exact .failed _
  case bean.bean => exact .failed _
  case map.map kind key value entries _ _ _ entries' =>
    cases ty
    have denoted (k : Key) (read : Key.read? key s.key = some k) :
        ctx.sink (.map kind key value entries) (.key s.key) = some ([], .entry k) := by
      simp [Context.sink, Context.slotBy, Obj.keySlot?, read]
    have stores := Context.storesBoth_entry ctx entries' denoted
      (s.rejected (Obj.map kind key value entries).typeName) v
    cases v <;> exact stores
  case list.list kind item items _ _ items' =>
    cases ty
    have denoted (i : Nat) (read : s.position (Obj.list kind item items).typeName = .ok i) :
        ctx.sink (.list kind item items) (.key s.key) = some ([], .item i) := by
      simp [Context.sink, Context.slotBy, Obj.keySlot?, position_ok read]
    have stores := storesBoth_item ctx (ListView.mk kind item) ListView.obj (Option.some.inj length)
      denoted (fun _ _ _ => rfl) (fun _ _ bound => decide_eq_true bound) (fun _ _ _ conforms => conforms) v
    cases v <;> exact stores
  case array.array kind item items _ _ items' =>
    cases ty
    have denoted (i : Nat) (read : s.position (Obj.array kind item items).typeName = .ok i) :
        ctx.sink (.array kind item items) (.key s.key) = some ([], .item i) := by
      simp [Context.sink, Context.slotBy, Obj.keySlot?, position_ok read]
    have stores := storesBoth_item ctx (ArrayView.mk kind item) ArrayView.obj (Option.some.inj length)
      denoted (fun _ _ _ => rfl) (fun _ _ bound => decide_eq_true bound) (fun _ _ _ conforms => conforms) v
    cases v <;> exact stores

theorem borrow_put (part : Obj) (denoted : o.keySlot? s.key = some slot) (has : o.hasSlot slot) :
    borrow s (o.put slot (some part)) = .ok (some [slot]) (o.put slot (some part)) := by
  refine borrow_of_part? ?_ (Obj.part?_put_self part has)
  exact (Obj.keySlot?_congr (Obj.ty_put o slot _) s.key).trans denoted

theorem makesBoth (s : Segment) {o o' : Obj} (ty : o'.ty = o.ty) (length : o'.length? = o.length?) :
    ctx.MakesBoth o o' [.key s.key] (instantiate ctx s o) (instantiate ctx s o') := by
  have type : o'.typeName = o.typeName := congrArg Ty.name ty
  simp only [instantiate, Edit.bind_apply, Edit.get_apply, elementType_congr s ty, type,
    Context.createMissing_congr ctx type]
  cases declared : elementType o s with
  | error e => exact .failed e
  | ok t =>
    simp only [Edit.ofExcept_ok_apply]
    cases created : ctx.createMissing o s s.key t with
    | error e => exact .failed e
    | ok new =>
      simp only [Edit.ofExcept_ok_apply]
      -- Making is writing the created value and lending it: it was written under the key that lends it.
      have stores := storesBoth ctx s (some new) ty length
      generalize write s (some new) o = r at stores
      generalize write s (some new) o' = r' at stores
      cases stores with
      | failed e => exact .failed e
      | nothing isNone => cases isNone
      | @stored place slot writes admits admits' =>
        have reads : ctx.ReadsFrom o [.key s.key] place slot := Context.reads_key writes
        obtain ⟨denoted, rfl⟩ := Context.keySlot?_of_reads reads
        have denoted' := (Obj.keySlot?_congr ty s.key).trans denoted
        have ⟨owner, found, has, _⟩ := admits
        cases found
        have ⟨owner', found', has', _⟩ := admits'
        cases found'
        simp only [Obj.assign_nil, borrow_put new denoted has, borrow_put new denoted' has']
        exact .made reads writes admits admits' ⟨o, t, rfl, slotType?_of_keySlot? _ declared denoted,
          Context.createMissing_ok created⟩

end Indexed

end ObjectGraph
