import ObjectGraph.Proofs.Reading
import ObjectGraph.Proofs.Refusal

/-! Reading and borrowing come to the same.

A write tests by a read whether something is there and then borrows it, so the two have to agree. They
do where slots answer: both are refused alike, both find nothing, or both find what one slot holds. A
write is then never refused because what it has read is not lent.
-/

set_option autoImplicit false
namespace ObjectGraph
namespace Context

/-- Where the object answers the name at all, a slot does: an entry of a map, or a field, since no
accessor method of its class claims the name. -/
structure Slotted (ctx : Context) (o : Obj) (name : String) : Prop where
  unadapted : ctx.schema.adapter? o = none
  served : o.isMap = false → ∀ l, ctx.schema.lineage? o.ty = some l → l.ServedByFields ctx.namer name

inductive SameSlot (ctx : Context) (o : Obj) (steps : List AccessStep) :
    Except AccessError (Option Value) → EStateM.Result AccessError Obj (Option Place) → Prop where
  | failed (e : AccessError) : SameSlot ctx o steps (.error e) (.error e o)
  | absent : SameSlot ctx o steps (.ok none) (.ok none o)
  | found {place : Place} {slot : Slot} {part : Obj} : ctx.ReadsFrom o steps place slot →
    o.at? (place ++ [slot]) = some part →
    SameSlot ctx o steps (.ok (some (.shared part))) (.ok (some (place ++ [slot])) o)

variable {ctx : Context} {o part : Obj} {s : Segment} {name : String}

theorem Slotted.plain (slotted : ctx.Slotted o name) : ctx.Plain o name where
  unadapted := slotted.unadapted
  served type bean isBean beanFound := by
    refine slotted.served ?_ bean.lineage ?_
    · cases o <;> first | rfl | cases isBean
    · rw [isBean, Schema.lineage?, beanFound, Option.map_some]

theorem SameSlot.below {steps more : List AccessStep} {place : Place} {slot : Slot}
    {r : Except AccessError (Option Value)} {edit : Edit AccessError (Option Place)}
    (reads : ctx.ReadsFrom o steps place slot) (held : o.at? (place ++ [slot]) = some part)
    (same : ctx.SameSlot part more r (edit part)) : ctx.SameSlot o (steps ++ more) r ((do
      return (← Edit.lent (place ++ [slot]) edit (return none)).map (place ++ [slot] ++ ·)) o) := by
  simp only [Edit.bind_apply, Edit.lent_of_at? held, Edit.inside_apply]
  generalize edit part = lent at same
  cases same with
  | failed e => simpa only [Obj.replaceAt_at? held] using SameSlot.failed e
  | absent =>
    simp only [Obj.replaceAt_at? held]
    exact .absent
  | @found inner target child onward childHeld =>
    simp only [Obj.replaceAt_at? held]
    have full : o.at? (place ++ [slot] ++ inner ++ [target]) = some child := by
      rw [List.append_assoc, Obj.at?_below held]
      exact childHeld
    rw [Edit.pure_apply, Option.map_some, ← List.append_assoc]
    exact .found (reads.append held onward) full

section Names
variable (sound : ctx.schema.Sound) (typed : ctx.schema.WellTyped o) (slotted : ctx.Slotted o name)
include sound typed slotted

theorem Slotted.sourced {i : Invoker} (notMap : o.isMap = false)
    (found : (ctx.descriptorOf o).getter? name = some i) :
    ∃ place slot, ctx.source o (.property name) = some (place, slot) := by
  obtain ⟨l, lineage, built⟩ := lineage?_of_getter? found
  obtain ⟨c, f, ofField⟩ := Descriptor.getter?_ofField (slotted.served notMap l lineage) built
  obtain ⟨owner, leads⟩ := leadsTo_of_member sound typed found ofField.member
  exact ⟨_, _, source_of_leadsTo notMap slotted.plain found leads⟩

theorem sameSlot_name : ctx.SameSlot o [.property name] (ctx.readName o name)
    (ctx.lendName o.isMap name o) := by
  cases source : ctx.source o (.property name) with
  | some address =>
    obtain ⟨place, slot⟩ := address
    rw [readName_of_source sound typed source, lendName_of_source sound typed source]
    cases held : o.at? (place ++ [slot]) with
    | none => exact .absent
    | some part => exact .found (.last source) held
  | none =>
    unfold readName lendName
    cases kind : o.isMap with
    | true =>
      obtain ⟨read, lent⟩ := unread_of_unsourced kind source
      simp only [if_true, read, lent]
      exact .absent
    | false =>
      simp only [Bool.false_eq_true, if_false, BeanAccess.readProperty, BeanAccess.borrowProperty,
        Edit.bind_apply, Edit.get_apply, Descriptor.getter]
      cases found : (ctx.descriptorOf o).getter? name with
      | none => exact .failed _
      | some i =>
        obtain ⟨_, _, sourced⟩ := slotted.sourced sound typed kind found
        rw [source] at sourced
        cases sourced

end Names

end Context

section Segments
variable {ctx : Context} {o : Obj} {s : Segment}

theorem Indexed.sameSlot (ctx : Context) (o : Obj) (s : Segment) :
    ctx.SameSlot o [.key s.key] (read (.shared o) s) (borrow s o) := by
  have reading : read (.shared o) s =
      (slot? o s).map fun slot => (slot.bind o.part?).map Value.shared := by
    simp only [read, Value.shared, bind, Except.bind]
    cases slot? o s <;> rfl
  simp only [reading, borrow, Edit.bind_apply, Edit.get_apply]
  cases sits : slot? o s with
  | error e => exact .failed e
  | ok slot =>
    cases slot with
    | none => exact .absent
    | some slot =>
      obtain ⟨denoted, part, held⟩ := slot?_some sits
      simp only [Except.map, Option.bind_some, held, Option.map_some, Edit.ofExcept_ok_apply]
      have reads : ctx.ReadsFrom o [.key s.key] [] slot := .last (Context.source_key.mpr denoted)
      exact .found reads ((Obj.at?_singleton o slot).trans held)

theorem Segment.sameSlot_lend {readName : Except AccessError (Option Value)}
    {lendName : Edit AccessError (Option Place)}
    (named : ctx.SameSlot o [.property s.name] readName (lendName o)) :
    ctx.SameSlot o s.steps (s.fetch o readName) (s.lend lendName o) := by
  cases s.shape with
  | name plain =>
    simpa only [fetch, lend, plain, Bool.false_eq_true, if_false, steps_of_name plain] using named
  | key indexed own =>
    rw [fetch_own indexed own, lend_own indexed own, steps_of_key indexed own]
    exact Indexed.sameSlot ctx o s
  | both indexed other =>
    simp only [fetch, lend, containerPlace, indexed, other, if_true, if_false, steps_of_both indexed other]
    rw [Edit.bind_apply]
    generalize lendName o = b at named
    cases named with
    | failed e => exact .failed e
    | absent => exact .absent
    | found reads held => exact (Indexed.sameSlot ctx _ s).below reads held

end Segments

namespace Context

section Paths
variable {ctx : Context} {o : Obj} {s : Segment} (usual : ctx.Usual) (sound : ctx.schema.Sound)
include usual sound

omit sound in
theorem borrowFrom_nil (unadapted : ctx.schema.adapter? o = none) (s : Segment) :
    ctx.borrowFrom s [] o = s.lend (ctx.lendName o.isMap s.name) o := by
  obtain ⟨a, chosen, _⟩ := usual.adapter unadapted
  simp only [borrowFrom, Edit.bind_apply, Edit.get_apply, chosen, Edit.ofExcept_ok_apply,
    borrow_eq usual unadapted chosen]

theorem sameSlot_segment (typed : ctx.schema.WellTyped o) (slotted : ctx.Slotted o s.name) :
    ctx.SameSlot o s.steps (ctx.readFrom o s []) (ctx.borrowFrom s [] o) := by
  rw [readFrom_nil usual slotted.unadapted, borrowFrom_nil usual slotted.unadapted]
  exact Segment.sameSlot_lend (sameSlot_name sound typed slotted)

theorem sameSlot_path {rest : List Segment} (typed : ctx.schema.WellTyped o)
    (along : ctx.AlongRead (fun o s => ctx.Slotted o s.name) s rest o) :
    ctx.SameSlot o ((s :: rest).flatMap Segment.steps) (ctx.readFrom o s rest)
      (ctx.borrowFrom s rest o) := by
  -- On the segments that are left: the first one finds one part in both walks.
  induction rest generalizing s o with
  | nil =>
    rw [List.flatMap_cons, List.flatMap_nil, List.append_nil]
    exact sameSlot_segment usual sound typed along
  | cons next rest ih =>
    have first := sameSlot_segment usual sound typed along.head
    rw [List.flatMap_cons, borrowFrom_cons]
    generalize read : ctx.readFrom o s [] = r at first
    generalize ctx.borrowFrom s [] o = b at first
    cases first with
    | failed e =>
      rw [readFrom_cons, read]
      exact .failed e
    | absent =>
      rw [readFrom_absent read]
      exact .absent
    | @found place slot part reads held =>
      have below := (ih (typed.at? held) (along.2 _ read)).below reads held
      rw [readFrom_of_shared read]
      simp only [Edit.bind_apply] at below ⊢
      generalize Edit.lent (place ++ [slot]) (ctx.borrowFrom next rest) (return none) o = b at below ⊢
      cases b <;> exact below

theorem failsWith_step {creates : Bool} (typed : ctx.schema.WellTyped o)
    (slotted : ctx.Slotted o s.name) (once : ctx.DeclaredOnce o) :
    (ctx.step s creates).FailsWith AccessError.NotOfLending o := by
  obtain ⟨a, chosen, _⟩ := usual.adapter slotted.unadapted
  have same := sameSlot_segment usual sound typed slotted
  rw [borrowFrom_nil usual slotted.unadapted, ← borrow_eq usual slotted.unadapted chosen] at same
  intro e o' failed
  rw [step_eq usual slotted.unadapted chosen rfl] at failed
  generalize read : ctx.readFrom o s [] = r at same failed
  generalize a.borrow ctx s o = b at same failed
  -- Reading and lending end alike, so a part that is read as present is lent and no error says otherwise.
  cases same with
  | failed =>
    cases failed
    rw [readFrom_nil usual slotted.unadapted] at read
    exact Segment.notOfLending_fetch (fun _ => notOfLending_readName) read
  | found => cases failed
  | absent =>
    cases creates with
    | false => cases failed
    | true =>
      have makes : (a.instantiate ctx s).FailsWith AccessError.NotOfLending o := by
        rw [instantiate_eq usual slotted.unadapted chosen]
        refine Segment.failsWith_enter (failsWith_lendName ctx _ _ o) (fun place o => ?_) fun _ => ?_
        · refine .bind (.lent (fun part _ => Indexed.failsWith_instantiate ctx s part) ?_)
            fun _ _ _ => .of_pure _
          exact .of_throw fun _ _ _ => nofun
        · unfold makeName
          split
          · exact failsWith_instantiateKey ctx s o
          next notMap =>
            exact failsWith_instantiateProperty usual sound typed slotted.plain once
              (Bool.eq_false_iff.mpr notMap)
      simp only [if_true] at failed
      split at failed <;> cases failed
      next failed' => exact makes _ _ failed'

theorem failsWith_writeFrom {v : Option Obj} {rest : List Segment} (typed : ctx.schema.WellTyped o)
    (along : ctx.Along v.isSome (fun o s => ctx.Slotted o s.name ∧ ctx.DeclaredOnce o) s rest o) :
    (ctx.writeFrom v s rest).FailsWith AccessError.NotOfLending o := by
  induction rest generalizing s o with
  | nil =>
    have slotted := along.head.1
    obtain ⟨a, chosen, _⟩ := usual.adapter slotted.unadapted
    intro e o' failed
    rw [writeFrom_last usual slotted.unadapted chosen rfl, write_eq usual slotted.unadapted chosen] at failed
    refine Segment.failsWith_enter (failsWith_lendName ctx _ _ o) (fun place o => ?_) (fun _ => ?_) e o' failed
    · refine .lent (fun part _ => Indexed.failsWith_write s v part) ?_
      exact .of_throw fun _ _ _ => nofun
    · exact failsWith_writeName ctx _ s v o
  | cons next rest ih =>
    obtain ⟨slotted, once⟩ := along.head
    refine .bind (failsWith_step usual sound typed slotted once) fun place o' ran => ?_
    cases place with
    | none => exact .of_pure _
    | some place =>
      refine .lent (fun part held => ?_) (.of_pure _)
      have typed' := typed_of_step usual sound typed slotted.plain ran held
      exact ih typed' (along.2 _ _ _ ran held)

end Paths

end Context

namespace Schema.FieldsOnly

variable {s : Schema}

theorem declaredOnce {ctx : Context} (fieldsOnly : ctx.schema.FieldsOnly) (o : Obj) :
    ctx.DeclaredOnce o :=
  fun type bean _ found => (fieldsOnly type bean found).2.2

/-- In a schema without accessor methods every name is answered by slots but the one by which
containers tell whether they are empty. -/
theorem slotted {name : String} (fieldsOnly : s.FieldsOnly) (o : Obj) (ne : name ≠ "empty") :
    (Context.standard s).Slotted o name where
  unadapted := fieldsOnly.unadapted o
  served notMap l lineage := by
    rcases Context.lineage?_cases lineage with ⟨type, bean, _, found, rfl⟩ | rfl
    · intro entry member m mMember
      rw [(fieldsOnly type bean found).2.1 entry member] at mMember
      cases mMember
    · intro entry member m mMember
      cases List.mem_singleton.mp member
      cases List.mem_singleton.mp mMember
      refine ⟨fun claimed => ?_, fun claimed => nomatch claimed⟩
      exact ne (Option.some.inj claimed).symm

end Schema.FieldsOnly

namespace Navigator

/-- Reading a path and borrowing it come to the same and change nothing: both are refused alike, both
find nothing, or both find one part of the graph. What is put in the place of the part, so that the
graph stays well typed, is then read along the path. -/
inductive SameSlot (n : Navigator) (ctx : Context) (p : Path) :
    Except AccessError (Option Value) → Navigator × Except AccessError (Option Place) → Prop where
  | failed (e : AccessError) : SameSlot n ctx p (.error e) (n, .error e)
  | absent : SameSlot n ctx p (.ok none) (n, .ok none)
  | found {place : Place} {part : Obj} : n.part? place = some part →
    (∀ new o', (n.withPart place new).obj? = some o' → ctx.schema.WellTyped o' →
      (n.withPart place new).read ctx p = .ok (some (.shared new))) →
    SameSlot n ctx p (.ok (some (.shared part))) (n, .ok (some place))

/-- Where slots answer all that is asked along a path, an object that may be changed is read and
borrowed alike; and a write that slots answer never fails because what is there is not lent, if no
class on its way redeclares a field. -/
theorem read_borrow {s : Schema} {n : Navigator} {o : Obj} {p : Path} (sound : s.Sound)
    (changeable : n.changeable? = some o) (typed : s.WellTyped o) :
    ((Context.standard s).AlongRead (fun o segment => (Context.standard s).Slotted o segment.name)
        p.first p.rest o →
      n.SameSlot (.standard s) p (n.read (.standard s) p) (n.borrow (.standard s) p)) ∧
    ∀ v, (Context.standard s).Along v.isSome (fun o segment =>
          (Context.standard s).Slotted o segment.name ∧ (Context.standard s).DeclaredOnce o)
        p.first p.rest o →
      ∀ segment type property,
        (n.write (.standard s) p v).2 ≠ .error (.notBorrowable segment type property) := by
  have usual := Context.usual_standard s
  have found := obj?_of_changeable changeable
  constructor
  · intro along
    have same := Context.sameSlot_path usual sound typed along
    have reading : n.read (.standard s) p = (Context.standard s).readFrom o p.first p.rest := by
      simp only [read, found]
      rfl
    have lending : n.borrow (.standard s) p =
        n.edit "writes" ((Context.standard s).borrowFrom p.first p.rest) := by
      simp only [borrow, changeable]
      rfl
    rw [reading, lending]
    simp only [edit, changeable]
    generalize (Context.standard s).readFrom o p.first p.rest = r at same
    generalize (Context.standard s).borrowFrom p.first p.rest o = b at same
    have unchanged : n.withObj o = n := withObj_self found
    cases same with
    | failed e => simpa only [unchanged] using SameSlot.failed e
    | absent => simpa only [unchanged] using SameSlot.absent
    | @found place slot part reads held =>
      simp only [unchanged]
      refine .found ?_ fun new o' after typed' => ?_
      · simp only [part?, found, Option.bind_some, held]
      · -- A new part is put in the place that was lent, and the same steps lead to it.
        have put : (n.withPart (place ++ [slot]) new).obj? =
            some (o.replaceAt (place ++ [slot]) new) := by
          simp only [withPart, found, obj?_withObj found]
        rw [put] at after
        cases after
        simp only [read, put]
        exact Context.readFrom_of_reads usual sound typed' (reads.replaceAt held new)
          (Obj.at?_replaceAt_self new held)
  · intro v along segment type property failed
    rw [write, edit_of_changeable changeable, Edit.outcome] at failed
    split at failed <;> cases failed
    next ran =>
      exact Context.failsWith_writeFrom usual sound typed along _ _ ran segment type property rfl

open Sample in
/-- The name of the embedded resident is read and borrowed alike, and the home that is made for its
city is lent. -/
theorem read_borrow_name :
    (writable (tenant "Ann" [])).SameSlot (.standard tenancy) (.ofString "name")
      (.ok (some (.shared (.str "Ann"))))
      (writable (tenant "Ann" []), .ok (some [.field "resident", .field "name"])) ∧
    ∀ segment type property, ((writable (tenant "Ann" [])).write (.standard tenancy)
      (.ofString "home.city") (some (.str "Rome"))).2 ≠ .error (.notBorrowable segment type property) := by
  have typed : tenancy.WellTyped (tenant "Ann" []) := wellTyped_tenant "Ann" (by simp) (by simp)
  have slotted (o : Obj) (name : String) (ne : name ≠ "empty") :
      (Context.standard tenancy).Slotted o name := tenancy_fieldsOnly.slotted o ne
  have once (o : Obj) : (Context.standard tenancy).DeclaredOnce o := tenancy_fieldsOnly.declaredOnce o
  constructor
  · exact (read_borrow (n := writable (tenant "Ann" [])) (p := .ofString "name") tenancy_sound rfl
      typed).1 (slotted _ _ (by decide))
  · refine (read_borrow tenancy_sound rfl typed).2 _ ⟨⟨slotted _ _ (by decide), once _⟩, ?_⟩
    exact fun _ _ part _ _ => ⟨slotted part _ (by decide), once part⟩

end Navigator

end ObjectGraph
