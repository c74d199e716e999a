import ObjectGraph.Proofs.Composition
import ObjectGraph.Proofs.Frame

/-! What a read along a path meets.

A read asks one object after the other. What it gives sits in the slot that the steps of the path
address, or it comes from no slot: whether a container is empty is computed, and nothing can be read
from the answer.
-/

set_option autoImplicit false
namespace ObjectGraph

/-! The name in front of a bracket is a segment of its own, without a key -/

theorem Segment.name_mk_name (s : Segment) : (⟨s.name⟩ : Segment).name = s.name :=
  (Written.plain s.written.not_mem_name).read.1

theorem Segment.isIndexed_mk_name (s : Segment) : (⟨s.name⟩ : Segment).isIndexed = false := by
  rw [isIndexed, (Written.plain s.written.not_mem_name).read.2, Option.isSome_none]

namespace Context

/-- The property holds of every object that a read along the segments asks, together with the segment
that the object answers. -/
def AlongRead (ctx : Context) (P : Obj → Segment → Prop) (s : Segment) : List Segment → Obj → Prop
  | [], o => P o s
  | next :: rest, o =>
    P o s ∧ ∀ v, ctx.readFrom o s [] = .ok (some v) → AlongRead ctx P next rest v.obj

variable {ctx : Context} {o o' part : Obj} {s : Segment} {steps more : List AccessStep}
  {place below : Place} {slot target : Slot}

theorem AlongRead.head {P : Obj → Segment → Prop} {rest : List Segment}
    (along : ctx.AlongRead P s rest o) : P o s := by
  cases rest with
  | nil => exact along
  | cons next rest => exact along.1

theorem AlongRead.of_all {P : Obj → Segment → Prop} (all : ∀ o s, P o s) (s : Segment)
    (rest : List Segment) (o : Obj) : ctx.AlongRead P s rest o := by
  induction rest generalizing s o with
  | nil => exact all o s
  | cons next rest ih => exact ⟨all o s, fun v _ => ih next v.obj⟩

theorem readFrom_present {next : Segment} {rest : List Segment} {w : Value}
    (present : ctx.readFrom o s (next :: rest) = .ok (some w)) :
    ∃ v x, ctx.readFrom o s [] = .ok (some v) ∧ ctx.readFrom v.obj next rest = .ok (some x) ∧
      w = ⟨x.obj, v.owned || x.owned⟩ := by
  rw [readFrom_cons] at present
  split at present
  next v found =>
    cases onward : ctx.readFrom v.obj next rest with
    | error e => rw [onward] at present; cases present
    | ok x =>
      cases x with
      | none => rw [onward] at present; cases present
      | some x => rw [onward] at present; cases present; exact ⟨v, x, found, onward, rfl⟩
  · cases present
  · cases present

def readAll (ctx : Context) (o : Obj) : List Segment → Except AccessError (Option Value)
  | [] => .ok (some (.shared o))
  | s :: rest => ctx.readFrom o s rest

theorem readAll_cons_of_shared {part : Obj} (read : ctx.readFrom o s [] = .ok (some (.shared part)))
    (rest : List Segment) : ctx.readAll o (s :: rest) = ctx.readAll part rest := by
  cases rest with
  | nil => exact read
  | cons next rest => exact readFrom_of_shared read next rest

/-! Steps put end to end -/

theorem Reaches.append {last : Obj → AccessStep → Option (Place × Slot)}
    (reads : ctx.ReadsFrom o steps place slot) (held : o.at? (place ++ [slot]) = some part)
    (reaches : ctx.Reaches last part more below target) :
    ctx.Reaches last o (steps ++ more) (place ++ [slot] ++ below) target := by
  induction reads with
  | last found => exact .step found held reaches
  | @step o child a steps first inner u w found childHeld _ ih =>
    rw [List.append_assoc, Obj.at?_below childHeld] at held
    have same : first ++ [u] ++ inner ++ [w] ++ below = first ++ [u] ++ (inner ++ [w] ++ below) := by
      simp only [List.append_assoc]
    rw [List.cons_append, same]
    exact .step found childHeld (ih held)

theorem Reaches.split {last : Obj → AccessStep → Option (Place × Slot)} (nonempty : steps ≠ [])
    (more_nonempty : more ≠ []) (reaches : ctx.Reaches last o (steps ++ more) place slot) :
    ∃ first u part below, ctx.ReadsFrom o steps first u ∧ o.at? (first ++ [u]) = some part ∧
      ctx.Reaches last part more below slot ∧ place = first ++ [u] ++ below := by
  induction steps generalizing o place with
  | nil => exact absurd rfl nonempty
  | cons a steps ih =>
    rw [List.cons_append] at reaches
    generalize joined : steps ++ more = rest at reaches
    cases reaches with
    | last => exact absurd (List.append_eq_nil_iff.mp joined).2 more_nonempty
    | @step _ child _ _ first inner u _ found held reaches =>
      subst joined
      cases steps with
      | nil => exact ⟨first, u, child, inner, .last found, held, reaches, rfl⟩
      | cons b steps =>
        obtain ⟨deep, w, part, below, reads, partHeld, onward, rfl⟩ := ih (by simp) reaches
        refine ⟨first ++ [u] ++ deep, w, part, below, .step found held reads, ?_, onward, ?_⟩
        · rw [List.append_assoc, Obj.at?_below held]
          exact partHeld
        · simp only [List.append_assoc]

section Reads
variable (usual : ctx.Usual) (sound : ctx.schema.Sound)
include usual sound

theorem readFrom_of_reads {rest : List Segment} (typed : ctx.schema.WellTyped o)
    (reads : ctx.ReadsFrom o ((s :: rest).flatMap Segment.steps) place slot)
    (held : o.at? (place ++ [slot]) = some part) :
    ctx.readFrom o s rest = .ok (some (.shared part)) := by
  have nonempty (s : Segment) : s.steps ≠ [] := by
    obtain ⟨_, _, split⟩ := s.steps_eq_cons
    rw [split]
    exact List.cons_ne_nil _ _
  induction rest generalizing s o place with
  | nil =>
    rw [List.flatMap_cons, List.flatMap_nil, List.append_nil] at reads
    exact readFrom_last usual sound typed reads held
  | cons next rest ih =>
    rw [List.flatMap_cons] at reads
    have goes_on : (next :: rest).flatMap Segment.steps ≠ [] := by
      rw [List.flatMap_cons]
      exact List.append_ne_nil_of_left_ne_nil (nonempty next) _
    obtain ⟨first, u, child, below, enters, childHeld, onward, rfl⟩ :=
      Reaches.split (nonempty s) goes_on reads
    rw [List.append_assoc, Obj.at?_below childHeld] at held
    rw [readFrom_below usual sound typed enters childHeld]
    exact ih (typed.at? childHeld) onward held

end Reads

/-! Names that no slot answers -/

/-- What a name without a slot reads as in two objects of one type: one error, nothing, or truth
values on their own. -/
inductive Computed : Except AccessError (Option Value) → Except AccessError (Option Value) → Prop where
  | failed (e : AccessError) : Computed (.error e) (.error e)
  | absent : Computed (.ok none) (.ok none)
  | truth (b b' : Bool) : Computed (.ok (some (.detached (.bool b)))) (.ok (some (.detached (.bool b'))))

theorem read_collection {namer : PropertyNamer} {i : Invoker}
    (member : i ∈ (Lineage.single .collection).readers namer)
    (accepted : Target.container.accepts o = true) :
    i.read o = .ok (some (.detached (.bool (Class.isEmptyContainer o)))) := by
  rcases List.mem_append.mp member with member | member
  · obtain ⟨entry, entryMember, member⟩ := List.mem_flatMap.mp member
    cases List.mem_singleton.mp entryMember
    obtain ⟨m, mMember, made⟩ := List.mem_filterMap.mp member
    obtain ⟨property, _, rfl⟩ := Option.map_eq_some_iff.mp made
    cases List.mem_singleton.mp mMember
    simp only [Invoker.read, Upcast.follow, Invoker.readMember, Method.callGet, Lineage.single,
      Class.collection, Target.check, accepted, if_true, bind, Except.bind, pure, Except.pure,
      mapError_ok]
  · obtain ⟨entry, entryMember, member⟩ := List.mem_flatMap.mp member
    cases List.mem_singleton.mp entryMember
    cases member

theorem unread_of_unsourced {name : String} (isMap : o.isMap = true)
    (unsourced : ctx.source o (.property name) = none) :
    MapAccess.readKey o name = .ok none ∧ MapAccess.borrowKey name o = .ok none o := by
  obtain ⟨kind, key, value, entries, rfl⟩ := map_of_isMap isMap
  have unread : Key.read? key name = none := by
    simpa [source, slotBy, isMap, Obj.keySlot?] using unsourced
  have lent : MapAccess.borrowKey name (.map kind key value entries) =
      .ok (MapAccess.keyPlace ⟨kind, key, value, entries⟩ name) (.map kind key value entries) := rfl
  simp only [lent, MapAccess.readKey, MapAccess.asMap, Obj.view, MapView.get?, MapAccess.keyPlace,
    bind, Except.bind, pure, Except.pure, unread, Option.map_none, and_self]

section Named
variable {name : String} (sound : ctx.schema.Sound) (typed : ctx.schema.WellTyped o)
  (plain : ctx.Plain o name)
include sound typed plain

theorem container_of_unsourced {i : Invoker} (notMap : o.isMap = false)
    (unsourced : ctx.source o (.property name) = none)
    (found : (ctx.descriptorOf o).getter? name = some i) :
    i ∈ (Lineage.single .collection).readers ctx.namer ∧ Target.container.accepts o = true := by
  obtain ⟨l, lineage, built⟩ := lineage?_of_getter? found
  cases o with
  | bean type fields =>
    -- Of a bean a field serves the name, and the field is a slot.
    obtain ⟨bean, beanFound, rfl⟩ := Option.map_eq_some_iff.mp lineage
    obtain ⟨c, f, ofField⟩ := Descriptor.getter?_ofField (plain.served type bean rfl beanFound) built
    obtain ⟨owner, leads⟩ := leadsTo_of_member sound typed found ofField.member
    rw [source_of_leadsTo notMap plain found leads] at unsourced
    cases unsourced
  | scalar => cases lineage
  | map => cases notMap
  | list | array | set =>
    cases lineage
    rw [Descriptor.getter?_build] at built
    exact ⟨List.mem_of_find?_eq_some built, rfl⟩

/-- A name that addresses no slot of an object addresses none of another object of its type, and both
answer it alike. -/
theorem computed_readName (unsourced : ctx.source o (.property name) = none) (ty : o'.ty = o.ty) :
    Computed (ctx.readName o name) (ctx.readName o' name) := by
  unfold readName
  rw [isMap_congr ty]
  cases kind : o.isMap with
  | true =>
    have unsourced' := (slotBy_congr ty _).trans unsourced
    simp only [if_true, (unread_of_unsourced kind unsourced).1,
      (unread_of_unsourced ((isMap_congr ty).trans kind) unsourced').1]
    exact .absent
  | false =>
    simp only [Bool.false_eq_true, if_false, BeanAccess.readProperty, Descriptor.getter,
      descriptorOf_congr ty]
    cases found : (ctx.descriptorOf o).getter? name with
    | none => exact .failed _
    | some i =>
      obtain ⟨member, accepted⟩ := container_of_unsourced sound typed plain kind unsourced found
      have accepted' : Target.container.accepts o' = true := by
        cases o <;> cases accepted <;> cases o' <;> first | rfl | cases ty
      simp only [bind, Except.bind, read_collection member accepted, read_collection member accepted']
      exact .truth _ _

end Named

section Present
variable (usual : ctx.Usual) (sound : ctx.schema.Sound) (typed : ctx.schema.WellTyped o)
include usual sound typed

/-- What is read as present sits in the slot that the steps address, or it is a truth value on its
own. -/
theorem reads_or_truth (plain : ctx.Plain o s.name) {v : Value}
    (present : ctx.readFrom o s [] = .ok (some v)) :
    (∃ place slot, ctx.ReadsFrom o s.steps place slot ∧ o.at? (place ++ [slot]) = some v.obj) ∨
      ∃ b, v = .detached (.bool b) := by
  obtain ⟨a, chosen, _⟩ := usual.adapter plain.unadapted
  by_cases sourced : ∃ b ∈ s.steps.head?, (ctx.source o b).isSome
  · rw [readFrom_of_adapter chosen] at present
    exact .inl (reads_of_read usual sound typed chosen plain.unadapted sourced present)
  rw [readFrom_nil usual plain.unadapted] at present
  cases s.shape with
  | name unindexed =>
    have unsourced : ctx.source o (.property s.name) = none := by
      rw [Segment.steps_of_name unindexed] at sourced
      simpa using sourced
    have computed := computed_readName sound typed plain unsourced rfl
    rw [Segment.fetch_name unindexed] at present
    generalize ctx.readName o s.name = r at computed present
    cases computed <;> cases present
    exact .inr ⟨_, rfl⟩
  | key indexed own =>
    rw [Segment.fetch_own indexed own] at present
    obtain ⟨slot, denoted, _⟩ := Indexed.part?_of_read present
    refine absurd ⟨.key s.key, ?_, ?_⟩ sourced
    · rw [Segment.steps_of_key indexed own]; rfl
    · rw [source_key.mpr denoted]; rfl
  | both indexed other =>
    have unsourced : ctx.source o (.property s.name) = none := by
      rw [Segment.steps_of_both indexed other] at sourced
      simpa using sourced
    -- A truth value cannot be indexed.
    have computed := computed_readName sound typed plain unsourced rfl
    rw [Segment.fetch_other indexed other] at present
    generalize ctx.readName o s.name = r at computed present
    cases computed <;> cases present

omit typed sound in
theorem readFrom_truth (b : Bool) (s : Segment) (rest : List Segment) :
    ∃ e, ctx.readFrom (.bool b) s rest = .error e := by
  have first : ∃ e, ctx.readFrom (.bool b) s [] = .error e := by
    rw [readFrom_nil usual rfl]
    cases s.shape with
    | name unindexed =>
      rw [Segment.fetch_name unindexed]
      exact ⟨_, rfl⟩
    | key indexed own =>
      rw [Segment.fetch_own indexed own]
      exact ⟨_, rfl⟩
    | both indexed other =>
      rw [Segment.fetch_other indexed other]
      exact ⟨_, rfl⟩
  cases rest with
  | nil => exact first
  | cons next rest =>
    obtain ⟨e, failed⟩ := first
    rw [readFrom_cons, failed]
    exact ⟨e, rfl⟩

end Present

end Context

end ObjectGraph
