import ObjectGraph.Proofs.RoundTrip

/-! What a write leaves alone.

A write along one path changes nothing that a read along another path sees, where the two paths go
through the same slots down to a container and there address different ones: the read gives the same
value, the same absence or the same error as before, whatever the write comes to. A write by position
never changes the number of positions.
-/

set_option autoImplicit false
namespace ObjectGraph

namespace Indexed

variable {o o' : Obj} {s : Segment} {slot : Slot}

theorem slot?_congr (denoted : o.keySlot? s.key = some slot) (ty : o'.ty = o.ty)
    (length : o'.length? = o.length?) (part : o'.part? slot = o.part? slot) :
    slot? o' s = slot? o s := by
  cases o <;> cases o' <;> simp only [Obj.ty, reduceCtorEq] at ty <;>
    simp only [Obj.keySlot?, reduceCtorEq] at denoted
  case list.list =>
    cases ty
    simp only [Obj.length?, Option.some.injEq] at length
    simp only [slot?, length, Obj.typeName, Obj.ty]
  case array.array =>
    cases ty
    simp only [Obj.length?, Option.some.injEq] at length
    simp only [slot?, length, Obj.typeName, Obj.ty]
  case map.map =>
    cases ty
    obtain ⟨k, read, rfl⟩ := Option.map_eq_some_iff.mp denoted
    simp only [Obj.part?] at part
    simp only [slot?, read, part]

theorem read_congr (denoted : o.keySlot? s.key = some slot) (ty : o'.ty = o.ty)
    (length : o'.length? = o.length?) (part : o'.part? slot = o.part? slot) (owned : Bool) :
    read ⟨o', owned⟩ s = read ⟨o, owned⟩ s := by
  simp only [read, slot?_congr denoted ty length part, bind, Except.bind]
  cases found : slot? o s with
  | error e => rfl
  | ok slot =>
    cases slot with
    | none => rfl
    | some other =>
      have same := (slot?_some found).1
      rw [denoted] at same
      cases same
      simp only [Option.bind_some, part]

end Indexed

namespace Context

/-- The objects are the same, or well-typed ones that agree off a place which parts from what the
steps address. -/
def Alike (ctx : Context) (steps : List AccessStep) (o o' : Obj) : Prop :=
  o' = o ∨ ctx.schema.WellTyped o ∧ ctx.schema.WellTyped o' ∧
    ∃ place, Obj.AgreeOff place o o' ∧ Diverge place (ctx.footprint o steps)

def SameRead (ctx : Context) (steps : List AccessStep) (r r' : Except AccessError (Option Value)) :
    Prop :=
  r' = r ∨ ∃ part part', r = .ok (some (.shared part)) ∧ r' = .ok (some (.shared part')) ∧
    ctx.Alike steps part part'

variable {ctx : Context} {o o' : Obj} {a : AccessStep} {steps : List AccessStep}

theorem Alike.step (alike : ctx.Alike (a :: steps) o o') :
    o' = o ∨ ctx.schema.WellTyped o ∧ ctx.schema.WellTyped o' ∧ o'.ty = o.ty ∧
      o'.length? = o.length? ∧ ∃ place slot, ctx.source o a = some (place, slot) ∧
        ctx.source o' a = some (place, slot) ∧
        (o'.at? (place ++ [slot]) = o.at? (place ++ [slot]) ∨
          ∃ part part', o.at? (place ++ [slot]) = some part ∧
            o'.at? (place ++ [slot]) = some part' ∧ ctx.Alike steps part part') := by
  rcases alike with same | ⟨typed, typed', p, agree, diverge⟩
  · exact .inl same
  have nonempty : p ≠ [] := by
    rintro rfl
    exact diverge.symm.not_nil
  refine .inr ⟨typed, typed', agree.ty nonempty, agree.length? nonempty, ?_⟩
  cases found : ctx.source o a with
  | none =>
    simp only [footprint, found] at diverge
    exact diverge.not_nil.elim
  | some sink =>
    obtain ⟨place, slot⟩ := sink
    refine ⟨place, slot, rfl, (slotBy_congr (agree.ty nonempty) a).trans found, ?_⟩
    simp only [footprint, found] at diverge
    -- The place parts from what this step addresses, or goes on below it and parts from the rest.
    rcases diverge.of_append with parted | ⟨below, rfl, parted⟩
    · exact .inl (agree.at? parted)
    · cases held : o.at? (place ++ [slot]) with
      | none =>
        rw [held] at parted
        exact parted.not_nil.elim
      | some part =>
        rw [held] at parted
        have more : below ≠ [] := by
          rintro rfl
          exact parted.symm.not_nil
        obtain ⟨part', held', agree⟩ := agree.descend held more
        exact .inr ⟨part, part', rfl, held', .inr ⟨typed.at? held, typed'.at? held',
          below, agree, parted⟩⟩

theorem Alike.of_nil (alike : ctx.Alike [] o o') : o' = o := by
  rcases alike with same | ⟨_, _, _, _, diverge⟩
  · exact same
  · exact diverge.not_nil.elim

theorem Alike.start {s : Segment} (alike : ctx.Alike (s.steps ++ steps) o o') :
    o' = o ∨ ctx.schema.WellTyped o ∧ ctx.schema.WellTyped o' ∧ o'.ty = o.ty ∧
      o'.length? = o.length? ∧ ∃ a ∈ s.steps.head?, (ctx.source o a).isSome := by
  obtain ⟨a, more, split⟩ := s.steps_eq_cons
  rw [split, List.cons_append] at alike
  rcases alike.step with same | ⟨typed, typed', ty, length, _, _, source, _⟩
  · exact .inl same
  · refine .inr ⟨typed, typed', ty, length, a, by rw [split]; rfl, ?_⟩
    rw [source]
    rfl

theorem sameRead_key {s : Segment} (alike : ctx.Alike (.key s.key :: steps) o o') :
    ctx.SameRead steps (Indexed.read (.shared o) s) (Indexed.read (.shared o') s) := by
  rcases alike.step with rfl | ⟨_, _, ty, length, place, slot, source, _, held⟩
  · exact .inl rfl
  · obtain ⟨denoted, rfl⟩ := keySlot?_of_reads (.last source)
    simp only [List.nil_append, Obj.at?_singleton] at held
    rcases held with same | ⟨part, part', held, held', alike⟩
    · exact .inl (Indexed.read_congr denoted ty length same false)
    · have denoted' := (Obj.keySlot?_congr ty s.key).trans denoted
      exact .inr ⟨part, part', Indexed.read_of_part? false denoted held,
        Indexed.read_of_part? false denoted' held', alike⟩

section Reads
variable (usual : ctx.Usual) (sound : ctx.schema.Sound)
include sound

theorem sameRead_name {name : String} (alike : ctx.Alike (.property name :: steps) o o') :
    ctx.SameRead steps (ctx.readName o name) (ctx.readName o' name) := by
  rcases alike.step with rfl | ⟨typed, typed', _, _, place, slot, source, source', held⟩
  · exact .inl rfl
  · rw [readName_of_source sound typed source, readName_of_source sound typed' source']
    rcases held with same | ⟨part, part', held, held', alike⟩
    · exact .inl (by rw [same])
    · exact .inr ⟨part, part', by rw [held]; rfl, by rw [held']; rfl, alike⟩

theorem sameRead_fetch {s : Segment} (alike : ctx.Alike (s.steps ++ steps) o o') :
    ctx.SameRead steps (s.fetch o (ctx.readName o s.name)) (s.fetch o' (ctx.readName o' s.name)) := by
  unfold Segment.fetch
  cases s.shape with
  | name named =>
    rw [Segment.steps_of_name named] at alike
    simp only [named, Bool.false_eq_true, if_false]
    exact sameRead_name sound alike
  | key indexed own =>
    rw [Segment.steps_of_key indexed own] at alike
    simp only [indexed, own, if_true]
    exact sameRead_key alike
  | both indexed other =>
    rw [Segment.steps_of_both indexed other] at alike
    simp only [indexed, other, if_true, if_false]
    rcases sameRead_name sound alike with same | ⟨part, part', read, read', alike⟩
    · exact .inl (by rw [same])
    · rw [read, read']
      exact sameRead_key alike

include usual

omit sound in
theorem readFrom_nil (unadapted : ctx.schema.adapter? o = none) (s : Segment) :
    ctx.readFrom o s [] = s.fetch o (ctx.readName o s.name) := by
  obtain ⟨a, chosen, _⟩ := usual.adapter unadapted
  rw [readFrom_of_adapter chosen, read_eq usual unadapted chosen]

theorem sameRead_segment {s : Segment} (alike : ctx.Alike (s.steps ++ steps) o o') :
    ctx.SameRead steps (ctx.readFrom o s []) (ctx.readFrom o' s []) := by
  rcases alike.start with rfl | ⟨_, _, ty, _, a, _, sourced⟩
  · exact .inl rfl
  · obtain ⟨_, source⟩ := Option.isSome_iff_exists.mp sourced
    have unadapted := unadapted_of_source source
    rw [readFrom_nil usual unadapted, readFrom_nil usual ((adapter?_congr ty).trans unadapted)]
    exact sameRead_fetch sound alike

/-- A read along segments gives the same for objects that are alike for their steps. -/
theorem readFrom_alike {s : Segment} {rest : List Segment}
    (alike : ctx.Alike ((s :: rest).flatMap Segment.steps) o o') :
    ctx.readFrom o' s rest = ctx.readFrom o s rest := by
  induction rest generalizing s o o' with
  | nil =>
    rw [List.flatMap_cons, List.flatMap_nil] at alike
    rcases sameRead_segment usual sound alike with same | ⟨part, part', read, read', alike⟩
    · exact same
    · rw [read, read', alike.of_nil]
  | cons next rest ih =>
    rw [List.flatMap_cons] at alike
    rw [readFrom_cons, readFrom_cons]
    rcases sameRead_segment usual sound alike with same | ⟨part, part', read, read', alike⟩
    · rw [same]
    · rw [read, read']
      simp only [Value.shared, ih alike]

end Reads

end Context

/-- A write changes nothing for a read along a path that goes through the same slots and then parts
from them, whatever the write comes to, and no number of positions on its own way. -/
theorem Navigator.write_frame {s : Schema} {n : Navigator} {o : Obj} {p : Path} {v : Option Obj}
    (sound : s.Sound) (found : n.obj? = some o) (typed : s.WellTyped o)
    (values : ∀ w, v = some w → s.WellTyped w) (along : (Context.standard s).PlainAlong True o p v) :
    (∀ q, Diverge ((Context.standard s).footprint o p.steps) ((Context.standard s).footprint o q.steps) →
      (n.write (.standard s) p v).1.read (.standard s) q = n.read (.standard s) q) ∧
    ∃ o', (n.write (.standard s) p v).1.obj? = some o' ∧ ∀ place i part,
      place ++ [.item i] <+: (Context.standard s).footprint o p.steps → o.at? place = some part →
        ∃ part', o'.at? place = some part' ∧ part'.length? = part.length? := by
  have usual := Context.usual_standard s
  have wrote := Context.wrote_writeFrom usual sound typed along
  rcases edit_cases found "writes" ((Context.standard s).writePath p v) with refused | ran
  · rw [write, refused]
    exact ⟨fun _ _ => rfl, o, found, fun _ _ part _ held => ⟨part, held, rfl⟩⟩
  · rw [write, ran]
    have agree := wrote.agreeOff
    refine ⟨fun q diverge => ?_, _, obj?_withObj found _, ?_⟩
    · simp only [read, obj?_withObj found, found]
      exact Context.readFrom_alike usual sound
        (.inr ⟨typed, (wrote.keeps usual sound typed values).1, _, agree, diverge⟩)
    · intro place i part within held
      obtain ⟨below, same⟩ := within
      rw [Path.steps, Path.segments] at same
      rw [← same, List.append_assoc] at agree
      obtain ⟨part', held', agree⟩ := agree.descend held (by simp)
      exact ⟨part', held', agree.length? (by simp)⟩

open Sample in
/-- The name of a tenant stays when the embedded resident is given a home, and a room that is written
leaves as many rooms. -/
theorem Navigator.write_frame_tenant :
    ((writable (tenant "Ann" [])).write (.standard tenancy) (.ofString "home.city")
      (some (.str "Rome"))).1.read (.standard tenancy) (.ofString "name") =
        .ok (some (.shared (.str "Ann"))) ∧
    ∃ o', ((writable (.list .vec (.int .u8) [.int .u8 1])).write (.standard tenancy)
      (.ofString "[00]") (some (.int .u8 2))).1.obj? = some o' ∧ o'.length? = some 1 := by
  constructor
  · have typed : tenancy.WellTyped (tenant "Ann" []) := wellTyped_tenant "Ann" (by simp) (by simp)
    have city (w : Obj) (same : some (Obj.str "Rome") = some w) : tenancy.WellTyped w :=
      Option.some.inj same ▸ .scalar trivial
    have frame := (write_frame (n := writable (tenant "Ann" [])) tenancy_sound rfl typed city
      (tenancy_fieldsOnly.plainAlong _ _ (.ofString "home.city") _)).1 (.ofString "name")
    rw [frame ⟨[.field "resident"], .field "home", .field "name", by decide, by decide, by decide⟩]
    rfl
  · have room (i : Int) (contained : IntType.contains .u8 i = true) :
        tenancy.WellTyped (.int .u8 i) := .scalar contained
    have typed : tenancy.WellTyped (.list .vec (.int .u8) [.int .u8 1]) := by
      refine .list ?_ ?_ <;> intro x member <;> cases List.mem_singleton.mp member
      · exact Ty.accepts_iff.mp rfl
      · exact room 1 (by decide)
    have given (w : Obj) (same : some (Obj.int .u8 2) = some w) : tenancy.WellTyped w :=
      Option.some.inj same ▸ room 2 (by decide)
    obtain ⟨o', written, kept⟩ := (write_frame (n := writable (.list .vec (.int .u8) [.int .u8 1]))
      tenancy_sound rfl typed given (tenancy_fieldsOnly.plainAlong _ _ (.ofString "[00]") _)).2
    obtain ⟨_, same, length⟩ := kept [] 0 _ (by decide) rfl
    cases same
    exact ⟨o', written, length⟩

end ObjectGraph
