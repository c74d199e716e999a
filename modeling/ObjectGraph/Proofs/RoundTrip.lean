import ObjectGraph.Proofs.Declared
import ObjectGraph.Proofs.Footprint
import ObjectGraph.Proofs.Preservation

/-! Reading back what was written.

A write that succeeds leaves its value where a read along the same path finds it, be the objects on
the way old ones or made by the write.
-/

set_option autoImplicit false
namespace ObjectGraph
namespace Context

variable {ctx : Context} {o o' part : Obj} {s : Segment} {place : Place} {slot : Slot}

theorem readFrom_cons (ctx : Context) (o : Obj) (s next : Segment) (rest : List Segment) :
    ctx.readFrom o s (next :: rest) =
      match ctx.readFrom o s [] with
      | .ok (some v) =>
        (ctx.readFrom v.obj next rest).map fun w => w.map fun w => ⟨w.obj, v.owned || w.owned⟩
      | .ok none => .ok none
      | .error e => .error e := by
  simp only [readFrom, bind, Except.bind]
  cases ctx.adapter o with
  | error e => rfl
  | ok a =>
    cases read : a.read ctx o s with
    | error e => simp only [read]
    | ok v =>
      cases v with
      | none => simp only [read]; rfl
      | some v => simp only [read]; cases ctx.readFrom v.obj next rest <;> rfl

theorem readFrom_absent (absent : ctx.readFrom o s [] = .ok none) (rest : List Segment) :
    ctx.readFrom o s rest = .ok none := by
  cases rest with
  | nil => exact absent
  | cons next rest => rw [readFrom_cons, absent]

theorem readFrom_of_shared (read : ctx.readFrom o s [] = .ok (some (.shared part))) (next : Segment)
    (rest : List Segment) : ctx.readFrom o s (next :: rest) = ctx.readFrom part next rest := by
  rw [readFrom_cons, read]
  simp only [Value.shared, Bool.false_or]
  rcases ctx.readFrom part next rest with e | w
  · rfl
  · cases w <;> rfl

section Reads
variable (usual : ctx.Usual) (sound : ctx.schema.Sound) (typed : ctx.schema.WellTyped o)
  (reads : ctx.ReadsFrom o s.steps place slot) (held : o.at? (place ++ [slot]) = some part)
include usual sound typed reads held

theorem readFrom_last : ctx.readFrom o s [] = .ok (some (.shared part)) := by
  obtain ⟨a, chosen, _⟩ := usual.adapter reads.unadapted
  rw [readFrom_of_adapter chosen]
  exact read_of_at? usual sound typed chosen reads.unadapted reads held

theorem readFrom_below (next : Segment) (rest : List Segment) :
    ctx.readFrom o s (next :: rest) = ctx.readFrom part next rest :=
  readFrom_of_shared (readFrom_last usual sound typed reads held) next rest

end Reads

/-- What a successful write gave to a slot is read along the same segments. -/
theorem Wrote.read_back {v : Obj} {rest : List Segment} {outcome : Except AccessError Unit}
    (wrote : ctx.Wrote True (some v) s rest o outcome o') (usual : ctx.Usual)
    (sound : ctx.schema.Sound) (typed : ctx.schema.WellTyped o) (vTyped : ctx.schema.WellTyped v)
    (succeeded : outcome = .ok ()) : ctx.readFrom o' s rest = .ok (some (.shared v)) := by
  have values (w : Obj) (same : some v = some w) : ctx.schema.WellTyped w :=
    Option.some.inj same ▸ vTyped
  -- The read runs on what the write left, which is well typed as the object was.
  have typed' := (wrote.keeps usual sound typed values).1
  induction wrote with
  | refused => cases succeeded
  | idle absent => cases absent
  | stored reads admits =>
    exact readFrom_last usual sound typed' ((reads trivial).assign _) (Obj.at?_assign v admits.hasSlotAt)
  | @entered _ _ _ _ _ part' _ _ _ reads held wrote ih =>
    -- The rest of the write changed nothing but what lies below the slot, so the read enters it again.
    have found := Obj.at?_replaceAt_self part' held
    rw [readFrom_below usual sound typed' (reads.replaceAt held part') found]
    exact ih (typed.at? held) succeeded (typed'.at? found)
  | @made _ _ _ _ _ new' _ _ _ _ _ reads _ admits creates wrote ih =>
    have found := Obj.at?_assign new' admits.hasSlotAt
    rw [readFrom_below usual sound typed' (reads.assign _) found]
    exact ih (creates.wellTyped usual sound) succeeded (typed'.at? found)
  | lost => cases succeeded

end Context

/-- In the usual context a value that a write along a path accepted is what a read along the path
gives, where no accessor method claims a name on the path and no class redeclares a field. -/
theorem Navigator.read_write {s : Schema} {n : Navigator} {o v : Obj} {p : Path} (sound : s.Sound)
    (found : n.obj? = some o) (typed : s.WellTyped o) (vTyped : s.WellTyped v)
    (along : (Context.standard s).PlainAlong True o p (some v))
    (accepted : (n.write (.standard s) p (some v)).2 = .ok ()) :
    (n.write (.standard s) p (some v)).1.read (.standard s) p = .ok (some (.shared v)) := by
  have usual := Context.usual_standard s
  have wrote := Context.wrote_writeFrom usual sound typed along
  rcases edit_cases found "writes" ((Context.standard s).writePath p (some v)) with refused | ran
  · rw [write, refused] at accepted
    cases accepted
  · rw [write, ran] at accepted ⊢
    simp only [read, obj?_withObj found]
    exact wrote.read_back usual sound typed vTyped accepted

open Sample in
/-- The city of a home that the write makes in the embedded resident. -/
theorem Navigator.read_write_home : ((writable (tenant "Ann" [])).write (.standard tenancy)
    (.ofString "home.city") (some (.str "Rome"))).1.read (.standard tenancy) (.ofString "home.city") =
      .ok (some (.shared (.str "Rome"))) := by
  have typed : tenancy.WellTyped (tenant "Ann" []) := wellTyped_tenant "Ann" (by simp) (by simp)
  exact read_write tenancy_sound rfl typed (.scalar trivial) (tenancy_fieldsOnly.plainAlong _ _ _ _) rfl

end ObjectGraph
