import ObjectGraph.Proofs.Writing

/-! Footprints: the slots that a path addresses.

The footprint of a path lists the slots that its steps address, from the outside in, up to the first
empty one. A write along the path gives a graph that agrees with the former one off the footprint,
and whatever agrees off a continuation of a footprint addresses the same slots.
-/

set_option autoImplicit false
namespace ObjectGraph
namespace Context

variable (ctx : Context)

/-- The slots that steps address, from the outside in, up to the first empty one. -/
def footprint : Obj → List AccessStep → Place
  | _, [] => []
  | o, a :: steps =>
    match ctx.source o a with
    | some (place, slot) => place ++ [slot] ++
      match o.at? (place ++ [slot]) with
      | some part => footprint part steps
      | none => []
    | none => []

variable {ctx} {o o' part : Obj} {steps rest : List AccessStep} {place : Place} {slot : Slot}

theorem Reaches.footprint_append (reads : ctx.ReadsFrom o steps place slot) :
    ctx.footprint o (steps ++ rest) = place ++ [slot] ++
      match o.at? (place ++ [slot]) with
      | some part => ctx.footprint part rest
      | none => [] := by
  induction reads with
  | last found => simp only [List.singleton_append, footprint, found]
  | @step o part a steps place below slot target found held _ ih =>
    -- The last slot is looked up in the part that the first step leads to.
    have sits : o.at? (place ++ [slot] ++ below ++ [target]) = part.at? (below ++ [target]) := by
      rw [List.append_assoc, Obj.at?_below held]
    rw [sits]
    simp only [List.cons_append, footprint, found, held, ih, List.append_assoc]

theorem Reaches.footprint_last (reads : ctx.ReadsFrom o steps place slot) :
    ctx.footprint o (steps ++ []) = place ++ [slot] := by
  rw [reads.footprint_append]
  cases o.at? (place ++ [slot]) <;> simp only [footprint, List.append_nil]

theorem Reaches.of_agreeOff {below : Place} (reads : ctx.ReadsFrom o steps place slot)
    (agree : Obj.AgreeOff (place ++ [slot] ++ below) o o') : ctx.ReadsFrom o' steps place slot := by
  induction reads generalizing o' with
  | last found =>
    have same : o'.ty = _ := agree.ty (by simp)
    exact .last ((slotBy_congr same _).trans found)
  | @step o part a steps place inner slot target found held _ ih =>
    have same : o'.ty = o.ty := agree.ty (by simp)
    simp only [List.append_assoc] at agree
    rw [← List.append_assoc] at agree
    -- The step leads to a part of `o'` that agrees with the one of `o` below the slot.
    obtain ⟨part', held', agree⟩ := agree.descend held (by simp)
    refine .step ((slotBy_congr same _).trans found) held' (ih ?_)
    simpa only [List.append_assoc] using agree

theorem Reaches.of_agreeOff_slot (reads : ctx.ReadsFrom o steps place slot)
    (agree : Obj.AgreeOff (place ++ [slot]) o o') : ctx.ReadsFrom o' steps place slot := by
  rw [← List.append_nil (place ++ [slot])] at agree
  exact reads.of_agreeOff agree

theorem Reaches.assign (reads : ctx.ReadsFrom o steps place slot) (v : Option Obj) :
    ctx.ReadsFrom (o.assign place slot v) steps place slot :=
  reads.of_agreeOff_slot (Obj.agreeOff_assign o place slot v)

theorem Reaches.replaceAt (reads : ctx.ReadsFrom o steps place slot)
    (held : o.at? (place ++ [slot]) = some part) (new : Obj) :
    ctx.ReadsFrom (o.replaceAt (place ++ [slot]) new) steps place slot :=
  reads.of_agreeOff_slot (Obj.agreeOff_replaceAt_slot held new)

/-- A write along a path changes nothing off the path's footprint. -/
theorem Wrote.agreeOff {v : Option Obj} {s : Segment} {segments : List Segment}
    {outcome : Except AccessError Unit} (wrote : ctx.Wrote True v s segments o outcome o') :
    Obj.AgreeOff (ctx.footprint o ((s :: segments).flatMap Segment.steps)) o o' := by
  induction wrote with
  | refused => exact .refl _ _
  | idle => exact .refl _ _
  | stored reads admits =>
    rw [List.flatMap_cons, List.flatMap_nil, (reads trivial).footprint_last]
    exact Obj.agreeOff_assign _ _ _ _
  | entered reads held _ ih =>
    rw [List.flatMap_cons, reads.footprint_append, held]
    exact Obj.agreeOff_replaceAt held ih
  | made _ _ reads empty _ _ _ ih =>
    rw [List.flatMap_cons, reads.footprint_append, empty, List.append_nil]
    exact Obj.agreeOff_assign _ _ _ _
  | lost _ _ never => exact absurd trivial never

end Context

end ObjectGraph
