import ObjectGraph.Proofs.Frame
import ObjectGraph.Proofs.Sameness

/-! Writes that go to different slots, in either order.

What a write answers and the change it makes are decided by the slots on its way. Objects that are
alike along the way answer the write alike and get the same change, at the address that the path
leads to. So where two paths part, neither write notices the other one.
-/

set_option autoImplicit false
namespace ObjectGraph
namespace Context

section Relations
variable (ctx : Context)

/-- What a step comes to on two objects: one refusal, nothing in either, parts that are alike for the
steps that follow, or one new object in both. -/
inductive SteppedBoth (s : Segment) (more : List AccessStep) (creates : Bool) (o o' : Obj) :
    EStateM.Result AccessError Obj (Option Place) → EStateM.Result AccessError Obj (Option Place) →
    Prop where
  | failed (e : AccessError) : SteppedBoth s more creates o o' (.error e o) (.error e o')
  | skipped : SteppedBoth s more creates o o' (.ok none o) (.ok none o')
  | entered {place : Place} {slot : Slot} {part part' : Obj} : ctx.ReadsFrom o s.steps place slot →
    o.at? (place ++ [slot]) = some part → o'.at? (place ++ [slot]) = some part' →
    ctx.Alike more part part' →
    SteppedBoth s more creates o o' (.ok (some (place ++ [slot])) o) (.ok (some (place ++ [slot])) o')
  | made {place : Place} {slot : Slot} {new : Obj} : creates = true →
    ctx.ReadsFrom o s.steps place slot → o.at? (place ++ [slot]) = none →
    ctx.schema.AdmitsAt o place slot (some new) → ctx.schema.AdmitsAt o' place slot (some new) →
    ctx.Creates o place slot new →
    SteppedBoth s more creates o o' (.ok (some (place ++ [slot])) (o.assign place slot (some new)))
      (.ok (some (place ++ [slot])) (o'.assign place slot (some new)))

inductive Changed (address : Place) (o o' : Obj) : Obj → Obj → Prop where
  | kept : Changed address o o' o o'
  | given {place : Place} {slot : Slot} {v : Option Obj} : place ++ [slot] = address →
    ctx.schema.AdmitsAt o place slot v → ctx.schema.AdmitsAt o' place slot v →
    Changed address o o' (o.assign place slot v) (o'.assign place slot v)

end Relations

variable {ctx : Context} {o o' : Obj} {s : Segment} {more : List AccessStep} {v : Option Obj}

theorem Changed.lift {base address : Place} {part part' new new' : Obj}
    (changed : ctx.Changed address part part' new new') (held : o.at? base = some part)
    (held' : o'.at? base = some part') :
    ctx.Changed (base ++ address) o o' (o.replaceAt base new) (o'.replaceAt base new') := by
  cases changed with
  | kept =>
    rw [Obj.replaceAt_at? held, Obj.replaceAt_at? held']
    exact .kept
  | given same admits admits' =>
    rw [Obj.replaceAt_assign held, Obj.replaceAt_assign held']
    exact .given (by rw [← same, List.append_assoc]) (admits.lift held) (admits'.lift held')

theorem Changed.commute {p q : Place} {left right leftThen rightThen : Obj} (diverge : Diverge p q)
    (second : ctx.Changed q o left right leftThen) (first : ctx.Changed p o right left rightThen) :
    leftThen.Same rightThen := by
  cases second with
  | kept => cases first <;> exact .refl _
  | given same admits later =>
    cases first with
    | kept => exact .refl _
    | given same' admits' later' =>
      subst same same'
      exact Obj.assign_assign_same admits' admits later' later diverge

/-! Objects that are alike for the steps -/

theorem Alike.ty_length {a : AccessStep} (alike : ctx.Alike (a :: more) o o') :
    o'.ty = o.ty ∧ o'.length? = o.length? := by
  rcases alike.step with rfl | ⟨_, _, ty, length, _⟩
  · exact ⟨rfl, rfl⟩
  · exact ⟨ty, length⟩

theorem Alike.keeps_start (alike : ctx.Alike (s.steps ++ more) o o') (typed : ctx.schema.WellTyped o) :
    ctx.schema.WellTyped o' ∧ o'.ty = o.ty ∧ o'.length? = o.length? := by
  rcases alike.start with rfl | ⟨_, typed', ty, length, _⟩
  · exact ⟨typed, rfl, rfl⟩
  · exact ⟨typed', ty, length⟩

theorem Alike.through {steps : List AccessStep} {place : Place} {slot : Slot}
    (reads : ctx.ReadsFrom o steps place slot) (alike : ctx.Alike (steps ++ more) o o') :
    ctx.ReadsFrom o' steps place slot ∧ (o'.at? (place ++ [slot]) = o.at? (place ++ [slot]) ∨
      ∃ part part', o.at? (place ++ [slot]) = some part ∧ o'.at? (place ++ [slot]) = some part' ∧
        ctx.Alike more part part') := by
  -- On the steps: the objects that one step leads to are the same or alike for the others.
  induction reads generalizing o' with
  | last found =>
    rcases alike.step with rfl | ⟨_, _, _, _, _, _, source, source', held⟩
    · exact ⟨.last found, .inl rfl⟩
    · rw [found] at source
      cases source
      exact ⟨.last source', held⟩
  | @step o part a steps place below slot target found held rest ih =>
    rcases alike.step with rfl | ⟨_, _, _, _, _, _, source, source', sits⟩
    · exact ⟨.step found held rest, .inl rfl⟩
    · rw [found] at source
      cases source
      rw [held] at sits
      have sits : ∃ part', o'.at? (place ++ [slot]) = some part' ∧ ctx.Alike (steps ++ more) part part' := by
        rcases sits with same | ⟨_, part', same, held', alike⟩
        · exact ⟨part, same, .inl rfl⟩
        · cases same
          exact ⟨part', held', alike⟩
      obtain ⟨part', held', alike⟩ := sits
      obtain ⟨rest', last⟩ := ih alike
      refine ⟨.step source' held' rest', ?_⟩
      rw [List.append_assoc, Obj.at?_below held, Obj.at?_below held']
      exact last

theorem SameRead.eq {r r' : Except AccessError (Option Value)} (same : ctx.SameRead more r r')
    (absent : ∀ value, r ≠ .ok (some value)) : r' = r := by
  rcases same with same | ⟨_, _, read, _⟩
  · exact same
  · exact absurd read (absent _)

section Runs
variable (usual : ctx.Usual) (sound : ctx.schema.Sound) (typed : ctx.schema.WellTyped o)
  (plain : ctx.Plain o s.name)
include sound typed plain

theorem Alike.lendsBoth (alike : ctx.Alike (s.steps ++ more) o o') (indexed : s.isIndexed = true)
    (other : s.name ≠ "") : ctx.LendsBoth o o' [.property s.name] (ctx.lendName o.isMap s.name o)
      (ctx.lendName o.isMap s.name o') := by
  rw [Segment.steps_of_both indexed other] at alike
  rcases alike.step with rfl | ⟨_, typed', ty, _, place, slot, source, source', held⟩
  · exact (lends_lendName sound typed plain).both
  rcases held with same | ⟨part, part', held, held', alike⟩
  · cases held : o.at? (place ++ [slot]) with
    | some part =>
      exact lendsBoth_of_source sound typed typed' ty source held (same.trans held) rfl rfl
    | none =>
      have lent' := lendName_of_source sound typed' source'
      rw [isMap_congr ty, same, held] at lent'
      rw [lent', lendName_of_source sound typed source, held]
      exact .absent
  · exact lendsBoth_of_source sound typed typed' ty source held held' alike.ty_length.1
      alike.ty_length.2

include usual

theorem steppedBoth_step {creates : Bool} (declared : ctx.DeclaredOnce o)
    (alike : ctx.Alike (s.steps ++ more) o o') :
    ctx.SteppedBoth s more creates o o' (ctx.step s creates o) (ctx.step s creates o') := by
  rcases alike.start with rfl | ⟨_, typed', ty, length, sourced⟩
  · have stepped : ctx.Stepped True s creates o' _ :=
      stepped_step usual sound typed plain fun _ => declared
    generalize ctx.step s creates o' = r at stepped
    cases stepped with
    | failed e => exact .failed e
    | skipped => exact .skipped
    | entered reads held => exact .entered reads held held (.inl rfl)
    | made creates _ reads empty admits made => exact .made creates reads empty admits admits made
    | lost _ _ never => exact absurd trivial never
  have unadapted := plain.unadapted
  obtain ⟨a, chosen, _⟩ := usual.adapter unadapted
  have same := sameRead_segment usual sound alike
  cases read : ctx.readFrom o s [] with
  | error e =>
    rw [step_eq usual unadapted chosen rfl, step_eq usual unadapted chosen ty, same.eq (by simp [read]),
      read]
    exact .failed e
  | ok value =>
    cases value with
    | some value =>
      rw [readFrom_of_adapter chosen] at read
      obtain ⟨place, slot, reads, held⟩ := reads_of_read usual sound typed chosen unadapted sourced read
      obtain ⟨reads', sits⟩ := alike.through reads
      rw [step_of_at? usual sound typed reads held]
      rcases sits with same | ⟨part, part', held, held', alike⟩
      · rw [step_of_at? usual sound typed' reads' (same.trans held)]
        exact .entered reads held (same.trans held) (.inl rfl)
      · rw [step_of_at? usual sound typed' reads' held']
        exact .entered reads held held' alike
    -- What is absent in both is made in both alike.
    | none =>
      have read' := (same.eq (by simp [read])).trans read
      rw [step_eq usual unadapted chosen rfl, step_eq usual unadapted chosen ty, read', read]
      cases creates with
      | false => exact .skipped
      | true =>
        obtain ⟨a', chosen', _⟩ := usual.adapter ((adapter?_congr ty).trans unadapted)
        rw [readFrom_of_adapter chosen] at read
        rw [readFrom_of_adapter chosen'] at read'
        have makes := makesBoth_instantiate usual sound typed chosen plain ty length typed'
          (alike.lendsBoth sound typed plain) chosen' read read'
        simp only [if_true]
        generalize a.instantiate ctx s o = r at makes
        generalize a.instantiate ctx s o' = r' at makes
        cases makes with
        | failed e => exact .failed e
        | made reads _ admits admits' made =>
          have empty := absent_of_read usual sound typed chosen unadapted read reads
          exact .made rfl reads empty admits admits' made
        | lost _ writes unread =>
          exact absurd (reads_of_writes sound typed plain declared writes) unread

omit plain in
/-- A write along segments answers objects alike that are alike for its steps, and makes one change to
both. -/
theorem writeFrom_alike {rest : List Segment} (values : ∀ w, v = some w → ctx.schema.WellTyped w)
    (along : ctx.Along v.isSome (fun o s => ctx.Plain o s.name ∧ (True → ctx.DeclaredOnce o)) s rest o)
    (alike : ctx.Alike ((s :: rest).flatMap Segment.steps) o o') :
    (ctx.writeFrom v s rest).outcome o' = (ctx.writeFrom v s rest).outcome o ∧
      ctx.Changed (ctx.footprint o ((s :: rest).flatMap Segment.steps)) o o'
        ((ctx.writeFrom v s rest).after o) ((ctx.writeFrom v s rest).after o') := by
  -- On the segments that are left, for all objects that are alike for them.
  induction rest generalizing s o o' with
  | nil =>
    obtain ⟨plain, declared⟩ := along.head
    rw [List.flatMap_cons, List.flatMap_nil] at alike ⊢
    obtain ⟨typed', ty, length⟩ := alike.keeps_start typed
    obtain ⟨a, chosen, _⟩ := usual.adapter plain.unadapted
    have stores := storesBoth_write usual sound typed chosen plain ty length typed'
      (alike.lendsBoth sound typed plain) v
    simp only [Edit.outcome, Edit.after, writeFrom_last usual plain.unadapted chosen rfl,
      writeFrom_last usual plain.unadapted chosen ty]
    generalize a.write ctx s v o = r at stores
    generalize a.write ctx s v o' = r' at stores
    cases stores with
    | failed e => exact ⟨rfl, .kept⟩
    | nothing => exact ⟨rfl, .kept⟩
    | stored writes admits admits' =>
      have reads := reads_of_writes sound typed plain (declared trivial) writes
      exact ⟨rfl, .given reads.footprint_last.symm admits admits'⟩
  | cons next rest ih =>
    obtain ⟨plain, declared⟩ := along.head
    rw [List.flatMap_cons] at alike ⊢
    have stepped : ctx.SteppedBoth s _ v.isSome o o' _ _ :=
      steppedBoth_step usual sound typed plain (declared trivial) alike
    generalize ran : ctx.step s v.isSome o = r at stepped
    generalize ran' : ctx.step s v.isSome o' = r' at stepped
    cases stepped with
    | failed e =>
      simp only [Edit.outcome, Edit.after, writeFrom_cons, ran, ran']
      exact ⟨trivial, .kept⟩
    | skipped =>
      simp only [Edit.outcome, Edit.after, writeFrom_cons, ran, ran']
      exact ⟨trivial, .kept⟩
    | entered reads held held' alike =>
      obtain ⟨outcome, after⟩ := writeFrom_of_place rest ran held
      obtain ⟨outcome', after'⟩ := writeFrom_of_place rest ran' held'
      rw [outcome, after, outcome', after', reads.footprint_append, held]
      obtain ⟨same, changed⟩ := ih (typed.at? held) (along.2 _ _ _ ran held) alike
      exact ⟨same, changed.lift held held'⟩
    | @made place slot new _ reads empty admits admits' made =>
      have held := Obj.at?_assign new admits.hasSlotAt
      have held' := Obj.at?_assign new admits'.hasSlotAt
      obtain ⟨outcome, after⟩ := writeFrom_of_place rest ran held
      obtain ⟨outcome', after'⟩ := writeFrom_of_place rest ran' held'
      rw [outcome, after, outcome', after', reads.footprint_append, empty,
        Obj.assign_replaceAt _ _ admits.hasSlotAt, Obj.assign_replaceAt _ _ admits'.hasSlotAt,
        List.append_nil]
      -- The new object is written into once for each of the two, and keeps its type.
      have newTyped := made.wellTyped usual sound
      have wrote := wrote_writeFrom usual sound newTyped (along.2 _ _ _ ran held)
      have ty := (wrote.keeps usual sound newTyped values).2
      exact ⟨rfl, .given rfl (admits.congr ty) (admits'.congr ty)⟩

end Runs

end Context

/-- Writes along paths that go through the same slots and then part from each other may be made in
either order: each is answered as if it were made alone, and the graphs are the same in the end. -/
theorem Navigator.writes_commute {s : Schema} {n : Navigator} {o : Obj} {p q : Path} {v w : Option Obj}
    (sound : s.Sound) (found : n.obj? = some o) (typed : s.WellTyped o)
    (vTyped : ∀ x, v = some x → s.WellTyped x) (wTyped : ∀ x, w = some x → s.WellTyped x)
    (along : (Context.standard s).PlainAlong True o p v)
    (along' : (Context.standard s).PlainAlong True o q w)
    (diverge : Diverge ((Context.standard s).footprint o p.steps)
      ((Context.standard s).footprint o q.steps)) :
    ((n.write (.standard s) p v).1.write (.standard s) q w).2 = (n.write (.standard s) q w).2 ∧
    ((n.write (.standard s) q w).1.write (.standard s) p v).2 = (n.write (.standard s) p v).2 ∧
    ∃ a b, ((n.write (.standard s) p v).1.write (.standard s) q w).1.obj? = some a ∧
      ((n.write (.standard s) q w).1.write (.standard s) p v).1.obj? = some b ∧ a.Same b := by
  have usual := Context.usual_standard s
  rcases changeable?_cases found with fixed | changeable
  · have refused (path : Path) (x : Option Obj) : n.write (.standard s) path x =
        (n, .error (.unsupported n.typeName "writes")) := edit_of_fixed fixed _ _
    simp only [refused]
    exact ⟨trivial, trivial, o, o, found, found, .refl o⟩
  · have ran {m : Navigator} {x : Obj} (changeable : m.changeable? = some x) (path : Path)
        (y : Option Obj) : m.write (.standard s) path y =
          (m.withObj (((Context.standard s).writePath path y).after x),
            ((Context.standard s).writePath path y).outcome x) :=
      edit_of_changeable changeable _ _
    have wrote := Context.wrote_writeFrom usual sound typed along
    have wrote' := Context.wrote_writeFrom usual sound typed along'
    -- Each path addresses in what the other write leaves the slots that it addresses in the graph.
    obtain ⟨same, change⟩ := Context.writeFrom_alike usual sound typed vTyped along
      (.inr ⟨typed, (wrote'.keeps usual sound typed wTyped).1, _, wrote'.agreeOff, diverge.symm⟩)
    obtain ⟨same', change'⟩ := Context.writeFrom_alike usual sound typed wTyped along'
      (.inr ⟨typed, (wrote.keeps usual sound typed vTyped).1, _, wrote.agreeOff, diverge⟩)
    rw [ran changeable, ran changeable, ran (changeable?_withObj changeable _),
      ran (changeable?_withObj changeable _)]
    refine ⟨same', same, _, _, ?_, ?_, change'.commute diverge change⟩
    · rw [withObj_withObj, obj?_withObj found]; rfl
    · rw [withObj_withObj, obj?_withObj found]; rfl

open Sample in
/-- A tenant gets a new name and the city of a home that is yet to be made. -/
theorem Navigator.writes_commute_tenant :
    let ctx := Context.standard tenancy
    let named := (writable (tenant "Ann" [])).write ctx (.ofString "name") (some (.str "Eve"))
    let housed := (writable (tenant "Ann" [])).write ctx (.ofString "home.city") (some (.str "Rome"))
    (housed.1.write ctx (.ofString "name") (some (.str "Eve"))).2 = named.2 ∧
    (named.1.write ctx (.ofString "home.city") (some (.str "Rome"))).2 = housed.2 ∧
    ∃ a b, (housed.1.write ctx (.ofString "name") (some (.str "Eve"))).1.obj? = some a ∧
      (named.1.write ctx (.ofString "home.city") (some (.str "Rome"))).1.obj? = some b ∧ a.Same b := by
  have typed : tenancy.WellTyped (tenant "Ann" []) := wellTyped_tenant "Ann" (by simp) (by simp)
  have text (given : String) (w : Obj) (same : some (Obj.str given) = some w) : tenancy.WellTyped w :=
    Option.some.inj same ▸ .scalar trivial
  have apart : Diverge [.field "resident", .field "home"] [.field "resident", .field "name"] :=
    ⟨[.field "resident"], .field "home", .field "name", by decide, by decide, by decide⟩
  exact writes_commute tenancy_sound rfl typed (text "Rome") (text "Eve")
    (tenancy_fieldsOnly.plainAlong _ _ _ _) (tenancy_fieldsOnly.plainAlong _ _ _ _) apart

end ObjectGraph
