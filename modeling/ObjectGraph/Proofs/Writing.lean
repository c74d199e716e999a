import ObjectGraph.Proofs.SegmentAccess

/-! What a write along a path comes to.

One step leads to a part that is there, or to one that is made for an empty slot. A write is a run of
such steps that ends with giving a slot the value, with leaving everything as it is since nothing is
to be written, or with an error. An error leaves what was made before it.
-/

set_option autoImplicit false
namespace ObjectGraph
namespace Context

/-- The property holds of every object that a write along the segments walks through, together with
the segment that the object answers. -/
def Along (ctx : Context) (creates : Bool) (P : Obj → Segment → Prop) (s : Segment) :
    List Segment → Obj → Prop
  | [], o => P o s
  | next :: rest, o => P o s ∧ ∀ place o' part, ctx.step s creates o = .ok (some place) o' →
    o'.at? place = some part → Along ctx creates P next rest part

/-- No object that the write walks through has an adapter of its own, no accessor method of its class
claims the name that it is asked for, and, if need be, its class redeclares no field. -/
abbrev PlainAlong (ctx : Context) (once : Prop) (o : Obj) (p : Path) (v : Option Obj) : Prop :=
  ctx.Along v.isSome (fun o s => ctx.Plain o s.name ∧ (once → ctx.DeclaredOnce o)) p.first p.rest o

section Relations
variable (ctx : Context) (once : Prop)

/-- What one step of a write comes to. Only where a field is redeclared can a value be made and not
be found. -/
inductive Stepped (s : Segment) (creates : Bool) (o : Obj) :
    EStateM.Result AccessError Obj (Option Place) → Prop where
  | failed (e : AccessError) : Stepped s creates o (.error e o)
  | skipped : creates = false → Stepped s creates o (.ok none o)
  | entered {place : Place} {slot : Slot} {part : Obj} : ctx.ReadsFrom o s.steps place slot →
    o.at? (place ++ [slot]) = some part → Stepped s creates o (.ok (some (place ++ [slot])) o)
  | made {place : Place} {slot : Slot} {new : Obj} : creates = true →
    ctx.readFrom o s [] = .ok none → ctx.ReadsFrom o s.steps place slot →
    o.at? (place ++ [slot]) = none →
    ctx.schema.AdmitsAt o place slot (some new) → ctx.Creates o place slot new →
    Stepped s creates o (.ok (some (place ++ [slot])) (o.assign place slot (some new)))
  | lost {place : Place} {slot : Slot} {new : Obj} (e : AccessError) : creates = true → ¬ once →
    ctx.readFrom o s [] = .ok none → ctx.WritesTo o s.steps place slot →
    ¬ ctx.ReadsFrom o s.steps place slot →
    ctx.schema.AdmitsAt o place slot (some new) → ctx.Creates o place slot new →
    Stepped s creates o (.error e (o.assign place slot (some new)))

/-- What a write along segments answers and leaves of an object. -/
inductive Wrote (v : Option Obj) :
    Segment → List Segment → Obj → Except AccessError Unit → Obj → Prop where
  | refused {s : Segment} {rest : List Segment} {o : Obj} (e : AccessError) :
    Wrote v s rest o (.error e) o
  | idle {s : Segment} {rest : List Segment} {o : Obj} : v = none → Wrote v s rest o (.ok ()) o
  | stored {s : Segment} {o : Obj} {place : Place} {slot : Slot} :
    (once → ctx.ReadsFrom o s.steps place slot) → ctx.schema.AdmitsAt o place slot v →
    Wrote v s [] o (.ok ()) (o.assign place slot v)
  | entered {s next : Segment} {rest : List Segment} {o part part' : Obj} {place : Place}
    {slot : Slot} {outcome : Except AccessError Unit} : ctx.ReadsFrom o s.steps place slot →
    o.at? (place ++ [slot]) = some part → Wrote v next rest part outcome part' →
    Wrote v s (next :: rest) o outcome (o.replaceAt (place ++ [slot]) part')
  | made {s next : Segment} {rest : List Segment} {o new new' : Obj} {place : Place} {slot : Slot}
    {outcome : Except AccessError Unit} : v.isSome = true → ctx.readFrom o s [] = .ok none →
    ctx.ReadsFrom o s.steps place slot → o.at? (place ++ [slot]) = none →
    ctx.schema.AdmitsAt o place slot (some new) → ctx.Creates o place slot new →
    Wrote v next rest new outcome new' →
    Wrote v s (next :: rest) o outcome (o.assign place slot (some new'))
  | lost {s next : Segment} {rest : List Segment} {o new : Obj} {place : Place} {slot : Slot}
    (e : AccessError) : v.isSome = true → ¬ once → ctx.readFrom o s [] = .ok none →
    ctx.WritesTo o s.steps place slot → ¬ ctx.ReadsFrom o s.steps place slot →
    ctx.schema.AdmitsAt o place slot (some new) → ctx.Creates o place slot new →
    Wrote v s (next :: rest) o (.error e) (o.assign place slot (some new))

end Relations

variable {ctx : Context} {once : Prop} {o : Obj} {s : Segment} {v : Option Obj}

theorem Along.head {creates : Bool} {P : Obj → Segment → Prop} {rest : List Segment}
    (along : ctx.Along creates P s rest o) : P o s := by
  cases rest with
  | nil => exact along
  | cons next rest => exact along.1

theorem Along.of_all {creates : Bool} {P : Obj → Segment → Prop} (all : ∀ o s, P o s)
    (s : Segment) (rest : List Segment) (o : Obj) : ctx.Along creates P s rest o := by
  induction rest generalizing s o with
  | nil => exact all o s
  | cons next rest ih => exact ⟨all o s, fun _ _ part _ _ => ih next part⟩

theorem Creates.wellTyped {place : Place} {slot : Slot} {new : Obj} (usual : ctx.Usual)
    (sound : ctx.schema.Sound) (creates : ctx.Creates o place slot new) : ctx.schema.WellTyped new := by
  obtain ⟨_, _, _, _, made⟩ := creates
  exact usual.make_wellTyped sound made

theorem writeFrom_cons (rest : List Segment) {next : Segment} (o : Obj) : ctx.writeFrom v s (next :: rest) o =
    match ctx.step s v.isSome o with
    | .ok (some place) o' => Edit.lent place (ctx.writeFrom v next rest) (return ()) o'
    | .ok none o' => .ok () o'
    | .error e o' => .error e o' := by
  rw [writeFrom, Edit.bind_apply]
  rcases ctx.step s v.isSome o with ⟨place, o'⟩ | ⟨e, o'⟩
  · cases place <;> rfl
  · rfl

theorem writeFrom_of_place (rest : List Segment) {next : Segment} {o' part : Obj} {place : Place}
    (ran : ctx.step s v.isSome o = .ok (some place) o') (held : o'.at? place = some part) :
    (ctx.writeFrom v s (next :: rest)).outcome o = (ctx.writeFrom v next rest).outcome part ∧
      (ctx.writeFrom v s (next :: rest)).after o =
        o'.replaceAt place ((ctx.writeFrom v next rest).after part) := by
  rw [← Edit.outcome_lent held _ (return ()), ← Edit.after_lent held _ (return ())]
  simp only [Edit.outcome, Edit.after, writeFrom_cons, ran, and_self]

/-! The adapter of an object accesses every object of its type -/

section Typed
variable {o' : Obj} {a : Adapter} (usual : ctx.Usual) (unadapted : ctx.schema.adapter? o = none)
  (chosen : ctx.adapter o = .ok a) (ty : o'.ty = o.ty)
include usual unadapted chosen ty

theorem writeFrom_last : ctx.writeFrom v s [] o' = a.write ctx s v o' := by
  have unadapted' := (adapter?_congr ty).trans unadapted
  obtain ⟨a', chosen', _⟩ := usual.adapter unadapted'
  simp only [writeFrom, Edit.bind_apply, Edit.get_apply, chosen', Edit.ofExcept_ok_apply]
  rw [write_eq usual unadapted' chosen', write_eq usual unadapted chosen, isMap_congr ty]

theorem step_eq (s : Segment) (creates : Bool) : ctx.step s creates o' =
    match ctx.readFrom o' s [] with
    | .error e => .error e o'
    | .ok (some _) =>
      match a.borrow ctx s o' with
      | .ok (some place) new => .ok (some place) new
      | .ok none new => .error (.notBorrowable s.text o'.typeName s.name) new
      | .error e new => .error e new
    | .ok none =>
      if creates then
        match a.instantiate ctx s o' with
        | .ok place new => .ok (some place) new
        | .error e new => .error e new
      else .ok none o' := by
  have unadapted' := (adapter?_congr ty).trans unadapted
  -- An adapter is chosen by the type of the object, and the two objects are of one type.
  obtain ⟨a', chosen', _⟩ := usual.adapter unadapted'
  have borrow : a'.borrow ctx s = a.borrow ctx s := by
    rw [borrow_eq usual unadapted' chosen', borrow_eq usual unadapted chosen, isMap_congr ty]
  have make : a'.instantiate ctx s = a.instantiate ctx s := by
    rw [instantiate_eq usual unadapted' chosen', instantiate_eq usual unadapted chosen, isMap_congr ty]
  simp only [step, Edit.bind_apply, Edit.get_apply, chosen', Edit.ofExcept_ok_apply,
    readFrom_of_adapter chosen', borrow, make]
  rcases a'.read ctx o' s with e | value
  · rfl
  · cases value with
    | some value =>
      simp only [Edit.ofExcept_ok_apply, Edit.bind_apply]
      rcases a.borrow ctx s o' with ⟨place, new⟩ | ⟨e, new⟩
      · cases place <;> rfl
      · rfl
    | none =>
      simp only [Edit.ofExcept_ok_apply]
      cases creates with
      | false => rfl
      | true =>
        simp only [if_true, Edit.bind_apply]
        cases a.instantiate ctx s o' <;> rfl

end Typed

section Runs
variable (usual : ctx.Usual) (sound : ctx.schema.Sound)
include usual sound

theorem step_of_at? (typed : ctx.schema.WellTyped o) {place : Place} {slot : Slot} {part : Obj}
    (reads : ctx.ReadsFrom o s.steps place slot) (held : o.at? (place ++ [slot]) = some part)
    (creates : Bool) : ctx.step s creates o = .ok (some (place ++ [slot])) o := by
  have unadapted := reads.unadapted
  obtain ⟨a, chosen, _⟩ := usual.adapter unadapted
  rw [step_eq usual unadapted chosen rfl, readFrom_of_adapter chosen,
    read_of_at? usual sound typed chosen unadapted reads held]
  simp only [borrow_of_at? usual sound typed chosen unadapted reads held]

theorem stepped_step {creates : Bool} (typed : ctx.schema.WellTyped o) (plain : ctx.Plain o s.name)
    (declared : once → ctx.DeclaredOnce o) : ctx.Stepped once s creates o (ctx.step s creates o) := by
  obtain ⟨a, chosen, _⟩ := usual.adapter plain.unadapted
  have reading := readFrom_of_adapter (s := s) chosen
  rw [step_eq usual plain.unadapted chosen rfl]
  cases read : ctx.readFrom o s [] with
  | error e => exact .failed e
  | ok value =>
    cases value with
    | some value =>
      -- What is read is not always lent: a property that is there may refuse to be borrowed.
      have lends := lends_borrow usual sound typed chosen plain
      generalize a.borrow ctx s o = r at lends
      cases lends with
      | failed e => exact .failed e
      | absent => exact .failed _
      | found reads held => exact .entered reads held
    | none =>
      cases creates with
      | false => exact .skipped rfl
      | true =>
        have absent := reading.symm.trans read
        have makes := makes_instantiate usual sound typed chosen plain absent
        simp only [if_true]
        generalize a.instantiate ctx s o = r at makes
        cases makes with
        | failed e => exact .failed e
        | made reads _ admits creates =>
          -- The read found nothing, so the slot that it reads was empty.
          have empty := absent_of_read usual sound typed chosen plain.unadapted absent reads
          exact .made rfl read reads empty admits creates
        | lost e writes unread admits creates =>
          refine .lost e rfl (fun holds => ?_) read writes unread admits creates
          exact unread (reads_of_writes sound typed plain (declared holds) writes)

/-- The part that a step leads to is well typed, an old one as well as one that was made. -/
theorem typed_of_step {creates : Bool} {o' part : Obj} {place : Place} (typed : ctx.schema.WellTyped o)
    (plain : ctx.Plain o s.name) (ran : ctx.step s creates o = .ok (some place) o')
    (held : o'.at? place = some part) : ctx.schema.WellTyped part := by
  have stepped : ctx.Stepped False s creates o (ctx.step s creates o) :=
    stepped_step usual sound typed plain nofun
  rw [ran] at stepped
  cases stepped with
  | entered reads _ => exact typed.at? held
  | made _ _ _ _ admits made =>
    have typed' := typed.assign admits fun w eq => Option.some.inj eq ▸ made.wellTyped usual sound
    exact typed'.at? held

theorem wrote_writeFrom (typed : ctx.schema.WellTyped o) {rest : List Segment}
    (along : ctx.Along v.isSome (fun o s => ctx.Plain o s.name ∧ (once → ctx.DeclaredOnce o))
      s rest o) :
    ctx.Wrote once v s rest o ((ctx.writeFrom v s rest).outcome o)
      ((ctx.writeFrom v s rest).after o) := by
  -- On the segments that are left, for every object: each step hands the part over to the rest.
  induction rest generalizing s o with
  | nil =>
    obtain ⟨plain, declared⟩ := along.head
    obtain ⟨a, chosen, _⟩ := usual.adapter plain.unadapted
    simp only [Edit.outcome, Edit.after, writeFrom_last usual plain.unadapted chosen rfl]
    have stores := stores_write usual sound typed chosen plain v
    generalize a.write ctx s v o = r at stores
    cases stores with
    | failed e => exact .refused e
    | nothing isNone => exact .idle isNone
    | stored writes admits =>
      exact .stored (fun holds => reads_of_writes sound typed plain (declared holds) writes) admits
  | cons next rest ih =>
    obtain ⟨plain, declared⟩ := along.head
    have stepped : ctx.Stepped once s v.isSome o (ctx.step s v.isSome o) :=
      stepped_step usual sound typed plain declared
    generalize ran : ctx.step s v.isSome o = r at stepped
    cases stepped with
    | failed e =>
      simp only [Edit.outcome, Edit.after, writeFrom_cons, ran]
      exact .refused e
    | skipped skips =>
      simp only [Edit.outcome, Edit.after, writeFrom_cons, ran]
      exact .idle (Option.not_isSome_iff_eq_none.mp (by simp [skips]))
    | @entered place slot part reads held =>
      obtain ⟨outcome, after⟩ := writeFrom_of_place rest ran held
      rw [outcome, after]
      exact .entered reads held (ih (typed.at? held) (along.2 _ _ _ ran held))
    | @made place slot new creates absent reads empty admits made =>
      have held := Obj.at?_assign new admits.hasSlotAt
      obtain ⟨outcome, after⟩ := writeFrom_of_place rest ran held
      rw [outcome, after, Obj.assign_replaceAt _ _ admits.hasSlotAt]
      exact .made creates absent reads empty admits made
        (ih (made.wellTyped usual sound) (along.2 _ _ _ ran held))
    | lost e creates repeated absent writes unread admits made =>
      simp only [Edit.outcome, Edit.after, writeFrom_cons, ran]
      exact .lost e creates repeated absent writes unread admits made

theorem wrote_of_ok (typed : ctx.schema.WellTyped o) {rest : List Segment} {o' : Obj}
    (along : ctx.Along v.isSome (fun o s => ctx.Plain o s.name ∧ (once → ctx.DeclaredOnce o)) s rest o)
    (ran : ctx.writeFrom v s rest o = .ok () o') : ctx.Wrote once v s rest o (.ok ()) o' := by
  have wrote := wrote_writeFrom usual sound typed along
  simpa only [Edit.outcome, Edit.after, ran] using wrote

end Runs

end Context

end ObjectGraph
