import ObjectGraph.Proofs.RoundTrip

/-! What a failed write leaves.

A write makes the missing objects on its way one after the other and does not take them back when it
fails further down. Apart from them a failed write changes nothing, so it leaves the graph as it was
when nothing is to be written and when nothing on the way is missing.
-/

set_option autoImplicit false
namespace ObjectGraph
namespace Context

/-- The graph is the former one but for objects that the factory made on the way along the segments,
each for the declared type of its slot. A segment read as empty where one was made; unless a field is
redeclared, the slot that it was put in is the one that was read. -/
inductive Grown (ctx : Context) (once : Prop) : List Segment → Obj → Obj → Prop where
  | same (segments : List Segment) (o : Obj) : Grown ctx once segments o o
  | inside {s : Segment} {rest : List Segment} {o part part' : Obj} {place : Place} {slot : Slot} :
    ctx.ReadsFrom o s.steps place slot → o.at? (place ++ [slot]) = some part →
    Grown ctx once rest part part' → Grown ctx once (s :: rest) o (o.replaceAt (place ++ [slot]) part')
  | made {s : Segment} {rest : List Segment} {o new new' : Obj} {place : Place} {slot : Slot} :
    ctx.ReadsFrom o s.steps place slot → ctx.readFrom o s [] = .ok none →
    o.at? (place ++ [slot]) = none → ctx.Creates o place slot new → Grown ctx once rest new new' →
    Grown ctx once (s :: rest) o (o.assign place slot (some new'))
  | lost {s : Segment} {rest : List Segment} {o new : Obj} {place : Place} {slot : Slot} : ¬ once →
    ctx.readFrom o s [] = .ok none → ctx.WritesTo o s.steps place slot →
    ¬ ctx.ReadsFrom o s.steps place slot → ctx.Creates o place slot new →
    Grown ctx once (s :: rest) o (o.assign place slot (some new))

variable {ctx : Context} {once : Prop} {o o' : Obj} {s : Segment} {rest : List Segment} {v : Option Obj}
  {outcome : Except AccessError Unit} {e : AccessError}

theorem Wrote.grown (wrote : ctx.Wrote once v s rest o outcome o') (failed : outcome = .error e) :
    ctx.Grown once (s :: rest).dropLast o o' := by
  induction wrote with
  | refused => exact .same _ _
  | idle => cases failed
  | stored => cases failed
  | entered reads held _ ih => exact .inside reads held (ih failed)
  | made _ absent reads empty _ creates _ ih => exact .made reads absent empty creates (ih failed)
  | lost _ _ repeated absent writes unread _ creates =>
    exact .lost repeated absent writes unread creates

theorem Wrote.unchanged_of_none (wrote : ctx.Wrote once v s rest o outcome o')
    (failed : outcome = .error e) (nothing : v = none) : o' = o := by
  induction wrote with
  | refused => rfl
  | idle => rfl
  | stored => cases failed
  | entered _ held _ ih => rw [ih failed, Obj.replaceAt_at? held]
  | made given => rw [nothing] at given; cases given
  | lost _ given => rw [nothing] at given; cases given

theorem Wrote.unchanged_of_present (wrote : ctx.Wrote once v s rest o outcome o')
    (usual : ctx.Usual) (sound : ctx.schema.Sound) (typed : ctx.schema.WellTyped o)
    (failed : outcome = .error e)
    (present : rest = [] ∨ ∃ value, ctx.readFrom o s rest.dropLast = .ok (some value)) :
    o' = o := by
  induction wrote with
  | refused => rfl
  | idle => rfl
  | stored => cases failed
  | @entered _ next rest _ _ _ _ _ _ reads held _ ih =>
    -- What is present along the whole path is present along its rest, seen from the part.
    have unchanged := ih (typed.at? held) failed
    cases rest with
    | nil => rw [unchanged (.inl rfl), Obj.replaceAt_at? held]
    | cons last rest =>
      rcases present with none | ⟨value, present⟩
      · cases none
      · rw [List.dropLast_cons_cons, readFrom_below usual sound typed reads held] at present
        rw [unchanged (.inr ⟨value, present⟩), Obj.replaceAt_at? held]
  | made _ absent =>
    rcases present with none | ⟨value, present⟩
    · cases none
    · rw [readFrom_absent absent] at present
      cases present
  | lost _ _ _ absent =>
    rcases present with none | ⟨value, present⟩
    · cases none
    · rw [readFrom_absent absent] at present
      cases present

end Context

/-- A failed write changes nothing but for the objects that it made on its way before it failed, and
nothing at all where nothing is to be written or no object on the way is missing. -/
theorem Navigator.write_failed {s : Schema} {n : Navigator} {o : Obj} {p : Path} {v : Option Obj}
    {e : AccessError} {once : Prop} (sound : s.Sound) (found : n.obj? = some o) (typed : s.WellTyped o)
    (along : (Context.standard s).PlainAlong once o p v)
    (failed : (n.write (.standard s) p v).2 = .error e) :
    ∃ o', (n.write (.standard s) p v).1.obj? = some o' ∧
      (Context.standard s).Grown once p.segments.dropLast o o' ∧ (v = none → o' = o) ∧
      ((p.rest = [] ∨ ∃ value, n.read (.standard s) ⟨p.first, p.rest.dropLast⟩ = .ok (some value)) →
        o' = o) := by
  have usual := Context.usual_standard s
  have wrote := Context.wrote_writeFrom usual sound typed along
  rcases edit_cases found "writes" ((Context.standard s).writePath p v) with refused | ran
  · rw [write, refused]
    exact ⟨o, found, .same _ o, fun _ => rfl, fun _ => rfl⟩
  · rw [write, ran] at failed ⊢
    refine ⟨_, obj?_withObj found _, wrote.grown failed, wrote.unchanged_of_none failed,
      fun present => wrote.unchanged_of_present usual sound typed failed ?_⟩
    simpa only [read, found, Context.readPath] using present

open Sample in
/-- Nothing but a value under `a` can be new after the failure at `b[0]`. -/
theorem Navigator.write_failed_map :
    ∃ o', ((writable (.map .hash .str .any [])).write (.standard tenancy) (.ofString "a.b[0]")
      (some (.int .i32 1))).1.obj? = some o' ∧
        (Context.standard tenancy).Grown True [⟨"a"⟩] (.map .hash .str .any []) o' := by
  have typed : tenancy.WellTyped (.map .hash .str .any []) := .map (by simp) (by simp) (by simp)
  obtain ⟨o', written, grown, _⟩ := write_failed (n := writable (.map .hash .str .any []))
    tenancy_sound rfl typed (tenancy_fieldsOnly.plainAlong _ _ (.ofString "a.b[0]")
      (some (.int .i32 1))) rfl
  exact ⟨o', written, grown⟩

/-- The write that fails at `b[0]` has made a map under `a`, and leaves it there. -/
theorem Navigator.write_failed_grows :
    let ctx := Context.standard Sample.tenancy
    let root := Obj.map .hash .str .any []
    let written := (writable root).write ctx (.ofString "a.b[0]") (some (.int .i32 1))
    Sample.tenancy.Sound ∧ Sample.tenancy.WellTyped root ∧
      ctx.PlainAlong True root (.ofString "a.b[0]") (some (.int .i32 1)) ∧
      written.2 = .error (.notIndexable "b[0]" "none") ∧
      written.1.obj? = some (.map .hash .str .any [(.str "a", .map .hash .str .any [])]) ∧
      written.1.obj? ≠ some root := by
  intro ctx root written
  have grown : written.1.obj? = some (.map .hash .str .any [(.str "a", .map .hash .str .any [])]) := rfl
  refine ⟨Sample.tenancy_sound, .map (by simp) (by simp) (by simp),
    Sample.tenancy_fieldsOnly.plainAlong _ _ _ _, rfl, grown, ?_⟩
  rw [grown]
  simp [root]

end ObjectGraph
