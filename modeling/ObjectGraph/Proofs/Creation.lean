import ObjectGraph.Proofs.RoundTrip
import ObjectGraph.Proofs.Sameness

/-! What a write makes on its way.

A write that succeeds goes through an object at each segment before the last one: through the part
that it finds, or through what the factory makes for the declared type of an empty slot. What is made
may hold parts of its own, and these are found like others. Afterwards each of these objects is where
the write went through it, with a value in the slot that the next segment addresses and otherwise as
it was.
-/

set_option autoImplicit false
namespace ObjectGraph
namespace Context

/-- The object that a write has entered behind segments: it goes into the part that sits in the slot
that a segment reads, and where the slot is empty into what the factory makes for the declared type of
the slot. The object is fresh if anything was made on the way to it. -/
inductive Behind (ctx : Context) : Bool → Obj → List Segment → Obj → Prop where
  | here (o : Obj) : Behind ctx false o [] o
  | found {fresh : Bool} {s : Segment} {rest : List Segment} {o part x : Obj} {place : Place}
    {slot : Slot} : ctx.ReadsFrom o s.steps place slot → o.at? (place ++ [slot]) = some part →
    Behind ctx fresh part rest x → Behind ctx fresh o (s :: rest) x
  | made {fresh : Bool} {s : Segment} {rest : List Segment} {o new x : Obj} {place : Place}
    {slot : Slot} : ctx.ReadsFrom o s.steps place slot → o.at? (place ++ [slot]) = none →
    ctx.Creates o place slot new → Behind ctx fresh new rest x → Behind ctx true o (s :: rest) x

variable {ctx : Context} {o o' x y v : Obj} {s : Segment} {rest : List Segment}

theorem Wrote.gives_slot {outcome : Except AccessError Unit}
    (wrote : ctx.Wrote True (some v) s rest o outcome o') (succeeded : outcome = .ok ()) :
    ∃ place slot y, ctx.ReadsFrom o s.steps place slot ∧ o'.Same (o.assign place slot (some y)) := by
  cases wrote with
  | refused => cases succeeded
  | idle absent => cases absent
  | stored reads => exact ⟨_, _, v, reads trivial, .refl _⟩
  | entered reads held => exact ⟨_, _, _, reads, Obj.replaceAt_same_assign held _⟩
  | made _ _ reads => exact ⟨_, _, _, reads, .refl _⟩
  | lost => cases succeeded

section Runs
variable (usual : ctx.Usual) (sound : ctx.schema.Sound)
include usual sound

/-- Where a write that succeeds has gone through segments, the object there was found or made, and it
has got a value in the slot that the next segment reads. -/
theorem Wrote.went_through {outcome : Except AccessError Unit}
    (wrote : ctx.Wrote True (some v) s rest o outcome o') (typed : ctx.schema.WellTyped o)
    (vTyped : ctx.schema.WellTyped v) (succeeded : outcome = .ok ()) {front more : List Segment}
    {next : Segment} (split : rest = front ++ next :: more) :
    ∃ fresh x x', ctx.Behind fresh o (s :: front) x ∧
      ctx.readFrom o s front = .ok (if fresh then none else some (.shared x)) ∧
      ctx.readFrom o' s front = .ok (some (.shared x')) ∧
      ∃ place slot y, ctx.ReadsFrom x next.steps place slot ∧
        x'.Same (x.assign place slot (some y)) := by
  have values (w : Obj) (same : some v = some w) : ctx.schema.WellTyped w :=
    Option.some.inj same ▸ vTyped
  have typed' := (wrote.keeps usual sound typed values).1
  -- On the write: what it enters at the first segment is entered, or gone through, by its rest.
  induction wrote generalizing front with
  | refused => cases succeeded
  | idle absent => cases absent
  | stored => cases front <;> cases split
  | @entered _ _ _ _ part part' _ _ _ reads held wrote ih =>
    have reads' := reads.replaceAt held part'
    have held' := Obj.at?_replaceAt_self part' held
    cases front with
    | nil =>
      cases split
      exact ⟨false, part, part', .found reads held (.here part), readFrom_last usual sound typed reads held,
        readFrom_last usual sound typed' reads' held', wrote.gives_slot succeeded⟩
    | cons first front =>
      cases split
      rw [readFrom_below usual sound typed reads held, readFrom_below usual sound typed' reads' held']
      obtain ⟨fresh, x, x', behind, before, after, given⟩ :=
        ih (typed.at? held) succeeded rfl (typed'.at? held')
      exact ⟨fresh, x, x', .found reads held behind, before, after, given⟩
  | @made _ _ _ _ new new' _ _ _ _ absent reads empty admits creates wrote ih =>
    have reads' := reads.assign (some new')
    have held' := Obj.at?_assign new' admits.hasSlotAt
    rw [readFrom_absent absent]
    cases front with
    | nil =>
      cases split
      exact ⟨true, new, new', .made reads empty creates (.here new), rfl,
        readFrom_last usual sound typed' reads' held', wrote.gives_slot succeeded⟩
    | cons first front =>
      cases split
      rw [readFrom_below usual sound typed' reads' held']
      obtain ⟨_, x, x', behind, _, after, given⟩ :=
        ih (creates.wellTyped usual sound) succeeded rfl (typed'.at? held')
      exact ⟨true, x, x', .made reads empty creates behind, rfl, after, given⟩
  | lost => cases succeeded

end Runs

end Context

/-- A write that succeeds leaves at every path on its way the object that was there, or, where there
was none, the one that was made or found in what was made; it has a value in the slot that the next
segment reads, and otherwise it is as it was. Where anything may be held, a map is made. -/
theorem Navigator.write_creates {s : Schema} {n : Navigator} {o v : Obj} {p q : Path} (sound : s.Sound)
    (found : n.obj? = some o) (typed : s.WellTyped o) (vTyped : s.WellTyped v)
    (along : (Context.standard s).PlainAlong True o (p.append q) (some v))
    (accepted : (n.write (.standard s) (p.append q) (some v)).2 = .ok ()) :
    (∃ fresh x x', (Context.standard s).Behind fresh o p.segments x ∧
      n.read (.standard s) p = .ok (if fresh then none else some (.shared x)) ∧
      (n.write (.standard s) (p.append q) (some v)).1.read (.standard s) p = .ok (some (.shared x')) ∧
      ∃ place slot y, (Context.standard s).ReadsFrom x q.first.steps place slot ∧
        x'.Same (x.assign place slot (some y))) ∧
    (Context.standard s).objects.make .any = .ok (.map .hash .str .any []) := by
  refine ⟨?_, rfl⟩
  have usual := Context.usual_standard s
  obtain ⟨changeable, o', ran⟩ := changeable_of_edit found accepted
  have written : n.write (.standard s) (p.append q) (some v) = (n.withObj o', .ok ()) :=
    edit_of_ok changeable ran
  have wrote := Context.wrote_of_ok usual sound typed along ran
  obtain ⟨fresh, x, x', behind, before, after, given⟩ :=
    wrote.went_through usual sound typed vTyped rfl rfl
  refine ⟨fresh, x, x', behind, ?_, ?_, given⟩
  · simp only [read, found]
    exact before
  · rw [written]
    simp only [read, obj?_withObj found]
    exact after

open Sample in
/-- The home that is made on the way to its city. -/
theorem Navigator.write_creates_home :
    ∃ fresh x x', (Context.standard tenancy).Behind fresh (tenant "Ann" []) [⟨"home"⟩] x ∧
      (writable (tenant "Ann" [])).read (.standard tenancy) (.ofString "home") =
        .ok (if fresh then none else some (.shared x)) ∧
      ((writable (tenant "Ann" [])).write (.standard tenancy) (.ofString "home.city")
        (some (.str "Rome"))).1.read (.standard tenancy) (.ofString "home") = .ok (some (.shared x')) ∧
      ∃ place slot y, (Context.standard tenancy).ReadsFrom x [.property "city"] place slot ∧
        x'.Same (x.assign place slot (some y)) := by
  have typed : tenancy.WellTyped (tenant "Ann" []) := wellTyped_tenant "Ann" (by simp) (by simp)
  have city : tenancy.WellTyped (.str "Rome") := .scalar trivial
  exact (write_creates (p := .ofString "home") (q := .ofString "city") tenancy_sound rfl typed city
    (tenancy_fieldsOnly.plainAlong _ _ _ _) rfl).1

namespace Sample

def userDecl : BeanDecl :=
  ⟨"fx::User", "User", [SlotDecl.always "tags" (.array (.fixed 2) .str)], true, false, false⟩

def taggedUser (first second : String) : Obj :=
  .bean "fx::User" [("tags", some (.array (.fixed 2) .str [.str first, .str second]))]

def userType : BeanType :=
  ⟨userDecl.layout, .single (userDecl.toClass [] []), some (taggedUser "" ""), none⟩

def users : Schema where
  bean? type := if type = "fx::User" then some userType else none

theorem users_cases {type : String} {bean : BeanType} (found : users.bean? type = some bean) :
    type = "fx::User" ∧ bean = userType := by
  simp only [users] at found
  split at found
  next same => cases found; exact ⟨same, rfl⟩
  · cases found

theorem users_fieldsOnly : users.FieldsOnly := by
  intro type bean found
  obtain ⟨_, rfl⟩ := users_cases found
  exact ⟨rfl, by simp [userType, Lineage.classes, Lineage.routes, Lineage.single, BeanDecl.toClass],
    single_declaresOnce _⟩

theorem wellTyped_taggedUser (first second : String) : users.WellTyped (taggedUser first second) := by
  have text (given : String) : users.WellTyped (.str given) := .scalar trivial
  have declared : users.layouts "fx::User" = some userDecl.layout := rfl
  refine .of_slots declared rfl ?_ ?_
  · intro slot member
    simp only [userDecl, BeanDecl.layout, List.map_cons, List.map_nil, List.mem_cons, List.not_mem_nil,
      or_false] at member
    rcases member with rfl
    exact Ty.accepts_iff.mp rfl
  · have tags : users.WellTyped (.array (.fixed 2) .str [.str first, .str second]) := by
      refine .array rfl ?_ ?_
      · simpa using ⟨Ty.accepts_iff.mp rfl, Ty.accepts_iff.mp rfl⟩
      · simpa using ⟨text first, text second⟩
    simpa using tags

theorem users_sound : users.Sound where
  embeds type bean found := by
    obtain ⟨rfl, rfl⟩ := users_cases found
    exact .last (userDecl.fits rfl (by decide) [] [])
  defaults type bean o found made := by
    obtain ⟨rfl, rfl⟩ := users_cases found
    cases made
    exact wellTyped_taggedUser "" ""
  constructs type bean c o found member := by
    obtain ⟨rfl, rfl⟩ := users_cases found
    cases member

end Sample

/-- The tags behind `user.tags` read as absent before the write that makes the user. They come with
the user; the factory makes no such array. -/
theorem Navigator.write_finds_tags :
    let ctx := Context.standard Sample.users
    let root := Obj.map .hash .str (.bean "fx::User") []
    let written := (writable root).write ctx (.ofString "user.tags.[0]") (some (.str "x"))
    Sample.users.Sound ∧ Sample.users.WellTyped root ∧
      ctx.PlainAlong True root (.ofString "user.tags.[0]") (some (.str "x")) ∧ written.2 = .ok () ∧
      (writable root).read ctx (.ofString "user.tags") = .ok none ∧
      written.1.read ctx (.ofString "user.tags") =
        .ok (some (.shared (.array (.fixed 2) .str [.str "x", .str ""]))) ∧
      Sample.users.slotType? (Sample.taggedUser "" "") (.field "tags") = some (.array (.fixed 2) .str) ∧
      ∀ new, ctx.objects.make (.array (.fixed 2) .str) ≠ .ok new := by
  refine ⟨Sample.users_sound, .map (by simp) (by simp) (by simp),
    Sample.users_fieldsOnly.plainAlong _ _ _ _, rfl, rfl, rfl, rfl, ?_⟩
  intro new made
  cases made

end ObjectGraph
