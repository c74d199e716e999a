import ObjectGraph.Proofs.Alikeness
import ObjectGraph.Proofs.Lending

/-! Only the steps of a path matter.

A segment with a name and a key takes two steps at once, and two segments take them one after the other.
Reads along the segments and along the steps one by one give the same, be the values on the way lent or
detached; so do writes, where what a name in front of a key stands for is there already.
-/

set_option autoImplicit false
namespace ObjectGraph

def AccessStep.segment : AccessStep → Segment
  | .property name => ⟨name⟩
  | .key text => ⟨"[" ++ text ++ "]"⟩

def Path.ofSteps : List AccessStep → Path
  | [] => ⟨⟨""⟩, []⟩
  | a :: steps => ⟨a.segment, steps.map AccessStep.segment⟩

namespace Segment

abbrev ofKey (s : Segment) : Segment :=
  (AccessStep.key s.key).segment

theorem ofKey_spec (s : Segment) :
    s.ofKey.name = "" ∧ s.ofKey.isIndexed = true ∧ s.ofKey.key = s.key := by
  have closed : ']' ∉ s.key.toList := by
    have written := s.written
    unfold key
    cases found : s.key? with
    | none => exact List.not_mem_nil
    | some key =>
      rw [found] at written
      exact written.not_mem_key
  have empty : '[' ∉ "".toList := List.not_mem_nil
  have written : Written s.ofKey.text "" (some s.key) := by
    have bracketed := Written.bracketed empty closed
    rwa [String.empty_append] at bracketed
  obtain ⟨named, found⟩ := written.read
  refine ⟨named, ?_, ?_⟩
  · rw [isIndexed, found, Option.isSome_some]
  · rw [key, found, Option.getD_some]

variable {s : Segment}

theorem sameAccess_name (plain : s.isIndexed = false) : s.SameAccess ⟨s.name⟩ where
  name := s.name_mk_name
  isIndexed := s.isIndexed_mk_name.trans plain.symm
  key := by
    have unkeyed (s : Segment) (plain : s.isIndexed = false) : s.key = "" := by
      rw [key, Option.not_isSome_iff_eq_none.mp (Bool.eq_false_iff.mp plain), Option.getD_none]
    rw [unkeyed s plain, unkeyed _ s.isIndexed_mk_name]

theorem sameAccess_key (indexed : s.isIndexed = true) (own : s.name = "") :
    s.SameAccess (AccessStep.key s.key).segment where
  name := s.ofKey_spec.1.trans own.symm
  isIndexed := s.ofKey_spec.2.1.trans indexed.symm
  key := s.ofKey_spec.2.2

theorem spread_cons {next t : Segment} {rest front : List Segment}
    (spread : ((s :: next :: rest).flatMap steps).map AccessStep.segment = t :: front) :
    ∃ before u after, s.steps.map AccessStep.segment = t :: before ∧
      ((next :: rest).flatMap steps).map AccessStep.segment = u :: after ∧
      front = before ++ u :: after := by
  obtain ⟨a, more, first⟩ := s.steps_eq_cons
  obtain ⟨b, more', second⟩ := next.steps_eq_cons
  rw [List.flatMap_cons, first] at spread
  rw [List.flatMap_cons, second] at spread ⊢
  simp only [List.map_append, List.map_cons, List.cons_append] at spread ⊢
  cases spread
  exact ⟨_, _, _, congrArg _ first, rfl, rfl⟩

end Segment

/-- Reading from a detached container differs in nothing but that its part is detached as well. -/
theorem Indexed.read_eq_map (container : Value) (s : Segment) : read container s =
    (read (.shared container.obj) s).map (Option.map fun w => ⟨w.obj, container.owned || w.owned⟩) := by
  simp only [read, Value.shared, bind, Except.bind]
  cases slot? container.obj s with
  | error e => rfl
  | ok slot =>
    simp only [pure, Except.pure, Except.map, Option.map_map]
    cases slot.bind container.obj.part? with
    | none => rfl
    | some part => simp only [Option.map_some, Function.comp, Bool.or_false]

namespace Context

variable {ctx : Context} {o o' part : Obj} {s t next next' : Segment}
  {front more more' rest : List Segment} {place : Place} {slot : Slot} {v : Option Obj}

theorem AlongRead.append {P : Obj → Segment → Prop}
    (along : ctx.AlongRead P s (front ++ next :: more) o) : ctx.AlongRead P s front o ∧
      ∀ v, ctx.readFrom o s front = .ok (some v) → ctx.AlongRead P next more v.obj := by
  induction front generalizing s o with
  | nil => exact along
  | cons mid front ih =>
    refine ⟨⟨along.1, fun v read => (ih (along.2 v read)).1⟩, fun v read => ?_⟩
    obtain ⟨w, x, first, onward, rfl⟩ := readFrom_present read
    exact (ih (along.2 w first)).2 x onward

theorem upToSegment_cons (first : UpToSegment (ctx.readFrom o s []) (ctx.readFrom o' t front))
    (onward : ∀ v, ctx.readFrom o s [] = .ok (some v) →
      UpToSegment (ctx.readFrom v.obj next more) (ctx.readFrom v.obj next' more')) :
    UpToSegment (ctx.readFrom o s (next :: more)) (ctx.readFrom o' t (front ++ next' :: more')) := by
  rw [readFrom_cons, readFrom_append]
  generalize ctx.readFrom o s [] = r at first onward
  generalize ctx.readFrom o' t front = r' at first
  cases first with
  | error strip => exact .error strip
  | ok v =>
    cases v with
    | none => exact .refl _
    | some v => exact (onward v rfl).map _

theorem upToSegment_rest (first : UpToSegment (ctx.readFrom o s []) (ctx.readFrom o' t []))
    (rest : List Segment) : UpToSegment (ctx.readFrom o s rest) (ctx.readFrom o' t rest) := by
  cases rest with
  | nil => exact first
  | cons next rest => exact upToSegment_cons first fun _ _ => .refl (ctx.readFrom _ next rest)

section Reads
variable (usual : ctx.Usual)
include usual

theorem upToSegment_readFrom_nil (same : s.SameAccess t) (unadapted : ctx.schema.adapter? o = none) :
    UpToSegment (ctx.readFrom o s []) (ctx.readFrom o t []) := by
  rw [readFrom_nil usual unadapted, readFrom_nil usual unadapted, same.name]
  exact Segment.upToSegment_fetch same o _

theorem upToSegment_spread (spread : s.steps.map AccessStep.segment = t :: front)
    (along : ctx.AlongRead (fun o _ => ctx.schema.adapter? o = none) t front o) :
    UpToSegment (ctx.readFrom o s []) (ctx.readFrom o t front) := by
  cases s.shape with
  | name plain =>
    rw [Segment.steps_of_name plain] at spread
    cases spread
    exact upToSegment_readFrom_nil usual (Segment.sameAccess_name plain) along
  | key indexed own =>
    rw [Segment.steps_of_key indexed own] at spread
    cases spread
    exact upToSegment_readFrom_nil usual (Segment.sameAccess_key indexed own) along
  | both indexed other =>
    rw [Segment.steps_of_both indexed other] at spread
    cases spread
    obtain ⟨unadapted, below⟩ := along
    obtain ⟨unnamed, keyIndexed, keySame⟩ := s.ofKey_spec
    have named : ctx.readFrom o (AccessStep.property s.name).segment [] = ctx.readName o s.name := by
      rw [readFrom_nil usual unadapted, AccessStep.segment, Segment.fetch_name s.isIndexed_mk_name,
        s.name_mk_name]
    rw [List.map_singleton, readFrom_cons, named, readFrom_nil usual unadapted,
      Segment.fetch_other indexed other]
    rw [named] at below
    generalize ctx.readName o s.name = r at below
    rcases r with e | _ | container
    · exact .refl _
    · exact .refl _
    -- What is read by key from the container is read by key from the object that it is.
    · simp only
      rw [readFrom_nil usual (below container rfl), Segment.fetch_own keyIndexed unnamed,
        Indexed.read_eq_map container s]
      exact (Indexed.upToSegment_read keySame _).map _

/-- A read along segments and one along their steps give the same. -/
theorem upToSegment_readFrom
    (spread : ((s :: rest).flatMap Segment.steps).map AccessStep.segment = t :: front)
    (along : ctx.AlongRead (fun o _ => ctx.schema.adapter? o = none) t front o) :
    UpToSegment (ctx.readFrom o s rest) (ctx.readFrom o t front) := by
  -- On the segments that are left: the steps of each go on to the steps of the next one.
  induction rest generalizing s t front o with
  | nil =>
    rw [List.flatMap_cons, List.flatMap_nil, List.append_nil] at spread
    exact upToSegment_spread usual spread along
  | cons next rest ih =>
    obtain ⟨before, u, after, first, onward, rfl⟩ := Segment.spread_cons spread
    obtain ⟨along, below⟩ := AlongRead.append along
    have start := upToSegment_spread usual first along
    apply upToSegment_cons start
    intro v read
    rw [read] at start
    generalize again : ctx.readFrom o t before = r at start
    cases start
    exact ih onward (below v again)

end Reads

/-! Writes -/

/-- What every name in front of a key stands for, along the segments, is there: a part of the object,
and no value that a method computes. -/
def Contained (ctx : Context) (o : Obj) (segments : List Segment) : Prop :=
  ∀ front s back, segments = front ++ s :: back → s.isIndexed = true → s.name ≠ "" →
    ∃ part, ctx.readAll o (front ++ [⟨s.name⟩]) = .ok (some (.shared part))

section Writes
variable (usual : ctx.Usual)
include usual

theorem sameEffect_step {creates : Bool} (same : s.SameAccess t) (unadapted : ctx.schema.adapter? o = none) :
    SameEffect (ctx.step s creates o) (ctx.step t creates o) := by
  obtain ⟨a, chosen, _⟩ := usual.adapter unadapted
  have reads := upToSegment_readFrom_nil usual same unadapted
  have lends : SameEffect (a.borrow ctx s o) (a.borrow ctx t o) := by
    rw [borrow_eq usual unadapted chosen, borrow_eq usual unadapted chosen, same.name]
    exact Segment.sameEffect_lend same _
  have makes : SameEffect (a.instantiate ctx s o) (a.instantiate ctx t o) := by
    rw [instantiate_eq usual unadapted chosen, instantiate_eq usual unadapted chosen, same.name]
    exact Segment.sameEffect_make same (sameEffect_makeName same ctx o _)
  rw [step_eq usual unadapted chosen rfl, step_eq usual unadapted chosen rfl, same.name]
  -- A step reads first. What it does then depends on the answer, which is the same for both segments.
  generalize ctx.readFrom o s [] = r at reads
  generalize ctx.readFrom o t [] = r' at reads
  cases reads with
  | error strip => exact .error o strip
  | ok found =>
    cases found with
    | some =>
      generalize a.borrow ctx s o = b at lends
      generalize a.borrow ctx t o = b' at lends
      cases lends with
      | error o' strip => exact .error o' strip
      | ok place o' =>
        cases place with
        | some => exact .refl _
        | none => exact .error o' rfl
    | none =>
      cases creates with
      | false => exact .refl _
      | true =>
        generalize a.instantiate ctx s o = m at makes
        generalize a.instantiate ctx t o = m' at makes
        cases makes with
        | error o' strip => exact .error o' strip
        | ok => exact .refl _

theorem sameEffect_last (same : s.SameAccess t) (unadapted : ctx.schema.adapter? o = none) :
    SameEffect (ctx.writeFrom v s [] o) (ctx.writeFrom v t [] o) := by
  obtain ⟨a, chosen, _⟩ := usual.adapter unadapted
  rw [writeFrom_last usual unadapted chosen rfl, writeFrom_last usual unadapted chosen rfl,
    write_eq usual unadapted chosen, write_eq usual unadapted chosen, same.name]
  exact Segment.sameEffect_store same (sameEffect_writeName same ctx o _ v)

theorem sameEffect_cons (same : s.SameAccess t) (unadapted : ctx.schema.adapter? o = none)
    (onward : ∀ place o' part, ctx.step s v.isSome o = .ok (some place) o' → o'.at? place = some part →
      SameEffect (ctx.writeFrom v next more part) (ctx.writeFrom v next' more' part)) :
    SameEffect (ctx.writeFrom v s (next :: more) o) (ctx.writeFrom v t (next' :: more') o) := by
  apply SameEffect.bind (sameEffect_step usual same unadapted)
  intro place o' ran
  cases place with
  | none => exact .refl _
  | some place => exact .lent (fun part held => onward place o' part ran held) (.refl _)

end Writes

section Keys
variable (usual : ctx.Usual) (sound : ctx.schema.Sound) (typed : ctx.schema.WellTyped o)
  (indexed : s.isIndexed = true) (other : s.name ≠ "")
  (source : ctx.source o (.property s.name) = some (place, slot))
  (held : o.at? (place ++ [slot]) = some part) (unadapted : ctx.schema.adapter? part = none)
include usual sound typed indexed other source held unadapted

theorem sameEffect_step_key (creates : Bool) : SameEffect (ctx.step s creates o)
    (Edit.inside (place ++ [slot]) part
      (do return (← ctx.step s.ofKey creates).map (place ++ [slot] ++ ·)) o) := by
  -- The name leads to the part, so both sides are left with a key of it, under the texts of two segments.
  have whole := unadapted_of_source source
  obtain ⟨unnamed, keyIndexed, keySame⟩ := s.ofKey_spec
  obtain ⟨a, chosen, _⟩ := usual.adapter whole
  obtain ⟨b, partChosen, _⟩ := usual.adapter unadapted
  have named := readName_of_source sound typed source
  have lent := lendName_of_source sound typed source
  rw [held, Option.map_some] at named lent
  have reads := Indexed.upToSegment_read keySame (.shared part)
  have lends := Indexed.sameEffect_borrow keySame part
  have slots := Indexed.sameSlot ctx part s
  have makes := Indexed.sameEffect_instantiate keySame ctx part
  simp only [Edit.inside_apply, Edit.bind_apply]
  rw [step_eq usual whole chosen rfl, step_eq usual unadapted partChosen rfl,
    readFrom_nil usual whole, readFrom_nil usual unadapted,
    Segment.fetch_other indexed other, named, Segment.fetch_own keyIndexed unnamed,
    borrow_eq usual whole chosen, borrow_eq usual unadapted partChosen,
    Segment.lend_other indexed other lent held, Segment.lend_own keyIndexed unnamed,
    instantiate_eq usual whole chosen, instantiate_eq usual unadapted partChosen]
  simp only [Segment.make, Segment.enter_other indexed other lent,
    Segment.enter_own keyIndexed unnamed, Edit.bind_apply, Edit.inside_apply,
    Edit.lent_of_at? held, Edit.lent_nil]
  generalize Indexed.borrow s part = l at lends slots
  generalize Indexed.read (.shared part) s = r at reads slots
  generalize Indexed.read (.shared part) s.ofKey = r' at reads
  -- Reading and lending by key end in one slot, so how one of them ends decides the other.
  cases slots with
  | failed =>
    cases reads with
    | error strip =>
      simp only [Obj.replaceAt_at? held]
      exact .error o strip
  | absent =>
    cases reads
    cases creates with
    | false =>
      simp only [Bool.false_eq_true, if_false, Edit.pure_apply, Option.map_none, Obj.replaceAt_at? held]
      exact .refl _
    | true =>
      simp only [if_true]
      generalize Indexed.instantiate ctx s part = m at makes
      generalize Indexed.instantiate ctx s.ofKey part = m' at makes
      cases makes with
      | error part' strip => exact .error _ strip
      | ok => exact .refl _
  | found =>
    cases reads
    generalize Indexed.borrow s.ofKey part = l' at lends
    cases lends
    exact .refl _

theorem sameEffect_writeFrom_key (v : Option Obj) (rest : List Segment) : SameEffect
    (ctx.writeFrom v s rest o)
    (Edit.inside (place ++ [slot]) part (ctx.writeFrom v s.ofKey rest) o) := by
  cases rest with
  | nil =>
    have whole := unadapted_of_source source
    obtain ⟨unnamed, keyIndexed, keySame⟩ := s.ofKey_spec
    obtain ⟨a, chosen, _⟩ := usual.adapter whole
    obtain ⟨b, partChosen, _⟩ := usual.adapter unadapted
    have lent := lendName_of_source sound typed source
    rw [held, Option.map_some] at lent
    rw [writeFrom_last usual whole chosen rfl, write_eq usual whole chosen, Segment.store,
      Segment.enter_other indexed other lent, Edit.lent_of_at? held]
    apply SameEffect.inside
    rw [writeFrom_last usual unadapted partChosen rfl, write_eq usual unadapted partChosen,
      Segment.store, Segment.enter_own keyIndexed unnamed, Edit.lent_nil]
    exact Indexed.sameEffect_write keySame v part
  | cons next rest =>
    have goes_on (s : Segment) : ctx.writeFrom v s (next :: rest) =
        ctx.step s v.isSome >>= Edit.onward (ctx.writeFrom v next rest) := rfl
    rw [goes_on, goes_on, Edit.inside_onward held]
    exact (sameEffect_step_key usual sound typed indexed other source held unadapted _).bind
      fun _ _ _ => .refl _

theorem upToSegment_readFrom_key :
    UpToSegment (ctx.readFrom o s []) (ctx.readFrom part s.ofKey []) := by
  obtain ⟨unnamed, keyIndexed, keySame⟩ := s.ofKey_spec
  have named := readName_of_source sound typed source
  rw [held, Option.map_some] at named
  rw [readFrom_nil usual (unadapted_of_source source), readFrom_nil usual unadapted,
    Segment.fetch_other indexed other, named, Segment.fetch_own keyIndexed unnamed]
  exact Indexed.upToSegment_read keySame _

end Keys

theorem Contained.of_key (contained : ctx.Contained o (s :: rest)) (unnamed : t.name = "")
    (same : UpToSegment (ctx.readFrom o s []) (ctx.readFrom part t [])) :
    ctx.Contained part (t :: rest) := by
  intro front mid back split indexed other
  cases front with
  | nil =>
    cases split
    exact absurd unnamed other
  | cons _ front =>
    cases split
    obtain ⟨child, read⟩ := contained (s :: front) mid back rfl indexed other
    exact ⟨child, (upToSegment_rest same _).eq_ok read⟩

section Runs
variable (usual : ctx.Usual) (sound : ctx.schema.Sound)
include usual sound

theorem Contained.of_step (contained : ctx.Contained o (s :: rest)) (typed : ctx.schema.WellTyped o)
    (plain : ctx.Plain o s.name) {creates : Bool} {place : Place}
    (ran : ctx.step s creates o = .ok (some place) o') (held : o'.at? place = some part) :
    ctx.Contained part rest := by
  intro front t back split indexed other
  subst split
  obtain ⟨child, read⟩ := contained (s :: front) t back rfl indexed other
  refine ⟨child, ?_⟩
  have stepped : ctx.Stepped False s creates o (ctx.step s creates o) :=
    stepped_step usual sound typed plain nofun
  rw [ran] at stepped
  cases stepped with
  | entered reads held' =>
    cases held.symm.trans held'
    have first := readFrom_last usual sound typed reads held
    rw [List.cons_append, readAll_cons_of_shared first] at read
    exact read
  | made _ absent =>
    -- Nothing is read past a part that was missing.
    have missing : ctx.readAll o (s :: front ++ [⟨t.name⟩]) = .ok none := readFrom_absent absent _
    rw [missing] at read
    cases read

theorem Contained.sits (contained : ctx.Contained o (s :: rest)) (typed : ctx.schema.WellTyped o)
    (plain : ctx.Plain o (⟨s.name⟩ : Segment).name) (indexed : s.isIndexed = true) (other : s.name ≠ "") :
    ∃ place slot part, ctx.source o (.property s.name) = some (place, slot) ∧
      o.at? (place ++ [slot]) = some part := by
  obtain ⟨part, container⟩ := contained [] s rest rfl indexed other
  have present : ctx.readFrom o ⟨s.name⟩ [] = .ok (some (.shared part)) := container
  rcases reads_or_truth usual sound typed plain present with ⟨place, slot, reads, held⟩ | ⟨b, truth⟩
  · rw [Segment.steps_of_name s.isIndexed_mk_name, s.name_mk_name] at reads
    exact ⟨place, slot, part, reaches_singleton.mp reads, held⟩
  · cases truth

theorem sameEffect_spread (typed : ctx.schema.WellTyped o)
    (spread : s.steps.map AccessStep.segment = t :: front)
    (along : ctx.Along v.isSome (fun o s => ctx.Plain o s.name) t (front ++ more) o)
    (contained : ctx.Contained o (s :: rest))
    (single : ∀ o s t, ctx.schema.WellTyped o → s.SameAccess t →
      ctx.Along v.isSome (fun o s => ctx.Plain o s.name) t more o → ctx.Contained o (s :: rest) →
      SameEffect (ctx.writeFrom v s rest o) (ctx.writeFrom v t more o)) :
    SameEffect (ctx.writeFrom v s rest o) (ctx.writeFrom v t (front ++ more) o) := by
  cases s.shape with
  | name plain =>
    rw [Segment.steps_of_name plain] at spread
    cases spread
    exact single o s _ typed (Segment.sameAccess_name plain) along contained
  | key indexed own =>
    rw [Segment.steps_of_key indexed own] at spread
    cases spread
    exact single o s _ typed (Segment.sameAccess_key indexed own) along contained
  | both indexed other =>
    rw [Segment.steps_of_both indexed other] at spread
    cases spread
    obtain ⟨plain, below⟩ := along
    -- The container is there, so the step by the name enters it and makes nothing.
    obtain ⟨place, slot, part, source, held⟩ := contained.sits usual sound typed plain indexed other
    have reads : ctx.ReadsFrom o (⟨s.name⟩ : Segment).steps place slot := by
      rw [Segment.steps_of_name s.isIndexed_mk_name, s.name_mk_name]
      exact .last source
    have enters := step_of_at? usual sound typed reads held v.isSome
    have write : ctx.writeFrom v ⟨s.name⟩ (s.ofKey :: more) o =
        Edit.inside (place ++ [slot]) part (ctx.writeFrom v s.ofKey more) o := by
      rw [writeFrom_cons, enters]
      exact Edit.lent_of_at? held _ _
    have along := below _ _ _ enters held
    have unadapted := along.head.unadapted
    have keyed := contained.of_key s.ofKey_spec.1
      (upToSegment_readFrom_key usual sound typed indexed other source held unadapted)
    have onward := single part s.ofKey s.ofKey (typed.at? held) ⟨rfl, rfl, rfl⟩ along keyed
    have first := sameEffect_writeFrom_key usual sound typed indexed other source held unadapted v rest
    exact first.trans (write ▸ onward.inside o)

/-- A write along segments and one along their steps do the same. -/
theorem sameEffect_writeFrom (typed : ctx.schema.WellTyped o)
    (spread : ((s :: rest).flatMap Segment.steps).map AccessStep.segment = t :: front)
    (along : ctx.Along v.isSome (fun o s => ctx.Plain o s.name) t front o)
    (contained : ctx.Contained o (s :: rest)) :
    SameEffect (ctx.writeFrom v s rest o) (ctx.writeFrom v t front o) := by
  induction rest generalizing s t front o with
  | nil =>
    rw [List.flatMap_cons, List.flatMap_nil, List.append_nil] at spread
    rw [← List.append_nil front] at along ⊢
    apply sameEffect_spread usual sound typed spread along contained
    intro o s t _ same plain _
    exact sameEffect_last usual same plain.unadapted
  | cons next rest ih =>
    obtain ⟨before, u, after, first, onward, rfl⟩ := Segment.spread_cons spread
    apply sameEffect_spread usual sound typed first along contained
    intro o s t typed same along contained
    have plain : ctx.Plain o s.name := same.name ▸ along.head
    apply sameEffect_cons usual same plain.unadapted
    intro place o' part ran held
    have typed' := typed_of_step usual sound typed plain ran held
    have contained' := contained.of_step usual sound typed plain ran held
    -- The step along the other path is the same, so it leads to the same part.
    have again : SameEffect (ctx.step s v.isSome o) (ctx.step t v.isSome o) :=
      sameEffect_step usual same plain.unadapted
    rw [ran] at again
    generalize ran' : ctx.step t v.isSome o = r at again
    cases again
    exact ih typed' onward (along.2 _ _ _ ran' held) contained'

end Runs

end Context

theorem Path.spread (p : Path) : ((p.first :: p.rest).flatMap Segment.steps).map AccessStep.segment =
    (ofSteps p.steps).first :: (ofSteps p.steps).rest := by
  obtain ⟨a, more, first⟩ := p.first.steps_eq_cons
  simp only [steps, segments, List.flatMap_cons, first, List.cons_append, ofSteps, List.map_cons]

/-- Only the steps of a path matter. Without adapters of their own on the way, two paths of the same
steps are read alike. They are written alike, too, where no accessor method claims a name on the way
and what the names in front of keys stand for is there. -/
theorem Navigator.same_steps {s : Schema} {n : Navigator} {o : Obj} {p q : Path}
    (found : n.obj? = some o) (same : q.steps = p.steps) :
    ((Context.standard s).AlongRead (fun o _ => s.adapter? o = none) (Path.ofSteps p.steps).first
        (Path.ofSteps p.steps).rest o →
      UpToSegment (n.read (.standard s) p) (n.read (.standard s) q)) ∧
    ∀ v, s.Sound → s.WellTyped o →
      (Context.standard s).Along v.isSome (fun o segment => (Context.standard s).Plain o segment.name)
        (Path.ofSteps p.steps).first (Path.ofSteps p.steps).rest o →
      (Context.standard s).Contained o p.segments → (Context.standard s).Contained o q.segments →
      (n.write (.standard s) q v).1 = (n.write (.standard s) p v).1 ∧
        UpToSegment (n.write (.standard s) p v).2 (n.write (.standard s) q v).2 := by
  have usual := Context.usual_standard s
  have spread := same ▸ q.spread
  constructor
  · intro along
    simp only [read, found]
    exact (Context.upToSegment_readFrom usual p.spread along).trans
      (Context.upToSegment_readFrom usual spread along).symm
  · intro v sound typed along contained contained'
    have first := Context.sameEffect_writeFrom usual sound typed p.spread along contained
    have second := Context.sameEffect_writeFrom usual sound typed spread along contained'
    have both : SameEffect ((Context.standard s).writePath p v o) ((Context.standard s).writePath q v o) :=
      first.trans second.symm
    rcases changeable?_cases found with fixed | changeable
    · simp only [write, edit_of_fixed fixed]
      exact ⟨trivial, .refl _⟩
    · simp only [write, edit_of_changeable changeable, both.after]
      exact ⟨trivial, both.outcome⟩

open Sample in
/-- A note of a tenant, by a key whose bracket stays open and by a segment of its own. -/
theorem Navigator.same_steps_door :
    UpToSegment ((writable (tenant "Ann" [])).read (.standard tenancy) (.ofString "notes[door"))
      ((writable (tenant "Ann" [])).read (.standard tenancy) (.ofString "notes.[door]s")) ∧
    ((writable (tenant "Ann" [])).write (.standard tenancy) (.ofString "notes.[door]s")
      (some (.str "7"))).1 =
    ((writable (tenant "Ann" [])).write (.standard tenancy) (.ofString "notes[door")
      (some (.str "7"))).1 := by
  have typed : tenancy.WellTyped (tenant "Ann" []) := wellTyped_tenant "Ann" (by simp) (by simp)
  have both := same_steps (s := tenancy) (n := writable (tenant "Ann" [])) (p := .ofString "notes[door")
    (q := .ofString "notes.[door]s") rfl rfl
  refine ⟨both.1 (.of_all (fun o _ => tenancy_fieldsOnly.unadapted o) _ _ _), ?_⟩
  refine (both.2 (some (.str "7")) tenancy_sound typed
    (.of_all (fun o segment => tenancy_fieldsOnly.plain o segment.name) _ _ _) ?_ ?_).1
  · rintro (_ | ⟨_, front⟩) t back split indexed other
    · cases split
      exact ⟨_, rfl⟩
    · cases front <;> cases split
  · rintro (_ | ⟨_, _ | ⟨_, front⟩⟩) t back split indexed other
    · cases split
      cases indexed
    · cases split
      exact absurd rfl other
    · cases front <;> cases split

end ObjectGraph
