import ObjectGraph.Proofs.RoundTrip
import ObjectGraph.Proofs.Sameness

/-! Writing the same path again.

Of two values that a path accepts the one written last counts, and nothing tells that another was
there: the first write makes what is missing on the way, the second one enters it, and both leave what
the second write alone leaves. Writing what was read changes nothing.
-/

set_option autoImplicit false
namespace ObjectGraph
namespace Context

variable {ctx : Context} {o o₁ o₂ : Obj} {s : Segment} {v w : Obj}

section Runs
variable (usual : ctx.Usual) (sound : ctx.schema.Sound)
include sound

theorem lendsBoth_assign {place : Place} {slot : Slot} {v : Option Obj}
    (typed : ctx.schema.WellTyped o) (typed' : ctx.schema.WellTyped (o.assign place slot v))
    (reads : ctx.ReadsFrom o s.steps place slot) (indexed : s.isIndexed = true) (other : s.name ≠ "") :
    ctx.LendsBoth o (o.assign place slot v) [.property s.name] (ctx.lendName o.isMap s.name o)
      (ctx.lendName o.isMap s.name (o.assign place slot v)) := by
  rw [Segment.steps_of_both indexed other] at reads
  cases reads with
  | @step _ container _ _ base below name _ source held rest =>
    obtain ⟨_, rfl⟩ := keySlot?_of_reads rest
    rw [List.append_nil] at typed' ⊢
    have held' : (o.assign (base ++ [name]) slot v).at? (base ++ [name]) = some (container.put slot v) := by
      rw [Obj.assign_eq held, Obj.at?_replaceAt_self _ held]
    exact lendsBoth_of_source sound typed typed' (Obj.ty_assign _ _ _ _) source held held'
      (Obj.ty_put _ _ _) (Obj.length?_put _ _ _)

include usual

theorem writeFrom_last_again (typed : ctx.schema.WellTyped o) (vTyped : ctx.schema.WellTyped v)
    (plain : ctx.Plain o s.name) (declared : ctx.DeclaredOnce o)
    (first : ctx.writeFrom (some v) s [] o = .ok () o₁)
    (second : ctx.writeFrom (some w) s [] o = .ok () o₂) :
    ctx.writeFrom (some w) s [] o₁ = .ok () o₂ := by
  obtain ⟨a, chosen, _⟩ := usual.adapter plain.unadapted
  rw [writeFrom_last usual plain.unadapted chosen rfl] at first second
  have stores := stores_write usual sound typed chosen plain (some v)
  rw [first] at stores
  cases stores with
  | nothing isNone => cases isNone
  | @stored place slot writes admits =>
    -- The first write stored its value where the second one stores, and a slot keeps the last value only.
    have reads := reads_of_writes sound typed plain declared writes
    have typed' : ctx.schema.WellTyped (o.assign place slot (some v)) :=
      typed.assign admits fun x same => Option.some.inj same ▸ vTyped
    have length := (Obj.agreeOff_assign o place slot (some v)).length? (by simp)
    have both := storesBoth_write usual sound typed chosen plain (Obj.ty_assign _ _ _ _) length typed'
      (lendsBoth_assign sound typed typed' reads) (some w)
    rw [second] at both
    rw [writeFrom_last usual plain.unadapted chosen (Obj.ty_assign _ _ _ _)]
    generalize a.write ctx s (some w) (o.assign place slot (some v)) = r at both ⊢
    cases both with
    | nothing isNone => cases isNone
    | stored again =>
      obtain ⟨rfl, rfl⟩ := writes.unique again
      rw [Obj.assign_assign]

theorem writeFrom_again (typed : ctx.schema.WellTyped o) (vTyped : ctx.schema.WellTyped v)
    {rest : List Segment}
    (along : ctx.Along true (fun o s => ctx.Plain o s.name ∧ (True → ctx.DeclaredOnce o)) s rest o)
    (first : ctx.writeFrom (some v) s rest o = .ok () o₁)
    (second : ctx.writeFrom (some w) s rest o = .ok () o₂) :
    ctx.writeFrom (some w) s rest o₁ = .ok () o₂ := by
  -- On the segments that are left. The second write finds the first step taken: it enters the part
  -- that the first write has changed, in which the others were written before.
  induction rest generalizing s o o₁ o₂ with
  | nil =>
    obtain ⟨plain, declared⟩ := along.head
    exact writeFrom_last_again usual sound typed vTyped plain (declared trivial) first second
  | cons next rest ih =>
    obtain ⟨plain, declared⟩ := along.head
    have wrote : ctx.Wrote True (some v) s (next :: rest) o _ _ :=
      wrote_of_ok usual sound typed along first
    have typed₁ := (wrote.keeps usual sound typed fun x same => Option.some.inj same ▸ vTyped).1
    have stepped : ctx.Stepped True s true o _ := stepped_step usual sound typed plain declared
    rw [writeFrom_cons] at first second ⊢
    simp only [Option.isSome_some] at first second ⊢
    generalize ran : ctx.step s true o = r at stepped first second
    cases stepped with
    | failed => cases first
    | skipped never => cases never
    | entered reads held =>
      obtain ⟨part₁, wrote₁, rfl⟩ := (Edit.lent_ok held).mp first
      obtain ⟨part₂, wrote₂, rfl⟩ := (Edit.lent_ok held).mp second
      have held₁ := Obj.at?_replaceAt_self part₁ held
      simp only [step_of_at? usual sound typed₁ (reads.replaceAt held part₁) held₁]
      refine (Edit.lent_ok held₁).mpr ⟨part₂, ?_, Obj.replaceAt_replaceAt _ _ held⟩
      exact ih (typed.at? held) (along.2 _ _ _ ran held) wrote₁ wrote₂
    -- The first write makes the object that the second one enters.
    | @made place slot new _ _ reads _ admits creates =>
      have held := Obj.at?_assign new admits.hasSlotAt
      obtain ⟨new₁, wrote₁, rfl⟩ := (Edit.lent_ok held).mp first
      obtain ⟨new₂, wrote₂, rfl⟩ := (Edit.lent_ok held).mp second
      have held₁ := Obj.at?_assign new₁ admits.hasSlotAt
      rw [Obj.assign_replaceAt _ _ admits.hasSlotAt] at typed₁ ⊢
      simp only [step_of_at? usual sound typed₁ (reads.assign _) held₁]
      refine (Edit.lent_ok held₁).mpr ⟨new₂, ?_, ?_⟩
      · exact ih (creates.wellTyped usual sound) (along.2 _ _ _ ran held) wrote₁ wrote₂
      · rw [Obj.assign_replaceAt _ _ admits.hasSlotAt, Obj.assign_replaceAt _ _ admits.hasSlotAt]
    | lost _ _ never => exact absurd trivial never

theorem Wrote.put_back {rest : List Segment} {value : Value} {outcome : Except AccessError Unit}
    (wrote : ctx.Wrote True (some value.obj) s rest o outcome o₁) (typed : ctx.schema.WellTyped o)
    (succeeded : outcome = .ok ()) (read : ctx.readFrom o s rest = .ok (some value)) :
    ∃ place slot, o.at? (place ++ [slot]) = some value.obj ∧
      o₁ = o.assign place slot (some value.obj) := by
  induction wrote with
  | refused => cases succeeded
  | idle absent => cases absent
  | @stored _ _ place slot reads admits =>
    have reads := reads trivial
    obtain ⟨a, chosen, _⟩ := usual.adapter reads.unadapted
    rw [readFrom_of_adapter chosen] at read
    obtain ⟨_, _, others, held⟩ :=
      reads_of_read usual sound typed chosen reads.unadapted reads.sourced read
    obtain ⟨rfl, rfl⟩ := reads.unique others
    exact ⟨_, _, held, rfl⟩
  | entered reads held _ ih =>
    rw [readFrom_below usual sound typed reads held] at read
    obtain ⟨below, slot, sits, rfl⟩ := ih (typed.at? held) succeeded read
    refine ⟨_, slot, ?_, Obj.replaceAt_assign held below slot _⟩
    rw [List.append_assoc, Obj.at?_below held]
    exact sits
  | made _ absent =>
    rw [readFrom_absent absent] at read
    cases read
  | lost => cases succeeded

end Runs

end Context

/-- A value written after another along the same path counts as if it were written alone, and writing
what was read changes nothing, where no accessor method claims a name on the path and no class
redeclares a field. -/
theorem Navigator.rewrites {s : Schema} {n : Navigator} {o v : Obj} {p : Path} (sound : s.Sound)
    (found : n.obj? = some o) (typed : s.WellTyped o)
    (along : (Context.standard s).PlainAlong True o p (some v))
    (accepted : (n.write (.standard s) p (some v)).2 = .ok ()) :
    (∀ w, s.WellTyped v → (n.write (.standard s) p (some w)).2 = .ok () →
      (n.write (.standard s) p (some v)).1.write (.standard s) p (some w) =
        n.write (.standard s) p (some w)) ∧
    (∀ value, n.read (.standard s) p = .ok (some value) → value.obj = v →
      ∃ o', (n.write (.standard s) p (some v)).1.obj? = some o' ∧ o'.Same o) := by
  have usual := Context.usual_standard s
  obtain ⟨changeable, o₁, first⟩ := changeable_of_edit found accepted
  have written : n.write (.standard s) p (some v) = (n.withObj o₁, .ok ()) :=
    edit_of_ok changeable first
  refine ⟨fun w vTyped accepted => ?_, fun value read same => ?_⟩
  · obtain ⟨_, o₂, second⟩ := changeable_of_edit found accepted
    have again := Context.writeFrom_again usual sound typed vTyped along first second
    calc (n.write (.standard s) p (some v)).1.write (.standard s) p (some w)
        = (n.withObj o₁).write (.standard s) p (some w) := by rw [written]
      _ = ((n.withObj o₁).withObj o₂, .ok ()) := edit_of_ok (changeable?_withObj changeable o₁) again
      _ = (n.withObj o₂, .ok ()) := by rw [withObj_withObj]
      _ = n.write (.standard s) p (some w) := (edit_of_ok changeable second).symm
  · subst same
    have wrote := Context.wrote_of_ok usual sound typed along first
    simp only [Navigator.read, found] at read
    obtain ⟨place, slot, held, rfl⟩ := wrote.put_back usual sound typed rfl read
    exact ⟨_, by rw [written, obj?_withObj found], Obj.assign_same held⟩

open Sample in
/-- A city written over another in a home that the first write makes, and a name written back. -/
theorem Navigator.rewrites_tenant :
    ((writable (tenant "Ann" [])).write (.standard tenancy) (.ofString "home.city")
      (some (.str "Rome"))).1.write (.standard tenancy) (.ofString "home.city") (some (.str "Oslo")) =
        (writable (tenant "Ann" [])).write (.standard tenancy) (.ofString "home.city")
          (some (.str "Oslo")) ∧
    ∃ o', ((writable (tenant "Ann" [])).write (.standard tenancy) (.ofString "name")
      (some (.str "Ann"))).1.obj? = some o' ∧ o'.Same (tenant "Ann" []) := by
  have typed : tenancy.WellTyped (tenant "Ann" []) := wellTyped_tenant "Ann" (by simp) (by simp)
  constructor
  · exact (rewrites tenancy_sound rfl typed (tenancy_fieldsOnly.plainAlong _ _ _ _) rfl).1 _
      (.scalar trivial) rfl
  · exact (rewrites tenancy_sound rfl typed (tenancy_fieldsOnly.plainAlong _ _ _ _) rfl).2
      (.shared (.str "Ann")) rfl rfl

end ObjectGraph
