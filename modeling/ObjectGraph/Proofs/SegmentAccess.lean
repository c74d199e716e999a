import ObjectGraph.Proofs.PropertyAccess

/-! Access by segment: a name, a key, or a name and then a key.

Maps and beans look into a container in the same way once the value of a name is at hand. What holds
of the name alone and of the key alone therefore holds of the whole segment.
-/

set_option autoImplicit false
namespace ObjectGraph

namespace Segment

variable {s : Segment}

theorem steps_of_name (plain : s.isIndexed = false) : s.steps = [.property s.name] := by
  unfold isIndexed at plain
  cases found : s.key? with
  | none => simp only [steps, found]
  | some key => rw [found] at plain; cases plain

theorem steps_of_key (indexed : s.isIndexed = true) (own : s.name = "") : s.steps = [.key s.key] := by
  obtain ⟨key, found⟩ := Option.isSome_iff_exists.mp indexed
  simp only [steps, Segment.key, found, own, if_true, Option.getD_some]

theorem steps_of_both (indexed : s.isIndexed = true) (other : s.name ≠ "") :
    s.steps = [.property s.name, .key s.key] := by
  obtain ⟨key, found⟩ := Option.isSome_iff_exists.mp indexed
  simp only [steps, Segment.key, found, other, if_false, Option.getD_some]

theorem steps_eq_cons (s : Segment) : ∃ a more, s.steps = a :: more := by
  unfold steps
  cases s.key? with
  | none => exact ⟨_, _, rfl⟩
  | some key => by_cases own : s.name = "" <;> simp only [own, if_true, if_false] <;> exact ⟨_, _, rfl⟩

/-- What a segment says: a name, a key, or a name and then a key. -/
inductive Shape (s : Segment) : Prop where
  | name : s.isIndexed = false → s.Shape
  | key : s.isIndexed = true → s.name = "" → s.Shape
  | both : s.isIndexed = true → s.name ≠ "" → s.Shape

theorem shape (s : Segment) : s.Shape := by
  cases indexed : s.isIndexed with
  | false => exact .name indexed
  | true =>
    by_cases own : s.name = ""
    · exact .key indexed own
    · exact .both indexed own

/-- Reading what the segment leads to in an object, where `readName` reads the value of the name. -/
def fetch (s : Segment) (o : Obj) (readName : Except AccessError (Option Value)) :
    Except AccessError (Option Value) :=
  if s.isIndexed then do
    match ← if s.name = "" then .ok (some (.shared o)) else readName with
    | some container => Indexed.read container s
    | none => return none
  else readName

def containerPlace (s : Segment) (lendName : Edit AccessError (Option Place)) :
    Edit AccessError (Option Place) :=
  if s.name = "" then pure (some []) else lendName

def lend (s : Segment) (lendName : Edit AccessError (Option Place)) :
    Edit AccessError (Option Place) :=
  if s.isIndexed then do
    match ← s.containerPlace lendName with
    | some place => return (← Edit.lent place (Indexed.borrow s) (return none)).map (place ++ ·)
    | none => return none
  else lendName

def existingContainer (s : Segment) (lendName : Edit AccessError (Option Place)) :
    Edit AccessError Place := do
  match ← s.containerPlace lendName with
  | some place => return place
  | none => throw (s.notIndexable absentName)

/-- Acting on the container that the key looks into, or by the name where there is no key. -/
def enter {α : Type} (s : Segment) (lendName : Edit AccessError (Option Place))
    (byKey : Place → Edit AccessError α) (byName : Edit AccessError α) : Edit AccessError α :=
  if s.isIndexed then do
    let place ← s.existingContainer lendName
    byKey place
  else byName

def store (s : Segment) (lendName : Edit AccessError (Option Place))
    (writeName : Edit AccessError Unit) (v : Option Obj) : Edit AccessError Unit :=
  s.enter lendName
    (fun place => Edit.lent place (Indexed.write s v) (throw (s.notIndexable absentName))) writeName

def make (s : Segment) (ctx : Context) (lendName : Edit AccessError (Option Place))
    (makeName : Edit AccessError Place) : Edit AccessError Place :=
  s.enter lendName
    (fun place => do
      return place ++ (← Edit.lent place (Indexed.instantiate ctx s)
        (throw (s.notIndexable absentName)))) makeName

variable {ctx : Context} {o : Obj} {lendName : Edit AccessError (Option Place)}

theorem existingContainer_own (own : s.name = "") (lendName : Edit AccessError (Option Place)) :
    s.existingContainer lendName o = .ok [] o := by
  simp only [existingContainer, containerPlace, own, if_true, Edit.bind_apply, Edit.pure_apply]

theorem existingContainer_other (other : s.name ≠ "") (lendName : Edit AccessError (Option Place)) :
    s.existingContainer lendName o =
      match lendName o with
      | .ok (some place) o' => .ok place o'
      | .ok none o' => .error (s.notIndexable absentName) o'
      | .error e o' => .error e o' := by
  simp only [existingContainer, containerPlace, other, if_false, Edit.bind_apply]
  rcases lendName o with ⟨place, o'⟩ | ⟨e, o'⟩
  · cases place <;> rfl
  · rfl

theorem fetch_own (indexed : s.isIndexed = true) (own : s.name = "")
    (readName : Except AccessError (Option Value)) : s.fetch o readName = Indexed.read (.shared o) s := by
  simp only [fetch, indexed, own, if_true]
  rfl

theorem fetch_other (indexed : s.isIndexed = true) (other : s.name ≠ "")
    (readName : Except AccessError (Option Value)) : s.fetch o readName =
      match readName with
      | .ok (some container) => Indexed.read container s
      | .ok none => .ok none
      | .error e => .error e := by
  simp only [fetch, indexed, other, if_true, if_false]
  rcases readName with e | _ | container <;> rfl

theorem fetch_name (plain : s.isIndexed = false) (readName : Except AccessError (Option Value)) :
    s.fetch o readName = readName := by
  simp only [fetch, plain, Bool.false_eq_true, if_false]

theorem lend_own (indexed : s.isIndexed = true) (own : s.name = "")
    (lendName : Edit AccessError (Option Place)) : s.lend lendName o = Indexed.borrow s o := by
  simp only [lend, indexed, own, if_true, containerPlace, Edit.bind_apply, Edit.pure_apply,
    Edit.lent_nil, List.nil_append, Option.map_id']
  cases Indexed.borrow s o <;> rfl

theorem enter_own {α : Type} (indexed : s.isIndexed = true) (own : s.name = "")
    (lendName : Edit AccessError (Option Place)) (byKey : Place → Edit AccessError α)
    (byName : Edit AccessError α) : s.enter lendName byKey byName o = byKey [] o := by
  simp only [enter, indexed, if_true, Edit.bind_apply, existingContainer_own own]

section Held
variable {base : Place} (indexed : s.isIndexed = true) (other : s.name ≠ "")
  (lent : lendName o = .ok (some base) o)
include indexed other lent

theorem enter_other {α : Type} (byKey : Place → Edit AccessError α) (byName : Edit AccessError α) :
    s.enter lendName byKey byName o = byKey base o := by
  simp only [enter, indexed, if_true, Edit.bind_apply, existingContainer_other other, lent]

theorem lend_other {part : Obj} (held : o.at? base = some part) : s.lend lendName o =
    Edit.inside base part (do return (← Indexed.borrow s).map (base ++ ·)) o := by
  simp only [lend, indexed, if_true, containerPlace, other, if_false, Edit.bind_apply, lent,
    Edit.lent_of_at? held, Edit.inside_apply]
  cases Indexed.borrow s part <;> rfl

end Held

theorem fetch_of_at? {readName : Except AccessError (Option Value)} {place : Place} {slot : Slot}
    {part : Obj} (named : ∀ place slot, ctx.source o (.property s.name) = some (place, slot) →
      readName = .ok ((o.at? (place ++ [slot])).map Value.shared))
    (reads : ctx.ReadsFrom o s.steps place slot) (held : o.at? (place ++ [slot]) = some part) :
    s.fetch o readName = .ok (some (.shared part)) := by
  unfold fetch
  cases s.shape with
  | name plain =>
    rw [steps_of_name plain] at reads
    simp only [plain, Bool.false_eq_true, if_false, named _ _ (Context.reaches_singleton.mp reads),
      held, Option.map_some]
  | key indexed own =>
    rw [steps_of_key indexed own] at reads
    obtain ⟨denoted, rfl⟩ := Context.keySlot?_of_reads reads
    rw [List.nil_append, Obj.at?_singleton] at held
    simp only [indexed, own, if_true]
    exact Indexed.read_of_part? false denoted held
  | both indexed other =>
    rw [steps_of_both indexed other] at reads
    cases reads with
    | step found held' rest =>
      obtain ⟨denoted, rfl⟩ := Context.keySlot?_of_reads rest
      rw [List.append_nil, Obj.at?_concat held'] at held
      simp only [indexed, other, if_true, if_false, named _ _ found, held']
      exact Indexed.read_of_part? false denoted held

theorem reads_of_fetch {readName : Except AccessError (Option Value)} {v : Value}
    (named : ∀ place slot, ctx.source o (.property s.name) = some (place, slot) →
      readName = .ok ((o.at? (place ++ [slot])).map Value.shared))
    (sourced : ∃ a ∈ s.steps.head?, (ctx.source o a).isSome)
    (read : s.fetch o readName = .ok (some v)) :
    ∃ place slot, ctx.ReadsFrom o s.steps place slot ∧ o.at? (place ++ [slot]) = some v.obj := by
  obtain ⟨a, first, some⟩ := sourced
  obtain ⟨⟨place, slot⟩, source⟩ := Option.isSome_iff_exists.mp some
  unfold fetch at read
  -- The steps of a segment follow its shape, and so does what is fetched.
  cases s.shape with
  | name plain =>
    rw [steps_of_name plain] at first ⊢
    cases first
    simp only [plain, Bool.false_eq_true, if_false, named _ _ source, Except.ok.injEq,
      Option.map_eq_some_iff] at read
    obtain ⟨part, held, rfl⟩ := read
    exact ⟨place, slot, .last source, held⟩
  | key indexed own =>
    simp only [indexed, own, if_true, bind, Except.bind, Value.shared] at read
    obtain ⟨target, denoted, held, _⟩ := Indexed.part?_of_read read
    rw [steps_of_key indexed own]
    exact ⟨[], target, .last (Context.source_key.mpr denoted), (Obj.at?_singleton o target).trans held⟩
  | both indexed other =>
    rw [steps_of_both indexed other] at first ⊢
    cases first
    simp only [indexed, other, if_true, if_false, named _ _ source, bind, Except.bind] at read
    cases container : o.at? (place ++ [slot]) with
    | none => rw [container] at read; cases read
    | some part =>
      rw [container] at read
      obtain ⟨target, denoted, held, _⟩ := Indexed.part?_of_read read
      refine ⟨_, target, .step source container (.last (Context.source_key.mpr denoted)), ?_⟩
      rw [List.append_nil, Obj.at?_concat container]
      exact held

theorem lend_of_at? {place : Place} {slot : Slot} {part : Obj}
    (named : ∀ place slot, ctx.source o (.property s.name) = some (place, slot) →
      lendName o = .ok ((o.at? (place ++ [slot])).map fun _ => place ++ [slot]) o)
    (reads : ctx.ReadsFrom o s.steps place slot) (held : o.at? (place ++ [slot]) = some part) :
    s.lend lendName o = .ok (some (place ++ [slot])) o := by
  unfold lend containerPlace
  cases s.shape with
  | name plain =>
    rw [steps_of_name plain] at reads
    simp only [plain, Bool.false_eq_true, if_false, named _ _ (Context.reaches_singleton.mp reads),
      held, Option.map_some]
  | key indexed own =>
    rw [steps_of_key indexed own] at reads
    obtain ⟨denoted, rfl⟩ := Context.keySlot?_of_reads reads
    rw [List.nil_append, Obj.at?_singleton] at held
    simp only [indexed, own, if_true, Edit.bind_apply, Edit.pure_apply, Edit.lent_nil,
      Indexed.borrow_of_part? denoted held, Option.map_some, List.nil_append]
  | both indexed other =>
    rw [steps_of_both indexed other] at reads
    cases reads with
    | step found held' rest =>
      obtain ⟨denoted, rfl⟩ := Context.keySlot?_of_reads rest
      rw [List.append_nil, Obj.at?_concat held'] at held
      simp only [indexed, other, if_true, if_false, named _ _ found, held', Edit.bind_apply,
        Option.map_some, Edit.lent_of_at? held', Edit.inside_apply,
        Indexed.borrow_of_part? denoted held, Obj.replaceAt_at? held', Edit.pure_apply,
        List.append_nil]

section Lends
variable (lends : ctx.Lends o [.property s.name] (lendName o))
include lends

theorem lends_lend : ctx.Lends o s.steps (s.lend lendName o) := by
  unfold lend
  cases s.shape with
  | name plain =>
    simpa only [plain, Bool.false_eq_true, if_false, steps_of_name plain] using lends
  | key indexed own =>
    simp only [indexed, own, if_true, containerPlace, Edit.bind_apply, Edit.pure_apply,
      Edit.lent_nil, List.nil_append, steps_of_key indexed own]
    have lends := Indexed.lends ctx s o
    generalize Indexed.borrow s o = r at lends
    cases lends with
    | failed e => exact .failed e
    | absent missing => exact .absent missing
    | found reads held => exact .found reads held
  | both indexed other =>
    simp only [indexed, other, if_true, if_false, containerPlace, steps_of_both indexed other]
    rw [Edit.bind_apply]
    generalize lendName o = r at lends
    cases lends with
    | failed e => exact .failed e
    -- Without a container under the name the key leads nowhere.
    | absent missing =>
      refine .absent fun place slot reads => ?_
      cases reads with
      | step found held _ =>
        rw [missing _ _ (.last found)] at held
        cases held
    | found reads held =>
      exact (Indexed.lends ctx s _).lift (Context.reaches_singleton.mp reads) held

end Lends

section Both
variable {o' : Obj} (ty : o'.ty = o.ty) (length : o'.length? = o.length?)
  (lends : s.isIndexed = true → s.name ≠ "" →
    ctx.LendsBoth o o' [.property s.name] (lendName o) (lendName o'))
include ty length lends

theorem storesBoth_store {v : Option Obj} {writeName : Edit AccessError Unit}
    (stores : ctx.StoresBoth o o' [.property s.name] v (writeName o) (writeName o')) :
    ctx.StoresBoth o o' s.steps v (s.store lendName writeName v o) (s.store lendName writeName v o') := by
  unfold store enter
  cases s.shape with
  | name plain =>
    simpa only [plain, Bool.false_eq_true, if_false, steps_of_name plain] using stores
  | key indexed own =>
    simp only [indexed, if_true, steps_of_key indexed own, Edit.bind_apply,
      existingContainer_own own, Edit.lent_nil]
    exact Indexed.storesBoth ctx s v ty length
  | both indexed other =>
    have lends := lends indexed other
    simp only [indexed, if_true, steps_of_both indexed other, Edit.bind_apply,
      existingContainer_other other]
    generalize lendName o = r at lends
    generalize lendName o' = r' at lends
    cases lends with
    | failed e => exact .failed e
    | absent => exact .failed _
    | found reads held held' partTy partLength =>
      exact (Indexed.storesBoth ctx s v partTy partLength).lift
        (Context.reaches_singleton.mp reads) held held' _

theorem makesBoth_make {makeName : Edit AccessError Place}
    (makes : s.isIndexed = false → ctx.MakesBoth o o' [.property s.name] (makeName o) (makeName o')) :
    ctx.MakesBoth o o' s.steps (s.make ctx lendName makeName o) (s.make ctx lendName makeName o') := by
  unfold make enter
  cases s.shape with
  | name plain =>
    simpa only [plain, Bool.false_eq_true, if_false, steps_of_name plain] using makes plain
  | key indexed own =>
    simp only [indexed, if_true, steps_of_key indexed own, Edit.bind_apply,
      existingContainer_own own, Edit.lent_nil, List.nil_append]
    have makes := Indexed.makesBoth ctx s ty length
    generalize Indexed.instantiate ctx s o = r at makes
    generalize Indexed.instantiate ctx s o' = r' at makes
    cases makes with
    | failed e => exact .failed e
    | made reads writes admits admits' creates => exact .made reads writes admits admits' creates
    | lost e writes unread admits creates => exact .lost e writes unread admits creates
  | both indexed other =>
    have lends := lends indexed other
    simp only [indexed, if_true, steps_of_both indexed other]
    simp only [Edit.bind_apply _ (s.existingContainer lendName), existingContainer_other other]
    generalize lendName o = r at lends
    generalize lendName o' = r' at lends
    cases lends with
    | failed e => exact .failed e
    | absent => exact .failed _
    | found reads held held' partTy partLength =>
      exact (Indexed.makesBoth ctx s partTy partLength).lift
        (Context.reaches_singleton.mp reads) held held' _

end Both

end Segment

section Shared
variable (ctx : Context) (s : Segment) (v : Option Obj)

theorem BeanAccess.read_eq (o : Obj) :
    BeanAccess.read ctx o s = s.fetch o (BeanAccess.readProperty ctx o s.name) := by
  unfold BeanAccess.read Segment.fetch BeanAccess.container
  by_cases own : s.name = "" <;> simp only [own, if_true, if_false] <;> rfl

theorem MapAccess.read_eq (o : Obj) : MapAccess.read o s = s.fetch o (MapAccess.readKey o s.name) := by
  unfold MapAccess.read Segment.fetch MapAccess.container MapAccess.readKey
  by_cases own : s.name = ""
  · simp only [own, if_true]
    rfl
  · simp only [own, if_false]
    cases MapAccess.asMap o "property reads" with
    | error e => rfl
    | ok m =>
      simp only [bind, Except.bind, pure, Except.pure]
      cases m.get? s.name <;> rfl

theorem BeanAccess.instantiate_eq : BeanAccess.instantiate ctx s =
    s.make ctx (BeanAccess.borrowProperty ctx s.name) (BeanAccess.instantiateProperty ctx s) :=
  rfl

end Shared

namespace Context

def readName (ctx : Context) (o : Obj) (name : String) : Except AccessError (Option Value) :=
  if o.isMap then MapAccess.readKey o name else BeanAccess.readProperty ctx o name

def lendName (ctx : Context) (byKey : Bool) (name : String) : Edit AccessError (Option Place) :=
  if byKey then MapAccess.borrowKey name else BeanAccess.borrowProperty ctx name

def writeName (ctx : Context) (byKey : Bool) (s : Segment) (v : Option Obj) : Edit AccessError Unit :=
  if byKey then MapAccess.writeKey s v else BeanAccess.writeProperty ctx s.name v

def makeName (ctx : Context) (byKey : Bool) (s : Segment) : Edit AccessError Place :=
  if byKey then MapAccess.instantiateKey ctx s else BeanAccess.instantiateProperty ctx s

variable {ctx : Context} {o : Obj} {name : String} {place : Place} {slot : Slot}

section Source
variable (sound : ctx.schema.Sound) (typed : ctx.schema.WellTyped o)
include sound typed

theorem readName_of_source (source : ctx.source o (.property name) = some (place, slot)) :
    ctx.readName o name = .ok ((o.at? (place ++ [slot])).map Value.shared) := by
  unfold readName
  cases kind : o.isMap with
  | true => exact MapAccess.readKey_of_source ctx kind source
  | false => exact BeanAccess.readProperty_of_source sound typed kind source

theorem lendName_of_source (source : ctx.source o (.property name) = some (place, slot)) :
    ctx.lendName o.isMap name o = .ok ((o.at? (place ++ [slot])).map fun _ => place ++ [slot]) o := by
  unfold lendName
  cases kind : o.isMap with
  | true => exact MapAccess.borrowKey_of_source ctx kind source
  | false => exact BeanAccess.borrowProperty_of_source sound typed kind source

variable (plain : ctx.Plain o name)
include plain

theorem lends_lendName : ctx.Lends o [.property name] (ctx.lendName o.isMap name o) := by
  unfold lendName
  cases kind : o.isMap with
  | true => exact MapAccess.lends ctx kind name
  | false => exact BeanAccess.lends sound typed kind plain

end Source

theorem lendsBoth_of_source {o' part part' : Obj} (sound : ctx.schema.Sound)
    (typed : ctx.schema.WellTyped o) (typed' : ctx.schema.WellTyped o') (ty : o'.ty = o.ty)
    (source : ctx.source o (.property name) = some (place, slot))
    (held : o.at? (place ++ [slot]) = some part) (held' : o'.at? (place ++ [slot]) = some part')
    (partTy : part'.ty = part.ty) (partLength : part'.length? = part.length?) :
    ctx.LendsBoth o o' [.property name] (ctx.lendName o.isMap name o) (ctx.lendName o.isMap name o') := by
  have lent' := lendName_of_source sound typed' ((slotBy_congr ty _).trans source)
  rw [isMap_congr ty, held', Option.map_some] at lent'
  rw [lendName_of_source sound typed source, held, lent', Option.map_some]
  exact .found (.last source) held held' partTy partLength

section Both
variable {o' : Obj} {s : Segment} (sound : ctx.schema.Sound) (typed : ctx.schema.WellTyped o)
  (plain : ctx.Plain o s.name) (ty : o'.ty = o.ty) (typed' : ctx.schema.WellTyped o')
include sound typed plain ty typed'

theorem storesBoth_writeName (v : Option Obj) : ctx.StoresBoth o o' [.property s.name] v
    (ctx.writeName o.isMap s v o) (ctx.writeName o.isMap s v o') := by
  unfold writeName
  cases kind : o.isMap with
  | true => exact MapAccess.storesBoth ctx kind ty s v
  | false => exact BeanAccess.storesBoth sound typed kind plain ty typed' v

theorem makesBoth_makeName (usual : ctx.Usual)
    (absent : ∀ place slot, ctx.ReadsFrom o [.property s.name] place slot →
      o.at? (place ++ [slot]) = none)
    (absent' : ∀ place slot, ctx.ReadsFrom o' [.property s.name] place slot →
      o'.at? (place ++ [slot]) = none) :
    ctx.MakesBoth o o' [.property s.name] (ctx.makeName o.isMap s o) (ctx.makeName o.isMap s o') := by
  unfold makeName
  cases kind : o.isMap with
  | true => exact MapAccess.makesBoth ctx usual kind ty s
  | false => exact BeanAccess.makesBoth sound typed kind plain ty typed' usual rfl absent absent'

end Both

variable {s : Segment} {a : Adapter}

theorem readFrom_of_adapter (chosen : ctx.adapter o = .ok a) : ctx.readFrom o s [] = a.read ctx o s := by
  simp only [readFrom, chosen, bind, Except.bind]

theorem Usual.adapter_cases (usual : ctx.Usual) (unadapted : ctx.schema.adapter? o = none)
    (chosen : ctx.adapter o = .ok a) :
    o.isMap = true ∧ a = .map ∨ o.isMap = false ∧ (a = .bean ∨ a = .collection) := by
  obtain ⟨b, found, cases⟩ := usual.adapter unadapted
  rw [chosen] at found
  cases found
  exact cases

/-! What a chosen adapter does with a segment, by the value of the segment's name -/

section Named
variable (usual : ctx.Usual) (unadapted : ctx.schema.adapter? o = none) (chosen : ctx.adapter o = .ok a)
  (s : Segment)
include usual unadapted chosen

theorem read_eq : a.read ctx o s = s.fetch o (ctx.readName o s.name) := by
  rcases usual.adapter_cases unadapted chosen with ⟨kind, rfl⟩ | ⟨kind, rfl | rfl⟩ <;>
    simp only [readName, kind, if_true, Bool.false_eq_true, if_false]
  · exact MapAccess.read_eq s o
  · exact BeanAccess.read_eq ctx s o
  · exact BeanAccess.read_eq ctx s o

theorem borrow_eq : a.borrow ctx s = s.lend (ctx.lendName o.isMap s.name) := by
  rcases usual.adapter_cases unadapted chosen with ⟨kind, rfl⟩ | ⟨kind, rfl | rfl⟩ <;> rw [kind] <;> rfl

theorem write_eq (v : Option Obj) : a.write ctx s v =
    s.store (ctx.lendName o.isMap s.name) (ctx.writeName o.isMap s v) v := by
  rcases usual.adapter_cases unadapted chosen with ⟨kind, rfl⟩ | ⟨kind, rfl | rfl⟩ <;> rw [kind] <;> rfl

theorem instantiate_eq : a.instantiate ctx s =
    s.make ctx (ctx.lendName o.isMap s.name) (ctx.makeName o.isMap s) := by
  rcases usual.adapter_cases unadapted chosen with ⟨kind, rfl⟩ | ⟨kind, rfl | rfl⟩ <;> rw [kind] <;> rfl

end Named

/-! An object that has slots to offer has no adapter of its own -/

theorem unadapted_of_source {a : AccessStep} (source : ctx.source o a = some (place, slot)) :
    ctx.schema.adapter? o = none := by
  cases a with
  | property name =>
    cases kind : o.isMap with
    | true => cases o <;> first | rfl | cases kind
    | false =>
      simp only [Context.source, slotBy, kind, Bool.false_eq_true, if_false] at source
      split at source
      · cases source
      next none => exact Option.not_isSome_iff_eq_none.mp none
  | key text =>
    obtain ⟨denoted, _⟩ := keySlot?_of_reads (.last source)
    cases o <;> first | rfl | cases denoted

theorem Reaches.unadapted {steps : List AccessStep} (reads : ctx.ReadsFrom o steps place slot) :
    ctx.schema.adapter? o = none := by
  cases reads with
  | last source => exact unadapted_of_source source
  | step source => exact unadapted_of_source source

theorem Reaches.sourced {steps : List AccessStep} (reads : ctx.ReadsFrom o steps place slot) :
    ∃ a ∈ steps.head?, (ctx.source o a).isSome := by
  cases reads with
  | last source => exact ⟨_, rfl, source ▸ rfl⟩
  | step source => exact ⟨_, rfl, source ▸ rfl⟩

section Chosen
variable (usual : ctx.Usual) (sound : ctx.schema.Sound) (typed : ctx.schema.WellTyped o)
  (chosen : ctx.adapter o = .ok a)
include usual sound typed chosen

theorem read_of_at? (unadapted : ctx.schema.adapter? o = none) {place : Place} {slot : Slot}
    {part : Obj} (reads : ctx.ReadsFrom o s.steps place slot)
    (held : o.at? (place ++ [slot]) = some part) : a.read ctx o s = .ok (some (.shared part)) := by
  rw [read_eq usual unadapted chosen s]
  exact Segment.fetch_of_at? (fun _ _ => readName_of_source sound typed) reads held

theorem borrow_of_at? (unadapted : ctx.schema.adapter? o = none) {place : Place} {slot : Slot}
    {part : Obj} (reads : ctx.ReadsFrom o s.steps place slot)
    (held : o.at? (place ++ [slot]) = some part) :
    a.borrow ctx s o = .ok (some (place ++ [slot])) o := by
  rw [borrow_eq usual unadapted chosen s]
  exact Segment.lend_of_at? (fun _ _ => lendName_of_source sound typed) reads held

theorem reads_of_read (unadapted : ctx.schema.adapter? o = none) {v : Value}
    (sourced : ∃ b ∈ s.steps.head?, (ctx.source o b).isSome)
    (present : a.read ctx o s = .ok (some v)) :
    ∃ place slot, ctx.ReadsFrom o s.steps place slot ∧ o.at? (place ++ [slot]) = some v.obj := by
  rw [read_eq usual unadapted chosen s] at present
  exact Segment.reads_of_fetch (fun _ _ => readName_of_source sound typed) sourced present

theorem absent_of_read (unadapted : ctx.schema.adapter? o = none) (absent : a.read ctx o s = .ok none)
    {place : Place} {slot : Slot} (reads : ctx.ReadsFrom o s.steps place slot) :
    o.at? (place ++ [slot]) = none := by
  cases held : o.at? (place ++ [slot]) with
  | none => rfl
  | some part =>
    rw [read_of_at? usual sound typed chosen unadapted reads held] at absent
    cases absent

variable (plain : ctx.Plain o s.name)
include plain

omit usual chosen in
theorem reads_of_writes (once : ctx.DeclaredOnce o) {place : Place} {slot : Slot}
    (writes : ctx.WritesTo o s.steps place slot) : ctx.ReadsFrom o s.steps place slot := by
  cases s.shape with
  | name unindexed =>
    rw [Segment.steps_of_name unindexed] at writes ⊢
    exact plain.reads_of_writes sound typed once writes
  | key indexed own =>
    rw [Segment.steps_of_key indexed own] at writes ⊢
    exact reads_key writes
  | both indexed other =>
    rw [Segment.steps_of_both indexed other] at writes ⊢
    cases writes with
    | step found held rest => exact .step found held (reads_key rest)

theorem lends_borrow : ctx.Lends o s.steps (a.borrow ctx s o) := by
  rw [borrow_eq usual plain.unadapted chosen]
  exact Segment.lends_lend (lends_lendName sound typed plain)

section Both
variable {o' : Obj} (ty : o'.ty = o.ty) (length : o'.length? = o.length?)
  (typed' : ctx.schema.WellTyped o')
  (lends : s.isIndexed = true → s.name ≠ "" → ctx.LendsBoth o o' [.property s.name]
    (ctx.lendName o.isMap s.name o) (ctx.lendName o.isMap s.name o'))
include ty length typed' lends

/-- A write is refused by objects of one type alike, or gives the value to one slot of both, where
the containers under the segment's name are of one type. -/
theorem storesBoth_write (v : Option Obj) :
    ctx.StoresBoth o o' s.steps v (a.write ctx s v o) (a.write ctx s v o') := by
  rw [write_eq usual plain.unadapted chosen]
  exact Segment.storesBoth_store ty length lends (storesBoth_writeName sound typed plain ty typed' v)

theorem makesBoth_instantiate {a' : Adapter} (chosen' : ctx.adapter o' = .ok a')
    (absent : a.read ctx o s = .ok none) (absent' : a'.read ctx o' s = .ok none) :
    ctx.MakesBoth o o' s.steps (a.instantiate ctx s o) (a.instantiate ctx s o') := by
  -- Only a bean's property needs to know that it is empty: it may be written in another slot.
  have empty (named : s.isIndexed = false) (place : Place) (slot : Slot)
      (reads : ctx.ReadsFrom o [.property s.name] place slot) : o.at? (place ++ [slot]) = none := by
    rw [← Segment.steps_of_name named] at reads
    exact absent_of_read usual sound typed chosen plain.unadapted absent reads
  have empty' (named : s.isIndexed = false) (place : Place) (slot : Slot)
      (reads : ctx.ReadsFrom o' [.property s.name] place slot) : o'.at? (place ++ [slot]) = none := by
    rw [← Segment.steps_of_name named] at reads
    exact absent_of_read usual sound typed' chosen' (plain.congr ty).unadapted absent' reads
  rw [instantiate_eq usual plain.unadapted chosen]
  exact Segment.makesBoth_make ty length lends fun named =>
    makesBoth_makeName sound typed plain ty typed' usual (empty named) (empty' named)

end Both

theorem stores_write (v : Option Obj) : ctx.Stores o s.steps v (a.write ctx s v o) :=
  (storesBoth_write usual sound typed chosen plain rfl rfl typed
    (fun _ _ => (lends_lendName sound typed plain).both) v).left

theorem makes_instantiate (absent : a.read ctx o s = .ok none) :
    ctx.Makes o s.steps (a.instantiate ctx s o) :=
  (makesBoth_instantiate usual sound typed chosen plain rfl rfl typed
    (fun _ _ => (lends_lendName sound typed plain).both) chosen absent absent).left

end Chosen

end Context

end ObjectGraph
