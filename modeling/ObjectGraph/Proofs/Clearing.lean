import ObjectGraph.Proofs.Reading
import ObjectGraph.Proofs.Sameness

/-! Writing nothing.

A write of nothing empties at most one slot, the one that its path addresses, which then is a nullable
field or the entry of a map. It makes nothing, so what was absent is not present afterwards. Where it
meets an absent object on its way it leaves everything as it is; only behind the name in front of the
last bracket that is a refusal.
-/

set_option autoImplicit false
namespace ObjectGraph

namespace Schema

/-- The slot may be empty: it is the entry of a map, or a nullable field of a bean. -/
inductive Clearable (s : Schema) : Obj → Slot → Prop where
  | entry {kind : MapKind} {key : KeyType} {value : Ty} {entries : Entries} (k : Key) :
    Clearable s (.map kind key value entries) (.entry k)
  | field {type name : String} {fields : Fields} {layout : Layout} {slot : SlotType} :
    s.layouts type = some layout → layout.slot? name = some slot → slot.nullable = true →
    Clearable s (.bean type fields) (.field name)

/-- The second object is the first one with parts missing: what it holds at a place is of the type of
what the first one holds there. -/
structure Thinned (s : Schema) (o o' : Obj) : Prop where
  typed : s.WellTyped o
  typed' : s.WellTyped o'
  held : ∀ place part', o'.at? place = some part' →
    ∃ part, o.at? place = some part ∧ part'.ty = part.ty

variable {s : Schema} {o o' part' : Obj} {place : Place} {slot : Slot}

theorem Admits.clearable (admits : s.Admits o slot none) : s.Clearable o slot := by
  cases o <;> cases slot <;> try exact admits.elim
  case map.entry => exact .entry _
  case bean.field =>
    obtain ⟨layout, slot, layoutFound, slotFound, nullable⟩ := admits
    exact .field layoutFound slotFound nullable

namespace Thinned

theorem ty (thinned : s.Thinned o o') : o'.ty = o.ty := by
  obtain ⟨_, same, ty⟩ := thinned.held [] o' rfl
  cases same
  exact ty

theorem below (thinned : s.Thinned o o') (held' : o'.at? place = some part') :
    ∃ part, o.at? place = some part ∧ s.Thinned part part' := by
  obtain ⟨part, held, _⟩ := thinned.held place part' held'
  refine ⟨part, held, thinned.typed.at? held, thinned.typed'.at? held', fun inner x' found' => ?_⟩
  rw [← Obj.at?_below held' inner] at found'
  rw [← Obj.at?_below held inner]
  exact thinned.held _ x' found'

theorem truth (b b' : Bool) : s.Thinned (.bool b) (.bool b') where
  typed := .scalar trivial
  typed' := .scalar trivial
  held place part' found' := by
    cases place with
    | nil => cases found'; exact ⟨_, rfl, rfl⟩
    | cons => cases found'

theorem of_emptied (typed : s.WellTyped o) (admits : s.AdmitsAt o place slot none) :
    s.Thinned o (o.assign place slot none) where
  typed := typed
  typed' := typed.assign admits nofun
  held q part' found' := by
    by_cases within : place ++ [slot] <+: q
    -- Nothing is left at the slot or below it.
    · obtain ⟨inner, rfl⟩ := within
      rw [Obj.at?_assign_below admits] at found'
      cases found'
    · have same := Obj.head_at?_assign o none within
      rw [found'] at same
      obtain ⟨part, found, heads⟩ := Option.map_eq_some_iff.mp same.symm
      exact ⟨part, found, Obj.ty_of_head heads.symm⟩

end Thinned

end Schema

namespace Context

variable {ctx : Context} {o o' : Obj} {s : Segment} {rest : List Segment}

/-- The graph is the former one, or the former one with one slot emptied: the nullable field or the
entry that the steps address. -/
inductive Cleared (ctx : Context) (o : Obj) (steps : List AccessStep) : Obj → Prop where
  | kept : Cleared ctx o steps o
  | emptied {place : Place} {slot : Slot} {owner : Obj} : ctx.ReadsFrom o steps place slot →
    o.at? place = some owner → ctx.schema.Clearable owner slot →
    (o.assign place slot none).at? (place ++ [slot]) = none →
    Cleared ctx o steps (o.assign place slot none)

theorem Wrote.emptied {outcome : Except AccessError Unit}
    (wrote : ctx.Wrote True none s rest o outcome o') :
    o' = o ∨ ∃ place slot, ctx.ReadsFrom o ((s :: rest).flatMap Segment.steps) place slot ∧
      ctx.schema.AdmitsAt o place slot none ∧ o' = o.assign place slot none := by
  induction wrote with
  | refused => exact .inl rfl
  | idle => exact .inl rfl
  | stored reads admits =>
    rw [List.flatMap_cons, List.flatMap_nil, List.append_nil]
    exact .inr ⟨_, _, reads trivial, admits, rfl⟩
  | entered reads held _ ih =>
    rcases ih with rfl | ⟨below, target, onward, admits, rfl⟩
    · exact .inl (Obj.replaceAt_at? held)
    · rw [List.flatMap_cons, Obj.replaceAt_assign held]
      exact .inr ⟨_, _, reads.append held onward, admits.lift held, rfl⟩
  | made given => cases given
  | lost _ given => cases given

def Covers (ctx : Context) (r r' : Except AccessError (Option Value)) : Prop :=
  ∀ v', r' = .ok (some v') → ∃ v, r = .ok (some v) ∧ ctx.schema.Thinned v.obj v'.obj

theorem covers_key (thinned : ctx.schema.Thinned o o') (s : Segment) (owned owned' : Bool) :
    ctx.Covers (Indexed.read ⟨o, owned⟩ s) (Indexed.read ⟨o', owned'⟩ s) := by
  intro v' read
  obtain ⟨slot, denoted, held', _⟩ := Indexed.part?_of_read read
  rw [Obj.keySlot?_congr thinned.ty] at denoted
  rw [← Obj.at?_singleton] at held'
  obtain ⟨part, held, below⟩ := thinned.below held'
  rw [Obj.at?_singleton] at held
  exact ⟨⟨part, owned⟩, Indexed.read_of_part? owned denoted held, below⟩

section Covers
variable (sound : ctx.schema.Sound) (thinned : ctx.schema.Thinned o o')
include sound thinned

theorem covers_name {name : String} (plain : ctx.Plain o name) :
    ctx.Covers (ctx.readName o name) (ctx.readName o' name) := by
  intro v' read
  cases source : ctx.source o (.property name) with
  | some address =>
    obtain ⟨place, slot⟩ := address
    rw [readName_of_source sound thinned.typed' ((slotBy_congr thinned.ty _).trans source)] at read
    obtain ⟨part', held', rfl⟩ := Option.map_eq_some_iff.mp (Except.ok.inj read)
    obtain ⟨part, held, below⟩ := thinned.below held'
    rw [readName_of_source sound thinned.typed source, held]
    exact ⟨.shared part, rfl, below⟩
  | none =>
    have computed := computed_readName sound thinned.typed plain source thinned.ty
    rw [read] at computed
    generalize ctx.readName o name = r at computed
    cases computed with
    | truth b b' => exact ⟨_, rfl, .truth b b'⟩

theorem covers_fetch (plain : ctx.Plain o s.name) :
    ctx.Covers (s.fetch o (ctx.readName o s.name)) (s.fetch o' (ctx.readName o' s.name)) := by
  cases s.shape with
  | name unindexed =>
    rw [Segment.fetch_name unindexed, Segment.fetch_name unindexed]
    exact covers_name sound thinned plain
  | key indexed own =>
    rw [Segment.fetch_own indexed own, Segment.fetch_own indexed own]
    exact covers_key thinned s false false
  | both indexed other =>
    have named := covers_name sound thinned plain
    rw [Segment.fetch_other indexed other, Segment.fetch_other indexed other]
    generalize ctx.readName o' s.name = r' at named
    rcases r' with e | _ | container'
    · exact fun _ read => nomatch read
    · exact fun _ read => nomatch read
    · obtain ⟨container, read, below⟩ := named container' rfl
      rw [read]
      exact covers_key below s _ _

/-- What is read along a path in a graph with parts missing is read in the whole graph. -/
theorem covers_path (usual : ctx.Usual)
    (along : ctx.AlongRead (fun o s => ctx.Plain o s.name) s rest o) :
    ctx.Covers (ctx.readFrom o s rest) (ctx.readFrom o' s rest) := by
  have first (s : Segment) {o o' : Obj} (thinned : ctx.schema.Thinned o o') (plain : ctx.Plain o s.name) :
      ctx.Covers (ctx.readFrom o s []) (ctx.readFrom o' s []) := by
    rw [readFrom_nil usual plain.unadapted, readFrom_nil usual (plain.congr thinned.ty).unadapted]
    exact covers_fetch sound thinned plain
  -- On the segments that are left, for all objects of which the second one is thinned out.
  induction rest generalizing s o o' with
  | nil => exact first s thinned along
  | cons next rest ih =>
    intro w' read
    obtain ⟨v', x', found', onward', rfl⟩ := readFrom_present read
    obtain ⟨v, found, below⟩ := first s thinned along.head v' found'
    obtain ⟨x, onward, deeper⟩ := ih below (along.2 v found) x' onward'
    rw [readFrom_cons, found]
    simp only [onward]
    exact ⟨_, rfl, deeper⟩

end Covers

/-! Writes that meet an absent object -/

/-- What the segments before one lead to is there, and what the segment names is not: neither the
whole segment, where more segments follow it, nor else the name in front of its key. -/
structure MeetsAbsent (ctx : Context) (o : Obj) (front : List Segment) (s : Segment)
    (back : List Segment) : Prop where
  present : ∃ v, ctx.readAll o front = .ok (some v)
  absent : back ≠ [] ∧ ctx.readAll o (front ++ [s]) = .ok none ∨
    s.isIndexed = true ∧ s.name ≠ "" ∧ ctx.readAll o (front ++ [⟨s.name⟩]) = .ok none

section Absent
variable (sound : ctx.schema.Sound) (typed : ctx.schema.WellTyped o)
include sound typed

theorem lendName_of_absent {name : String} (plain : ctx.Plain o name)
    (absent : ctx.readName o name = .ok none) : ctx.lendName o.isMap name o = .ok none o := by
  cases source : ctx.source o (.property name) with
  | some address =>
    obtain ⟨place, slot⟩ := address
    rw [readName_of_source sound typed source] at absent
    have empty := Option.map_eq_none_iff.mp (Except.ok.inj absent)
    rw [lendName_of_source sound typed source, empty, Option.map_none]
  | none =>
    unfold readName at absent
    unfold lendName
    cases kind : o.isMap with
    | true => exact (unread_of_unsourced kind source).2
    | false =>
      -- A property that is no slot is unknown, or it is a truth value, but it is never absent.
      simp only [kind, Bool.false_eq_true, if_false, BeanAccess.readProperty, Descriptor.getter] at absent
      cases found : (ctx.descriptorOf o).getter? name with
      | none => rw [found] at absent; cases absent
      | some i =>
        obtain ⟨member, accepted⟩ := container_of_unsourced sound typed plain kind source found
        simp only [found, bind, Except.bind, read_collection member accepted] at absent
        cases absent

theorem writeFrom_of_absent (usual : ctx.Usual) (plain : ctx.Plain o s.name)
    (meets : ctx.MeetsAbsent o [] s rest) : ctx.writeFrom none s rest o =
      if rest = [] then .error (s.notIndexable absentName) o else .ok () o := by
  have keyed (indexed : s.isIndexed = true) (other : s.name ≠ "")
      (absent : ctx.readAll o ([] ++ [⟨s.name⟩]) = .ok none) : ctx.readName o s.name = .ok none := by
    have named : ctx.readFrom o ⟨s.name⟩ [] = ctx.readName o s.name := by
      rw [readFrom_nil usual plain.unadapted, Segment.fetch_name s.isIndexed_mk_name, s.name_mk_name]
    exact named.symm.trans absent
  obtain ⟨a, chosen, _⟩ := usual.adapter plain.unadapted
  cases rest with
  | nil =>
    rcases meets.absent with ⟨more, _⟩ | ⟨indexed, other, absent⟩
    · exact absurd rfl more
    · rw [writeFrom_last usual plain.unadapted chosen rfl, write_eq usual plain.unadapted chosen,
        if_pos rfl]
      simp only [Segment.store, Segment.enter, indexed, if_true, Edit.bind_apply,
        Segment.existingContainer_other other,
        lendName_of_absent sound typed plain (keyed indexed other absent)]
  | cons next rest =>
    have absent : ctx.readFrom o s [] = .ok none := by
      rcases meets.absent with ⟨_, absent⟩ | ⟨indexed, other, absent⟩
      · exact absent
      · rw [readFrom_nil usual plain.unadapted, Segment.fetch_other indexed other,
          keyed indexed other absent]
    rw [writeFrom_cons, step_eq usual plain.unadapted chosen rfl, absent, if_neg (by simp)]
    rfl

/-- A write of nothing that meets an absent object on its way changes nothing. It is refused where that
is the container for the last key, and otherwise it succeeds. -/
theorem writeFrom_meets_absent (usual : ctx.Usual) {front back : List Segment} {t : Segment}
    (along : ctx.Along false (fun o s => ctx.Plain o s.name) s rest o)
    (split : s :: rest = front ++ t :: back) (meets : ctx.MeetsAbsent o front t back) :
    ctx.writeFrom none s rest o =
      if back = [] then .error (t.notIndexable absentName) o else .ok () o := by
  induction front generalizing s rest o with
  | nil =>
    cases split
    exact writeFrom_of_absent sound typed usual along.head meets
  | cons first front ih =>
    obtain ⟨rfl, joined⟩ := List.cons.inj split
    obtain ⟨next, more, rfl⟩ : ∃ next more, rest = next :: more := by
      cases front <;> exact ⟨_, _, joined⟩
    obtain ⟨v, present⟩ : ∃ v, ctx.readFrom o s [] = .ok (some v) := by
      obtain ⟨w, present⟩ := meets.present
      cases front with
      | nil => exact ⟨w, present⟩
      | cons second front =>
        obtain ⟨v, _, found, _⟩ := readFrom_present present
        exact ⟨v, found⟩
    rcases reads_or_truth usual sound typed along.head present with
      ⟨place, slot, reads, held⟩ | ⟨b, rfl⟩
    · have shared := readFrom_last usual sound typed reads held
      have entered := step_of_at? usual sound typed reads held false
      have below : ctx.MeetsAbsent v.obj front t back := by
        obtain ⟨present, absent⟩ := meets
        simp only [List.cons_append, readAll_cons_of_shared shared] at present absent
        exact ⟨present, absent⟩
      have ran := ih (typed.at? held) (along.2 _ _ _ entered held) joined below
      rw [writeFrom_cons, Option.isSome_none, entered]
      simp only [Edit.lent_of_at? held, Edit.inside_apply, ran]
      by_cases last : back = []
      · simp only [last, if_true, Obj.replaceAt_at? held]
      · simp only [last, if_false, Obj.replaceAt_at? held]
    -- Behind a truth value nothing reads as absent: every further read is an error.
    · have stuck (x : Segment) : ctx.readAll o (s :: front ++ [x]) ≠ .ok none := by
        obtain ⟨y, ys, same⟩ : ∃ y ys, front ++ [x] = y :: ys := by
          cases front <;> exact ⟨_, _, rfl⟩
        obtain ⟨e, failed⟩ := readFrom_truth usual b y ys
        rw [List.cons_append, same, readAll, readFrom_cons, present]
        simp only [Value.detached, failed]
        exact nofun
      rcases meets.absent with ⟨_, absent⟩ | ⟨_, _, absent⟩
      · exact absurd absent (stuck t)
      · exact absurd absent (stuck _)

end Absent

end Context

/-- A write of nothing, whatever it comes to, leaves the graph as it is or with one slot emptied, the
nullable field or the entry of a map that the path addresses. What read as absent does not read as
present afterwards. -/
theorem Navigator.write_none {s : Schema} {n : Navigator} {o : Obj} {p : Path} (sound : s.Sound)
    (found : n.obj? = some o) (typed : s.WellTyped o)
    (along : (Context.standard s).PlainAlong True o p none) :
    (∃ o', (n.write (.standard s) p none).1.obj? = some o' ∧
      (Context.standard s).Cleared o p.steps o') ∧
    ∀ q, (Context.standard s).AlongRead (fun o segment => (Context.standard s).Plain o segment.name)
        q.first q.rest o →
      n.read (.standard s) q = .ok none →
      ∀ v, (n.write (.standard s) p none).1.read (.standard s) q ≠ .ok (some v) := by
  have usual := Context.usual_standard s
  have wrote := Context.wrote_writeFrom usual sound typed along
  -- What the write leaves is the graph, or the graph with the slot emptied.
  obtain ⟨o', after, cleared⟩ : ∃ o', (n.write (.standard s) p none).1.obj? = some o' ∧
      (o' = o ∨ ∃ place slot, (Context.standard s).ReadsFrom o p.steps place slot ∧
        s.AdmitsAt o place slot none ∧ o' = o.assign place slot none) :=
    obj?_edit found _ (.inl rfl) wrote.emptied
  rcases cleared with rfl | ⟨place, slot, reads, admits, rfl⟩
  · refine ⟨⟨o', after, .kept⟩, fun q _ absent v present => ?_⟩
    simp only [read, found] at absent
    simp only [read, after, absent] at present
    cases present
  · have thinned := Schema.Thinned.of_emptied typed admits
    have empty := Obj.at?_assign_below admits []
    rw [List.append_nil] at empty
    obtain ⟨owner, ownerFound, _, admitted⟩ := admits
    refine ⟨⟨_, after, .emptied reads ownerFound admitted.clearable empty⟩, ?_⟩
    intro q alongRead absent v present
    simp only [read, found] at absent
    simp only [read, after] at present
    obtain ⟨w, before, _⟩ := Context.covers_path sound thinned usual alongRead v present
    cases absent.symm.trans before

namespace Sample

def doorNotes : Obj := .map .hash .str .any [(.str "door", .str "blue")]

theorem wellTyped_doorNotes (s : Schema) : s.WellTyped doorNotes := by
  refine .map ?_ ?_ ?_ <;> intro entry member <;> cases List.mem_singleton.mp member
  · rfl
  · exact Ty.accepts_iff.mp rfl
  · exact .scalar trivial

end Sample

open Sample in
/-- The entry of the notes is gone, and what was absent behind another key still is. -/
theorem Navigator.write_none_door :
    let ctx := Context.standard tenancy
    let written := (writable doorNotes).write ctx (.ofString "door") none
    (∃ o', written.1.obj? = some o' ∧ ctx.Cleared doorNotes (Path.ofString "door").steps o') ∧
      ∀ v, written.1.read ctx (.ofString "gate.key") ≠ .ok (some v) := by
  have plain (o : Obj) (segment : Segment) : (Context.standard tenancy).Plain o segment.name :=
    tenancy_fieldsOnly.plain o segment.name
  obtain ⟨cleared, absent⟩ := write_none (n := writable doorNotes) (p := .ofString "door") tenancy_sound
    rfl (wellTyped_doorNotes tenancy) (tenancy_fieldsOnly.plainAlong _ _ _ _)
  exact ⟨cleared, absent (.ofString "gate.key") (.of_all plain _ _ _) rfl⟩

/-- A write of nothing through an absent container leaves everything as it is. It is refused where the
container is the one that the last key looks into, and otherwise it succeeds. -/
theorem Navigator.write_none_absent {s : Schema} {n : Navigator} {o : Obj} {p : Path}
    {front back : List Segment} {segment : Segment} (sound : s.Sound)
    (changeable : n.changeable? = some o) (typed : s.WellTyped o)
    (along : (Context.standard s).Along false
      (fun o segment => (Context.standard s).Plain o segment.name) p.first p.rest o)
    (split : p.segments = front ++ segment :: back)
    (meets : (Context.standard s).MeetsAbsent o front segment back) :
    n.write (.standard s) p none =
      (n, if back = [] then .error (.notIndexable segment.text absentName) else .ok ()) := by
  have ran := Context.writeFrom_meets_absent sound typed (Context.usual_standard s) along split meets
  have same : n.withObj o = n := withObj_self (obj?_of_changeable changeable)
  simp only [write, edit, changeable, Context.writePath, ran]
  by_cases last : back = []
  · simp only [last, if_true, same]
    rfl
  · simp only [last, if_false, same]

open Sample in
/-- A home that is not there has no city to be taken away. -/
theorem Navigator.write_none_absent_home :
    (writable (tenant "Ann" [])).write (.standard tenancy) (.ofString "home.city") none =
      (writable (tenant "Ann" []), .ok ()) := by
  have typed : tenancy.WellTyped (tenant "Ann" []) := wellTyped_tenant "Ann" (by simp) (by simp)
  have plain (o : Obj) (segment : Segment) : (Context.standard tenancy).Plain o segment.name :=
    tenancy_fieldsOnly.plain o segment.name
  have split : (Path.ofString "home.city").segments = [] ++ ⟨"home"⟩ :: [⟨"city"⟩] := rfl
  exact write_none_absent tenancy_sound rfl typed (.of_all plain _ _ _) split
    ⟨⟨_, rfl⟩, .inl ⟨by simp, rfl⟩⟩

/-- A container that is not there has no item to be taken away, but that is refused where the item is
all that follows. -/
theorem Navigator.write_none_refused :
    let ctx := Context.standard Sample.tenancy
    let root := Obj.map .hash .str .any []
    Sample.tenancy.Sound ∧ Sample.tenancy.WellTyped root ∧
      ctx.Along false (fun o segment => ctx.Plain o segment.name) ⟨"a[0]"⟩ [] root ∧
      ctx.readAll root [⟨"a"⟩] = .ok none ∧
      (writable root).write ctx (.ofString "a[0]") none =
        (writable root, .error (.notIndexable "a[0]" "none")) ∧
      (writable root).write ctx (.ofString "a.[0]") none = (writable root, .ok ()) := by
  refine ⟨Sample.tenancy_sound, .map (by simp) (by simp) (by simp), ?_, rfl, rfl, rfl⟩
  exact Sample.tenancy_fieldsOnly.plain _ _

end ObjectGraph
