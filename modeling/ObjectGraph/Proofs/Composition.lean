import ObjectGraph.Proofs.RoundTrip
import ObjectGraph.Proofs.Splitting

/-! Paths put end to end.

Reading along two paths joined by a dot is reading along the second from what the first one reads.
Writing along them is writing along the second into the part that the first one lends, where there is
such a part: a write enters what can be borrowed and makes nothing there.
-/

set_option autoImplicit false
namespace ObjectGraph

namespace Context

theorem readFrom_append (ctx : Context) (o : Obj) (s next : Segment) (rest more : List Segment) :
    ctx.readFrom o s (rest ++ next :: more) =
      match ctx.readFrom o s rest with
      | .ok (some v) =>
        (ctx.readFrom v.obj next more).map fun w => w.map fun w => ⟨w.obj, v.owned || w.owned⟩
      | .ok none => .ok none
      | .error e => .error e := by
  induction rest generalizing o s with
  | nil => exact readFrom_cons ctx o s next more
  | cons mid rest ih =>
    rw [List.cons_append, readFrom_cons, readFrom_cons]
    cases ctx.readFrom o s [] with
    | error e => rfl
    | ok v =>
      cases v with
      | none => rfl
      | some v =>
        simp only [ih]
        cases ctx.readFrom v.obj mid rest with
        | error e => rfl
        | ok w =>
          cases w with
          | none => rfl
          | some w =>
            -- What is read is detached if anything on the way was.
            simp only [Except.map, Option.map_some]
            rcases ctx.readFrom w.obj next more with e | x
            · rfl
            · cases x <;> simp only [Option.map_none, Option.map_some, Bool.or_assoc]

variable {ctx : Context} {o o' part : Obj} {s : Segment} {place : Place}

theorem borrowFrom_cons (ctx : Context) (s next : Segment) (rest : List Segment) (o : Obj) :
    ctx.borrowFrom s (next :: rest) o =
      match ctx.borrowFrom s [] o with
      | .ok (some place) o' =>
        match Edit.lent place (ctx.borrowFrom next rest) (return none) o' with
        | .ok below o' => .ok (below.map (place ++ ·)) o'
        | .error e o' => .error e o'
      | .ok none o' => .ok none o'
      | .error e o' => .error e o' := by
  simp only [borrowFrom, Edit.bind_apply, Edit.get_apply]
  cases ctx.adapter o with
  | error e => rfl
  | ok a =>
    simp only [Edit.ofExcept_ok_apply]
    rcases a.borrow ctx s o with ⟨found, o'⟩ | ⟨e, o'⟩
    · cases found with
      | none => rfl
      | some place =>
        simp only [Edit.bind_apply]
        cases Edit.lent place (ctx.borrowFrom next rest) (return none) o' <;> rfl
    · rfl

section Borrows
variable (usual : ctx.Usual) (sound : ctx.schema.Sound) (typed : ctx.schema.WellTyped o)
include usual sound typed

theorem step_of_borrow (plain : ctx.Plain o s.name)
    (borrowed : ctx.borrowFrom s [] o = .ok (some place) o') :
    o' = o ∧ (∃ part, o.at? place = some part) ∧
      ∀ creates, ctx.step s creates o = .ok (some place) o := by
  obtain ⟨a, chosen, _⟩ := usual.adapter plain.unadapted
  simp only [borrowFrom, Edit.bind_apply, Edit.get_apply, chosen, Edit.ofExcept_ok_apply] at borrowed
  have lends := lends_borrow usual sound typed chosen plain
  rw [borrowed] at lends
  cases lends with
  | found reads held =>
    exact ⟨rfl, ⟨_, held⟩, step_of_at? usual sound typed reads held⟩

/-- Where segments lend a part, a write along them and more segments is a write along the others into
that part. -/
theorem writeFrom_append {rest : List Segment}
    (along : ctx.Along false (fun o s => ctx.Plain o s.name) s rest o)
    (borrowed : ctx.borrowFrom s rest o = .ok (some place) o') :
    o' = o ∧ ∃ part, o.at? place = some part ∧ ∀ (v : Option Obj) (q : Path),
      ctx.writeFrom v s (rest ++ q.segments) o = Edit.inside place part (ctx.writePath q v) o := by
  -- On the segments, for every object and place: the first one lends a part, in which the others
  -- lend the rest of the way.
  induction rest generalizing s o o' place with
  | nil =>
    obtain ⟨rfl, ⟨part, held⟩, enters⟩ := step_of_borrow usual sound typed along.head borrowed
    refine ⟨rfl, part, held, fun v q => ?_⟩
    rw [List.nil_append, Path.segments, writeFrom_cons, enters]
    exact Edit.lent_of_at? held _ _
  | cons next rest ih =>
    rw [borrowFrom_cons] at borrowed
    generalize first : ctx.borrowFrom s [] o = r at borrowed
    rcases r with ⟨_ | base, o₁⟩ | ⟨e, o₁⟩
    · cases borrowed
    · obtain ⟨rfl, ⟨child, held⟩, enters⟩ := step_of_borrow usual sound typed along.head first
      simp only [Edit.lent_of_at? held, Edit.inside_apply] at borrowed
      generalize below : ctx.borrowFrom next rest child = r at borrowed
      rcases r with ⟨_ | inner, child'⟩ | ⟨e, child'⟩
      · cases borrowed
      · obtain ⟨rfl, part, partHeld, wrote⟩ :=
          ih (typed.at? held) (along.2 _ _ _ (enters false) held) below
        simp only [Obj.replaceAt_at? held, Option.map_some] at borrowed
        cases borrowed
        refine ⟨rfl, part, (Obj.at?_below held inner).trans partHeld, fun v q => ?_⟩
        rw [List.cons_append, writeFrom_cons, enters, Edit.inside_append held, Edit.inside_apply,
          ← wrote v q]
        exact Edit.lent_of_at? held _ _
      · cases borrowed
    · cases borrowed

end Borrows

end Context

namespace Navigator

/-- The object that a path leads to, be it lent or detached. -/
def get (n : Navigator) (ctx : Context) (p : Path) : Except AccessError (Option Obj) :=
  (n.read ctx p).map (Option.map Value.obj)

/-- A write on the part that a path leads to: the part is lent to a navigator of its own, on which
the write is made, and put back. -/
def writeBelow (n : Navigator) (ctx : Context) (p q : Path) (v : Option Obj) :
    Navigator × Except AccessError Unit :=
  match n.borrow ctx p with
  | (n, .error e) => (n, .error e)
  | (n, .ok place) =>
    let (child, result) := (ofOption (place.bind n.part?)).write ctx q v
    match place, child.obj? with
    | some place, some part => (n.withPart place part, result)
    | _, _ => (n, result)

variable {ctx : Context} {n : Navigator} {o : Obj} {p : Path} {place : Place}

theorem get_append (n : Navigator) (ctx : Context) (p q : Path) : n.get ctx (p.append q) =
    match n.get ctx p with
    | .ok (some x) => (readOnly x).get ctx q
    | .ok none => .ok none
    | .error e => .error e := by
  unfold get read
  cases n.obj? with
  | none => rfl
  | some o =>
    simp only [Context.readPath, Path.append, Path.segments, Context.readFrom_append, obj?]
    rcases ctx.readFrom o p.first p.rest with e | w
    · rfl
    · cases w with
      | none => rfl
      | some w =>
        simp only [Except.map, Option.map_some]
        rcases ctx.readFrom w.obj q.first q.rest with e | x
        · rfl
        · cases x <;> rfl

theorem get_child (n : Navigator) (ctx : Context) (p q : Path) :
    ((n.child ctx p).bind fun c => c.get ctx q) = n.get ctx (p.append q) := by
  rw [get_append]
  unfold child get
  rcases n.read ctx p with e | w
  · rfl
  · cases w with
    | none => rfl
    | some w =>
      simp only [Except.map, Except.bind, Option.map_some, ofValue]
      cases w.owned <;> rfl

theorem changeable_of_borrow (found : n.obj? = some o) (borrowed : (n.borrow ctx p).2 = .ok (some place)) :
    n.changeable? = some o ∧ ∃ o', ctx.borrowPath p o = .ok (some place) o' := by
  unfold borrow at borrowed
  split at borrowed
  · cases borrowed
  · exact changeable_of_edit found borrowed

section Writes
variable (usual : ctx.Usual) (sound : ctx.schema.Sound) (found : n.obj? = some o)
  (typed : ctx.schema.WellTyped o)
include usual sound found typed

theorem writeBelow_eq (along : ctx.Along false (fun o s => ctx.Plain o s.name) p.first p.rest o)
    (borrowed : (n.borrow ctx p).2 = .ok (some place)) (q : Path) (v : Option Obj) :
    n.writeBelow ctx p q v = n.write ctx (p.append q) v := by
  obtain ⟨changeable, o', ran⟩ := changeable_of_borrow found borrowed
  obtain ⟨rfl, part, held, wrote⟩ := Context.writeFrom_append usual sound typed along ran
  have lent : n.borrow ctx p = (n.withObj o', .ok (some place)) := by
    simp only [borrow, edit, changeable, ran]
  have below : (n.withObj o').part? place = some part := by
    simp only [part?, obj?_withObj found, Option.bind_some, held]
  have whole : ctx.writePath (p.append q) v o' = Edit.lent place (ctx.writePath q v) (return ()) o' :=
    (wrote v q).trans (Edit.lent_of_at? held _ _).symm
  have outcome : (ctx.writePath (p.append q) v).outcome o' = (ctx.writePath q v).outcome part := by
    rw [← Edit.outcome_lent held _ (return ()), Edit.outcome, whole, Edit.outcome]
  have after : (ctx.writePath (p.append q) v).after o' =
      o'.replaceAt place ((ctx.writePath q v).after part) := by
    rw [← Edit.after_lent held _ (return ()), Edit.after, whole, Edit.after]
  have child : (writable part).write ctx q v = _ := edit_of_changeable rfl _ _
  have root : n.write ctx (p.append q) v = _ := edit_of_changeable changeable _ _
  simp only [writeBelow, lent, Option.bind_some, below, ofOption, child, root, outcome, after,
    withPart, obj?_withObj found]
  cases n <;> rfl

end Writes

/-- Two paths joined by a dot are walked one after the other: by reads, and by writes where the first
path lends a part and no accessor method claims a name on it. -/
theorem composes (s : Schema) (n : Navigator) (p q : String) :
    (n.get (.standard s) (.ofString (p ++ "." ++ q)) =
      match n.get (.standard s) (.ofString p) with
      | .ok (some x) => (readOnly x).get (.standard s) (.ofString q)
      | .ok none => .ok none
      | .error e => .error e) ∧
    ((n.child (.standard s) (.ofString p)).bind fun c => c.get (.standard s) (.ofString q)) =
      n.get (.standard s) (.ofString (p ++ "." ++ q)) ∧
    ∀ o place, s.Sound → n.obj? = some o → s.WellTyped o →
      (Context.standard s).Along false (fun o segment => (Context.standard s).Plain o segment.name)
        (Path.ofString p).first (Path.ofString p).rest o →
      (n.borrow (.standard s) (.ofString p)).2 = .ok (some place) →
      ∀ v, n.writeBelow (.standard s) (.ofString p) (.ofString q) v =
        n.write (.standard s) (.ofString (p ++ "." ++ q)) v := by
  rw [Path.ofString_append]
  refine ⟨get_append n _ _ _, get_child n _ _ _, ?_⟩
  intro o place sound found typed along borrowed v
  exact writeBelow_eq (Context.usual_standard s) sound found typed along borrowed _ v

open Sample in
/-- A note of a tenant, written below the notes and written along the whole path. -/
theorem composes_notes :
    (writable (tenant "Ann" [])).writeBelow (.standard tenancy) (.ofString "notes") (.ofString "door.key")
      (some (.str "7")) =
    (writable (tenant "Ann" [])).write (.standard tenancy) (.ofString "notes.door.key")
      (some (.str "7")) := by
  have typed : tenancy.WellTyped (tenant "Ann" []) := wellTyped_tenant "Ann" (by simp) (by simp)
  exact (composes tenancy _ "notes" "door.key").2.2 _ _ tenancy_sound rfl typed
    (.of_all (fun o segment => tenancy_fieldsOnly.plain o segment.name) _ _ _) rfl _

end Navigator

end ObjectGraph
