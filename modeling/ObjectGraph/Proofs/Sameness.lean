import ObjectGraph.Proofs.Agreement
import ObjectGraph.Proofs.Reach

/-! Graphs that are the same but for the order in which maps list their entries.

Two objects are the same when at every place both have nothing, or objects that are alike apart from
their parts. Maps are compared as finite maps thereby. Giving a slot a value determines what sits at
and below the slot and leaves everything else the same, so it is known up to sameness by what is found
at each place.
-/

set_option autoImplicit false
namespace ObjectGraph
namespace Obj

def bare : Obj → Obj
  | .scalar value => .scalar value
  | .list kind item _ => .list kind item []
  | .array kind item _ => .array kind item []
  | .map kind key value _ => .map kind key value []
  | .set kind item members => .set kind item members
  | .bean type fields => .bean type ((Fields.names fields).map fun name => (name, none))

/-- What an object is apart from what its slots hold. -/
def head (o : Obj) : Obj × Option Nat :=
  (o.bare, o.length?)

/-- The objects are the same, with maps as finite maps. -/
def Same (o o' : Obj) : Prop :=
  ∀ place, (o.at? place).map head = (o'.at? place).map head

@[simp] theorem bare_put (o : Obj) (slot : Slot) (v : Option Obj) : (o.put slot v).bare = o.bare := by
  unfold put
  split <;> simp [bare]

@[simp] theorem bare_withPart (o : Obj) (slot : Slot) (part : Obj) :
    (o.withPart slot part).bare = o.bare := by
  unfold withPart
  split <;> simp [bare]

@[simp] theorem head_put (o : Obj) (slot : Slot) (v : Option Obj) : (o.put slot v).head = o.head := by
  simp only [head, bare_put, length?_put]

@[simp] theorem head_withPart (o : Obj) (slot : Slot) (part : Obj) :
    (o.withPart slot part).head = o.head := by
  simp only [head, bare_withPart, length?_withPart]

variable {o o' o'' part : Obj} {base place q : Place} {slot : Slot}

theorem ty_of_head (heads : o.head = o'.head) : o.ty = o'.ty := by
  have bare (o : Obj) : o.bare.ty = o.ty := by cases o <;> rfl
  have same : o.bare = o'.bare := congrArg Prod.fst heads
  rw [← bare o, ← bare o', same]

@[refl] theorem Same.refl (o : Obj) : o.Same o :=
  fun _ => rfl

@[symm] theorem Same.symm (same : o.Same o') : o'.Same o :=
  fun place => (same place).symm

/-- It is enough to compare what sits at and below one place, and off it. -/
theorem same_of_address (address : Place)
    (inside : ∀ below, o.at? (address ++ below) = o'.at? (address ++ below))
    (off : ∀ place, ¬ address <+: place → (o.at? place).map head = (o'.at? place).map head) :
    o.Same o' := by
  intro place
  by_cases within : address <+: place
  · obtain ⟨below, rfl⟩ := within
    rw [inside below]
  · exact off place within

/-! What replacing a part and giving a slot a value leave at a place -/

theorem head_at?_replaceAt (o new : Obj) (off : ¬ base <+: q) :
    ((o.replaceAt base new).at? q).map head = (o.at? q).map head := by
  -- The place leaves the way to the part at some slot, before which only parts differ.
  induction base generalizing o q with
  | nil => exact absurd List.nil_prefix off
  | cons slot base ih =>
    cases held : o.part? slot with
    | none => simp only [replaceAt, held]
    | some child =>
      simp only [replaceAt, held]
      cases q with
      | nil => simp only [at?, Option.map_some, head_withPart]
      | cons other q =>
        by_cases same : other = slot
        · subst same
          simp only [at?, part?_withPart_self _ held, held]
          exact ih child fun within => off (List.cons_prefix_cons.mpr ⟨rfl, within⟩)
        · simp only [at?, part?_withPart_of_ne o _ same]

theorem head_at?_assign (o : Obj) (v : Option Obj) (off : ¬ place ++ [slot] <+: q) :
    ((o.assign place slot v).at? q).map head = (o.at? q).map head := by
  cases found : o.at? place with
  | none => simp only [assign, found]
  | some owner =>
    rw [assign_eq found]
    by_cases within : place <+: q
    · obtain ⟨below, rfl⟩ := within
      rw [List.prefix_append_right_inj] at off
      rw [at?_replaceAt_append _ found, at?_below found]
      cases below with
      | nil => simp only [at?, Option.map_some, head_put]
      | cons other below =>
        have ne : other ≠ slot := by
          rintro rfl
          exact off (List.cons_prefix_cons.mpr ⟨rfl, List.nil_prefix⟩)
        simp only [at?, part?_put_of_ne owner v ne]
    · exact head_at?_replaceAt o _ within

theorem part?_put_none {s : Schema} (has : o.hasSlot slot) (admits : s.Admits o slot none) :
    (o.put slot none).part? slot = none := by
  unfold hasSlot at has
  split at has
  · exact Fields.get?_set_self _ (by simpa using has)
  · cases admits
  · cases admits
  · exact Entries.get?_erase_self _ _
  · cases has

theorem at?_assign_below {s : Schema} {v : Option Obj} (admits : s.AdmitsAt o place slot v)
    (below : Place) : (o.assign place slot v).at? (place ++ [slot] ++ below) = v.bind (·.at? below) := by
  cases v with
  | some part => exact at?_below (at?_assign part admits.hasSlotAt) below
  | none =>
    obtain ⟨owner, found, has, admitted⟩ := admits
    rw [assign_eq found, List.append_assoc, at?_replaceAt_append _ found, List.singleton_append, at?,
      part?_put_none has admitted, Option.bind_none]

theorem hasSlot_of_part? (held : o.part? slot = some part) : o.hasSlot slot := by
  unfold part? at held
  split at held
  · exact List.contains_iff_mem.mpr (Fields.mem_names_of_get? held)
  · exact decide_eq_true (List.getElem?_eq_some_iff.mp held).1
  · exact decide_eq_true (List.getElem?_eq_some_iff.mp held).1
  · rfl
  · cases held

theorem hasSlotAt_of_at? (held : o.at? (place ++ [slot]) = some part) : o.hasSlotAt place slot := by
  rw [at?_append] at held
  obtain ⟨owner, found, held⟩ := Option.bind_eq_some_iff.mp held
  exact ⟨owner, found, hasSlot_of_part? ((at?_singleton owner slot).symm.trans held)⟩

theorem replaceAt_same_assign (held : o.at? (place ++ [slot]) = some part) (new : Obj) :
    (o.replaceAt (place ++ [slot]) new).Same (o.assign place slot (some new)) := by
  refine same_of_address (place ++ [slot]) (fun below => ?_) fun q off => ?_
  · rw [at?_replaceAt_append new held, at?_below (at?_assign new (hasSlotAt_of_at? held))]
  · rw [head_at?_replaceAt o new off, head_at?_assign o (some new) off]

theorem assign_same (held : o.at? (place ++ [slot]) = some part) :
    (o.assign place slot (some part)).Same o := by
  have same := replaceAt_same_assign held part
  rw [replaceAt_at? held] at same
  exact same.symm

/-- Slots at places that part ways may be given their values in either order. -/
theorem assign_assign_same {s : Schema} {first second : Place} {u w : Slot} {v v' : Option Obj}
    (admits : s.AdmitsAt o first u v) (admits' : s.AdmitsAt o second w v')
    (later : s.AdmitsAt (o.assign second w v') first u v)
    (later' : s.AdmitsAt (o.assign first u v) second w v')
    (diverge : Diverge (first ++ [u]) (second ++ [w])) :
    ((o.assign first u v).assign second w v').Same ((o.assign second w v').assign first u v) := by
  intro place
  by_cases one : first ++ [u] <+: place
  · rw [head_at?_assign _ _ (diverge.not_prefix one)]
    obtain ⟨below, rfl⟩ := one
    rw [at?_assign_below admits, at?_assign_below later]
  · rw [head_at?_assign (o.assign second w v') v one]
    by_cases other : second ++ [w] <+: place
    · obtain ⟨below, rfl⟩ := other
      rw [at?_assign_below later', at?_assign_below admits']
    · rw [head_at?_assign _ _ other, head_at?_assign _ _ one, head_at?_assign _ _ other]

end Obj

end ObjectGraph
