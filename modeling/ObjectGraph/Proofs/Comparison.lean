import Mathlib.Data.List.Nodup
import Mathlib.Data.List.Perm.Subperm
import ObjectGraph.Obj.Comparison
import ObjectGraph.Proofs.ObjectOrder

/-! Comparison the other way round.

Maps are compared along the keys of the first one, which the second one reads by their texts. If no key
is respelled in this, entries of one text are compared, and the other map has no further entries, since
the maps have as many entries as each other and texts tell keys apart. Then whatever equals an object is
equaled by it.
-/

set_option autoImplicit false
namespace ObjectGraph

/-! Scalars -/

theorem Decimal.Number.equals_comm (a b : Number) : a.equals b = b.equals a := by
  cases a with
  | nan => cases b <;> rfl
  | infinite s =>
    cases b with
    | infinite t => exact BEq.comm
    | _ => rfl
  | finite s m e lower =>
    cases b with
    | finite t n f lower' =>
      simp only [equals, Bool.and_comm (m == 0), BEq.comm (a := t), BEq.comm (a := n), BEq.comm (a := f)]
    | _ => rfl

theorem Scalar.equals_comm (a b : Scalar) : a.equals b = b.equals a := by
  cases a <;> cases b <;> first | exact BEq.comm | exact Decimal.Number.equals_comm _ _

namespace Obj

/-- The maps of the object hold keys of their key types, and the sets members of their item types, each
of them once. -/
inductive Keyed : Obj → Prop where
  | scalar (value : Scalar) : Keyed (.scalar value)
  | list {kind : ListKind} {item : Ty} {items : List Obj} : (∀ o ∈ items, Keyed o) →
    Keyed (.list kind item items)
  | array {kind : ArrayKind} {item : Ty} {items : List Obj} : (∀ o ∈ items, Keyed o) →
    Keyed (.array kind item items)
  | map {kind : MapKind} {key : KeyType} {value : Ty} {entries : Entries} :
    (∀ k ∈ Entries.keys entries, k.hasType key = true) → (Entries.keys entries).Nodup →
    (∀ e ∈ entries, Keyed e.2) → Keyed (.map kind key value entries)
  | set {kind : SetKind} {item : Ty} {members : Members} : (∀ o ∈ members, o.ty = item) →
    members.Nodup → Keyed (.set kind item members)
  | bean {type : String} {fields : Fields} : (∀ f ∈ fields, ∀ o, f.2 = some o → Keyed o) →
    Keyed (.bean type fields)

/-- Two objects are compared in the comparison of two others: at one position, under keys of one text,
or in fields of one place. -/
inductive Meets : Obj → Obj → Obj → Obj → Prop where
  | here (a b : Obj) : Meets a b a b
  | item {kind kind' : ListKind} {item item' : Ty} {items others : List Obj} {i : Nat} {o p m m' : Obj} :
    items[i]? = some o → others[i]? = some p → Meets o p m m' →
    Meets (.list kind item items) (.list kind' item' others) m m'
  | element {kind kind' : ArrayKind} {item item' : Ty} {items others : List Obj} {i : Nat}
    {o p m m' : Obj} : items[i]? = some o → others[i]? = some p → Meets o p m m' →
    Meets (.array kind item items) (.array kind' item' others) m m'
  | entry {kind kind' : MapKind} {key key' : KeyType} {value value' : Ty} {entries others : Entries}
    {k l : Key} {o p m m' : Obj} : (k, o) ∈ entries → (l, p) ∈ others → k.text = l.text →
    Meets o p m m' → Meets (.map kind key value entries) (.map kind' key' value' others) m m'
  | field {type type' : String} {fields others : Fields} {i : Nat} {name name' : String}
    {o p m m' : Obj} : fields[i]? = some (name, some o) → others[i]? = some (name', some p) →
    Meets o p m m' → Meets (.bean type fields) (.bean type' others) m m'

theorem Meets.swap {a b m m' : Obj} (meets : a.Meets b m m') : b.Meets a m' m := by
  induction meets with
  | here a b => exact .here b a
  | item first second _ ih => exact .item second first ih
  | element first second _ ih => exact .element second first ih
  | entry first second same _ ih => exact .entry second first same.symm ih
  | field first second _ ih => exact .field second first ih

/-- If both objects are maps, neither has a key that the other one's key type respells. -/
def SpelledAlike : Obj → Obj → Prop
  | .map _ key _ entries, .map _ key' _ others =>
    (∀ k ∈ Entries.keys entries, ¬ k.Respelled key') ∧ ∀ k ∈ Entries.keys others, ¬ k.Respelled key
  | _, _ => True

theorem SpelledAlike.swap {a b : Obj} (alike : a.SpelledAlike b) : b.SpelledAlike a := by
  cases a <;> cases b <;> first | trivial | exact ⟨alike.2, alike.1⟩

end Obj

/-- Only keys of strings met with keys of integers are respelled. -/
theorem Obj.spelledAlike_of_types {kind kind' : MapKind} {key key' : KeyType} {value value' : Ty}
    {entries others : Entries} (typed : ∀ k ∈ Entries.keys entries, k.hasType key = true)
    (typed' : ∀ k ∈ Entries.keys others, k.hasType key' = true)
    (apart : ∀ t, ¬(key = .str ∧ key' = .int t) ∧ ¬(key' = .str ∧ key = .int t)) :
    (Obj.map kind key value entries).SpelledAlike (.map kind' key' value' others) := by
  constructor
  · intro k member respelled
    obtain ⟨isStr, t, isInt⟩ := respelled.types (typed k member)
    exact (apart t).1 ⟨isStr, isInt⟩
  · intro k member respelled
    obtain ⟨isStr, t, isInt⟩ := respelled.types (typed' k member)
    exact (apart t).2 ⟨isStr, isInt⟩

theorem thenCompare_eq_true {first rest : Option Bool} :
    thenCompare first rest = some true ↔ first = some true ∧ rest = some true := by
  unfold thenCompare
  split
  · simp
  next other => simp [show first ≠ some true from other]

section Flip
variable {layouts : Layouts}

/-- If the first object equals the second one, the second equals the first. -/
def Flips (layouts : Layouts) (o p : Obj) : Prop :=
  o.compare? layouts p = some true → p.compare? layouts o = some true

theorem compareItems_flip {items others : List Obj}
    (flips : ∀ (i : Nat) o p, items[i]? = some o → others[i]? = some p → Flips layouts o p)
    (same : compareItems layouts items others = some true) :
    compareItems layouts others items = some true := by
  induction items generalizing others with
  | nil => cases others <;> rfl
  | cons o items ih =>
    cases others with
    | nil => rfl
    | cons p others =>
      rw [compareItems, thenCompare_eq_true] at same ⊢
      refine ⟨flips 0 o p rfl rfl same.1, ih ?_ same.2⟩
      intro i o p first second
      exact flips (i + 1) o p first second

theorem compareSequences_flip {items others : List Obj}
    (flips : ∀ (i : Nat) o p, items[i]? = some o → others[i]? = some p → Flips layouts o p)
    (same : (if items.length = others.length then compareItems layouts items others else some false) =
      some true) :
    (if others.length = items.length then compareItems layouts others items else some false) =
      some true := by
  by_cases length : items.length = others.length
  · rw [if_pos length] at same
    rw [if_pos length.symm]
    exact compareItems_flip flips same
  · rw [if_neg length] at same
    cases same

theorem compareFields_flip {fields others : Fields}
    (flips : ∀ (i : Nat) n n' o p, fields[i]? = some (n, some o) → others[i]? = some (n', some p) →
      Flips layouts.derived o p)
    (same : compareFields layouts fields others = true) : compareFields layouts others fields = true := by
  induction fields generalizing others with
  | nil =>
    cases others with
    | nil => rfl
    | cons => cases same
  | cons f fields ih =>
    -- What holds of the fields at all positions holds of those behind the first.
    have rest {g : String × Option Obj} {others : Fields}
        (flips : ∀ (i : Nat) n n' o p, (f :: fields)[i]? = some (n, some o) →
          (g :: others)[i]? = some (n', some p) → Flips layouts.derived o p)
        (same : compareFields layouts fields others = true) :
        compareFields layouts others fields = true := by
      apply ih _ same
      intro i n n' o p first second
      exact flips (i + 1) n n' o p first second
    cases others with
    | nil =>
      obtain ⟨_, _ | _⟩ := f <;> cases same
    | cons g others =>
      obtain ⟨n, v⟩ := f
      obtain ⟨n', w⟩ := g
      cases v with
      | none =>
        cases w with
        | none => exact rest flips same
        | some p => cases same
      | some o =>
        cases w with
        | none => cases same
        | some p =>
          rw [compareFields, Bool.and_eq_true, beq_iff_eq] at same ⊢
          exact ⟨flips 0 n n' o p rfl rfl same.1, rest flips same.2⟩

theorem compareEntries_eq_true {entries : Entries} {other : MapView} :
    compareEntries layouts entries other = some true ↔
      ∀ e ∈ entries, ∃ p, other.get? e.1.text = some p ∧ e.2.compare? layouts p = some true := by
  induction entries with
  | nil => simp [compareEntries]
  | cons e entries ih =>
    obtain ⟨k, o⟩ := e
    simp only [compareEntries, List.forall_mem_cons]
    cases found : other.get? k.text with
    | none => simp
    | some p =>
      dsimp only
      rw [thenCompare_eq_true, ih]
      simp

theorem subset_of_length_le {α : Type} {l l' : List α} (nodup : l.Nodup) (sub : l ⊆ l')
    (length : l'.length ≤ l.length) : l' ⊆ l :=
  ((List.subperm_of_subset nodup sub).perm_of_length_le length).symm.subset

theorem Entries.get?_of_mem {entries : Entries} (nodup : (Entries.keys entries).Nodup)
    {e : Key × Obj} (member : e ∈ entries) : Entries.get? e.1 entries = some e.2 := by
  induction entries with
  | nil => cases member
  | cons first rest ih =>
    obtain ⟨k, o⟩ := first
    rw [Entries.keys, List.map_cons, List.nodup_cons] at nodup
    rcases List.mem_cons.mp member with rfl | member
    · exact if_pos rfl
    · have ne : k ≠ e.1 := by
        intro same
        exact nodup.1 (same ▸ List.mem_map.mpr ⟨e, member, rfl⟩)
      rw [Entries.get?, if_neg ne]
      exact ih nodup.2 member

section Entries
variable {kind kind' : MapKind} {key key' : KeyType} {value value' : Ty} {entries others : Entries}
  (typed : ∀ k ∈ Entries.keys entries, k.hasType key = true) (nodup : (Entries.keys entries).Nodup)
  (typed' : ∀ k ∈ Entries.keys others, k.hasType key' = true) (nodup' : (Entries.keys others).Nodup)
  (length : entries.length = others.length)
  (spelled : ∀ k ∈ Entries.keys entries, ¬ k.Respelled key')
include typed nodup typed' nodup' length spelled

theorem compareEntries_flip
    (flips : ∀ k l o p, (k, o) ∈ entries → (l, p) ∈ others → k.text = l.text → Flips layouts o p)
    (same : compareEntries layouts entries ⟨kind', key', value', others⟩ = some true) :
    compareEntries layouts others ⟨kind, key, value, entries⟩ = some true := by
  rw [compareEntries_eq_true] at same ⊢
  -- No key is respelled, so every entry equals an entry under a key of the same text.
  have matched : ∀ e ∈ entries, ∃ f ∈ others, f.1.text = e.1.text ∧
      e.2.compare? layouts f.2 = some true := by
    intro e member
    obtain ⟨p, found, equal⟩ := same e member
    unfold MapView.get? at found
    split at found
    next l read =>
      have text : l.text = e.1.text := by
        by_cases text : l.text = e.1.text
        · exact text
        · exact absurd ⟨l, read, text⟩ (spelled e.1 (List.mem_map_of_mem member))
      exact ⟨(l, p), Entries.mem_of_get? found, text, equal⟩
    · cases found
  have covered : (Entries.keys others).map Key.text ⊆ (Entries.keys entries).map Key.text := by
    apply subset_of_length_le
    · apply List.Nodup.map_on _ nodup
      intro k kMember l lMember
      exact Key.eq_of_text (typed k kMember) (typed l lMember)
    · intro text member
      obtain ⟨k, kMember, rfl⟩ := List.mem_map.mp member
      obtain ⟨e, eMember, rfl⟩ := List.mem_map.mp kMember
      obtain ⟨f, fMember, same, _⟩ := matched e eMember
      rw [← same]
      exact List.mem_map_of_mem (List.mem_map_of_mem fMember)
    · simp [Entries.keys, length]
  intro f fMember
  have inOthers : f.1 ∈ Entries.keys others := List.mem_map_of_mem fMember
  obtain ⟨k, kMember, text⟩ := List.mem_map.mp (covered (List.mem_map_of_mem inOthers))
  obtain ⟨e, eMember, rfl⟩ := List.mem_map.mp kMember
  obtain ⟨g, gMember, gText, equal⟩ := matched e eMember
  have one : g = f := by
    have keys : g.1 = f.1 :=
      Key.eq_of_text (typed' _ (List.mem_map_of_mem gMember)) (typed' _ inOthers) (gText.trans text)
    have values := Entries.get?_of_mem nodup' gMember
    rw [keys, Entries.get?_of_mem nodup' fMember] at values
    exact Prod.ext keys (Option.some.inj values).symm
  subst one
  refine ⟨e.2, ?_, flips _ _ _ _ eMember gMember text equal⟩
  unfold MapView.get?
  rw [← text, Key.read?_text (typed _ kMember)]
  exact Entries.get?_of_mem nodup eMember

end Entries

theorem SetView.all_contains {kind : SetKind} {item item' : Ty} {members others : Members}
    (typed : ∀ o ∈ members, o.ty = item) :
    members.all (SetView.contains ⟨kind, item', others⟩) = true ↔
      ∀ o ∈ members, item' = item ∧ o ∈ others := by
  rw [List.all_eq_true]
  refine forall₂_congr fun o member => ?_
  rw [SetView.contains, Bool.and_eq_true, beq_iff_eq, Members.has_iff, typed o member, eq_comm]

theorem compareSets_flip {kind kind' : SetKind} {item item' : Ty} {members others : Members}
    (typed : ∀ o ∈ members, o.ty = item) (nodup : members.Nodup) (typed' : ∀ o ∈ others, o.ty = item')
    (length : members.length = others.length)
    (same : members.all (SetView.contains ⟨kind', item', others⟩) = true) :
    others.all (SetView.contains ⟨kind, item, members⟩) = true := by
  rw [SetView.all_contains typed] at same
  rw [SetView.all_contains typed']
  have covered : others ⊆ members := by
    apply subset_of_length_le nodup
    · intro o member
      exact (same o member).2
    · omega
  intro o member
  exact ⟨(same o (covered member)).1.symm, covered member⟩

end Flip

namespace Obj

variable {layouts : Layouts} {a b : Obj}

/-- What equals an object is equaled by it, where no key is respelled. -/
theorem compare?_flip (keyed : a.Keyed) (keyed' : b.Keyed)
    (spelled : ∀ m m', a.Meets b m m' → m.SpelledAlike m') : Flips layouts a b := by
  intro same
  -- Along the first object, since its parts are met in its own comparison only.
  induction keyed generalizing layouts b with
  | scalar value =>
    cases b with
    | scalar other =>
      simp only [compare?, Option.some.injEq] at same ⊢
      exact (Scalar.equals_comm other value).trans same
    | _ => cases same
  | list _ ih =>
    cases b with
    | list _ _ others =>
      cases keyed' with
      | list keyed' =>
      refine compareSequences_flip ?_ same
      intro i o p first second
      exact ih o (List.mem_of_getElem? first) (keyed' p (List.mem_of_getElem? second))
        fun m m' meets => spelled m m' (.item first second meets)
    | _ => cases same
  | array _ ih =>
    cases b with
    | array _ _ others =>
      cases keyed' with
      | array keyed' =>
      refine compareSequences_flip ?_ same
      intro i o p first second
      exact ih o (List.mem_of_getElem? first) (keyed' p (List.mem_of_getElem? second))
        fun m m' meets => spelled m m' (.element first second meets)
    | _ => cases same
  | @map kind key value entries typed nodup _ ih =>
    cases b with
    | map kind' key' value' others =>
      cases keyed' with
      | map typed' nodup' keyed' =>
      simp only [compare?] at same ⊢
      by_cases length : entries.length = others.length
      · rw [if_pos length] at same
        rw [if_pos length.symm]
        have alike := spelled _ _ (.here _ _)
        refine compareEntries_flip typed nodup typed' nodup' length alike.1 ?_ same
        intro k l o p first second text
        exact ih (k, o) first (keyed' (l, p) second)
          fun m m' meets => spelled m m' (.entry first second text meets)
      · rw [if_neg length] at same
        cases same
    | _ => cases same
  | set typed nodup =>
    cases b with
    | set _ _ others =>
      cases keyed' with
      | set typed' _ =>
      simp only [compare?, Option.some.injEq, Bool.and_eq_true, beq_iff_eq] at same ⊢
      exact ⟨same.1.symm, compareSets_flip typed nodup typed' same.1 same.2⟩
    | _ => cases same
  | @bean type fields _ ih =>
    by_cases comparable : ((layouts type).map Layout.comparable).getD false = true
    · cases b with
      | bean other others =>
        cases keyed' with
        | bean keyed' =>
        simp only [compare?, if_pos comparable, Option.some.injEq, Bool.and_eq_true, beq_iff_eq] at same
        obtain ⟨rfl, same⟩ := same
        simp only [compare?, if_pos comparable, beq_self_eq_true, Bool.true_and, Option.some.injEq]
        refine compareFields_flip ?_ same
        intro i n n' o p first second
        exact ih (n, some o) (List.mem_of_getElem? first) o rfl
          (keyed' (n', some p) (List.mem_of_getElem? second) p rfl)
          fun m m' meets => spelled m m' (.field first second meets)
      | _ => simp [compare?, comparable] at same
    · cases b <;> simp [compare?, comparable] at same

/-- Comparison answers the same both ways, where it answers and no key of the maps that it compares is
respelled. -/
theorem compare?_symm (keyed : a.Keyed) (keyed' : b.Keyed)
    (spelled : ∀ m m', a.Meets b m m' → m.SpelledAlike m') {x y : Bool}
    (forth : a.compare? layouts b = some x) (back : b.compare? layouts a = some y) : x = y := by
  have flip : a.compare? layouts b = some true → b.compare? layouts a = some true :=
    compare?_flip keyed keyed' spelled
  have unflip : b.compare? layouts a = some true → a.compare? layouts b = some true :=
    compare?_flip keyed' keyed fun m m' meets => (spelled m' m meets.swap).swap
  rw [forth, back] at flip unflip
  cases x with
  | true => exact (Option.some.inj (flip rfl)).symm
  | false =>
    cases y with
    | true => exact Option.some.inj (unflip rfl)
    | false => rfl

end Obj

namespace Sample

def texts (entries : List (String × Int)) : Obj :=
  .map .hash .str (.int .i32) (entries.map fun (k, n) => (.str k, .int .i32 n))

def numbers (entries : List (Int × Int)) : Obj :=
  .map .sorted (.int .u8) (.int .i32) (entries.map fun (k, n) => (.int k, .int .i32 n))

theorem keyed_texts {entries : List (String × Int)} (nodup : (entries.map Prod.fst).Nodup) :
    (texts entries).Keyed := by
  have keys : Entries.keys (entries.map fun (k, n) => (.str k, .int .i32 n)) =
      (entries.map Prod.fst).map Key.str := by simp [Entries.keys]
  refine .map ?_ ?_ ?_
  · intro k member
    rw [keys] at member
    obtain ⟨text, _, rfl⟩ := List.mem_map.mp member
    rfl
  · rw [keys]
    exact nodup.map fun _ _ same => Key.str.inj same
  · intro e member
    obtain ⟨_, _, rfl⟩ := List.mem_map.mp member
    exact .scalar _

theorem keyed_numbers {entries : List (Int × Int)}
    (contained : ∀ n ∈ entries.map Prod.fst, IntType.contains .u8 n = true)
    (nodup : (entries.map Prod.fst).Nodup) : (numbers entries).Keyed := by
  have keys : Entries.keys (entries.map fun (k, n) => (.int k, .int .i32 n)) =
      (entries.map Prod.fst).map Key.int := by simp [Entries.keys]
  refine .map ?_ ?_ ?_
  · intro k member
    rw [keys] at member
    obtain ⟨n, nMember, rfl⟩ := List.mem_map.mp member
    exact contained n nMember
  · rw [keys]
    exact nodup.map fun _ _ same => Key.int.inj same
  · intro e member
    obtain ⟨_, _, rfl⟩ := List.mem_map.mp member
    exact .scalar _

end Sample

open Sample in
/-- A text that spells a number as the number's own text does. -/
theorem Obj.compare?_symm_number : (texts [("1", 5)]).Keyed ∧ (numbers [(1, 5)]).Keyed ∧
    (∀ m m', (texts [("1", 5)]).Meets (numbers [(1, 5)]) m m' → m.SpelledAlike m') ∧
    ∃ x y, (texts [("1", 5)]).compare? (fun _ => none) (numbers [(1, 5)]) = some x ∧
      (numbers [(1, 5)]).compare? (fun _ => none) (texts [("1", 5)]) = some y ∧ x = y := by
  have keyed : (texts [("1", 5)]).Keyed := keyed_texts (by decide)
  have keyed' : (numbers [(1, 5)]).Keyed := keyed_numbers (by decide) (by decide)
  have alike : (texts [("1", 5)]).SpelledAlike (numbers [(1, 5)]) := by
    constructor
    · intro k member
      cases List.mem_singleton.mp member
      rintro ⟨l, read, other⟩
      have one : Key.read? (.int .u8) (Key.str "1").text = some (.int 1) := by decide
      rw [one] at read
      cases read
      exact other rfl
    · intro k member
      cases List.mem_singleton.mp member
      rintro ⟨l, read, other⟩
      cases Option.some.inj read
      exact other rfl
  have spelled : ∀ m m', (texts [("1", 5)]).Meets (numbers [(1, 5)]) m m' → m.SpelledAlike m' := by
    intro m m' meets
    cases meets with
    | here => exact alike
    | entry first second _ meets =>
      cases List.mem_singleton.mp first
      cases List.mem_singleton.mp second
      cases meets
      trivial
  have forth : (texts [("1", 5)]).compare? (fun _ => none) (numbers [(1, 5)]) = some true := rfl
  have back : (numbers [(1, 5)]).compare? (fun _ => none) (texts [("1", 5)]) = some true := rfl
  exact ⟨keyed, keyed', spelled, true, true, forth, back, compare?_symm keyed keyed' spelled forth back⟩

open Sample in
/-- Two texts that spell one number: the map of numbers is never asked for its other entry. -/
theorem Obj.compare?_respelled : (texts [("+1", 5), ("1", 5)]).Keyed ∧ (numbers [(1, 5), (2, 5)]).Keyed ∧
    (texts [("+1", 5), ("1", 5)]).compare? (fun _ => none) (numbers [(1, 5), (2, 5)]) = some true ∧
    (numbers [(1, 5), (2, 5)]).compare? (fun _ => none) (texts [("+1", 5), ("1", 5)]) = some false := by
  have texts : (texts [("+1", 5), ("1", 5)]).Keyed := keyed_texts (by decide)
  have numbers : (numbers [(1, 5), (2, 5)]).Keyed := keyed_numbers (by decide) (by decide)
  exact ⟨texts, numbers, rfl, rfl⟩

end ObjectGraph
