import Mathlib.Data.List.Induction
import Mathlib.Data.List.Nodup
import ObjectGraph.Proofs.KeyAccess
import ObjectGraph.Proofs.KeyOrder

/-! Maps as finite functions on keys.

Many texts are read as one key, and a map knows only the key. Whatever was stored in it and dropped
from it, it holds under a key what was last stored under a text that is read as the key, and nothing
if it was dropped since. A call that is refused, or has nothing to drop, leaves no trace.
-/

set_option autoImplicit false
namespace ObjectGraph

inductive MapCall where
  | insert (text : String) (value : Obj)
  | remove (text : String)

/-- What a call that is not refused does: it gives a key a value, or leaves it without one. -/
def MapCall.binding? (key : KeyType) (value : Ty) : MapCall → Option (Key × Option Obj)
  | .insert text o => if value.accepts o then (Key.read? key text).map (·, some o) else none
  | .remove text => (Key.read? key text).map (·, none)

/-- The value that a key is left with by bindings: that of the last one that concerns it. -/
def lastBound (bindings : List (Key × Option Obj)) (k : Key) : Option Obj :=
  (bindings.filter (·.1 = k)).getLast?.bind Prod.snd

theorem lastBound_concat (bindings : List (Key × Option Obj)) (b : Key × Option Obj) (k : Key) :
    lastBound (bindings ++ [b]) k = if b.1 = k then b.2 else lastBound bindings k := by
  unfold lastBound
  rw [List.filter_append]
  by_cases same : b.1 = k
  · simp [same]
  · simp [same]

theorem lastBound_entries {entries : Entries} (nodup : (Entries.keys entries).Nodup) (k : Key) :
    lastBound (entries.map fun e => (e.1, some e.2)) k = Entries.get? k entries := by
  induction entries with
  | nil => rfl
  | cons e entries ih =>
    obtain ⟨fresh, nodup⟩ := List.nodup_cons.1 nodup
    have rest := ih nodup
    unfold lastBound at rest ⊢
    rw [List.map_cons, List.filter_cons, Entries.get?]
    by_cases same : e.1 = k
    · -- The key is bound by no other entry.
      have none : (entries.map fun e => (e.1, some e.2)).filter (·.1 = k) = [] := by
        rw [List.filter_eq_nil_iff]
        rintro _ member
        obtain ⟨other, inside, rfl⟩ := List.mem_map.1 member
        have ne : other.1 ≠ k := by
          rintro rfl
          exact fresh (same ▸ List.mem_map_of_mem inside)
        simpa using ne
      simp [same, none]
    · simpa [same] using rest

namespace MapView

variable {m : MapView}

/-- The map after a call, and the call's answer. A call that is refused leaves the map as it is. -/
def call (m : MapView) : MapCall → MapView × Except ElementError (Option Obj)
  | .insert text o =>
    match m.insert text o with
    | .ok (m', old) => (m', .ok old)
    | .error e => (m, .error e)
  | .remove text => ((m.remove text).1, .ok (m.remove text).2)

def after (m : MapView) (calls : List MapCall) : MapView :=
  calls.foldl (fun m c => (m.call c).1) m

def bindings (m : MapView) (calls : List MapCall) : List (Key × Option Obj) :=
  m.entries.map (fun e => (e.1, some e.2)) ++ calls.filterMap (MapCall.binding? m.key m.value)

def bound (m : MapView) : Key × Option Obj → MapView
  | (k, some o) => { m with entries := Entries.insert m.kind.before k o m.entries }
  | (k, none) => { m with entries := Entries.erase k m.entries }

/-- The keys are of the key type and stand in the order of the map's kind, as the keys of a map without
entries do and those of every map that calls make of such a map. -/
def Arranged (m : MapView) : Prop :=
  Entries.Arranged m.kind m.key m.entries

/-- The map answers as the function says that gives each key the value held under it: to look-ups, to
whatever call comes next, and when it is asked for its size and its keys. -/
structure Represents (m : MapView) (held : Key → Option Obj) : Prop where
  read : ∀ text, m.get? text = (Key.read? m.key text).bind held
  unread : ∀ text o, Key.read? m.key text = none →
    m.call (.insert text o) = (m, .error (.invalidKey m.key.name))
  refused : ∀ text k o, Key.read? m.key text = some k → m.value.accepts o = false →
    m.call (.insert text o) = (m, .error (.incompatible m.value.slotName o.typeName))
  stored : ∀ text k o, Key.read? m.key text = some k → m.value.accepts o = true →
    (m.call (.insert text o)).2 = .ok (held k)
  dropped : ∀ text, (m.call (.remove text)).2 = .ok ((Key.read? m.key text).bind held)
  untouched : ∀ text, (Key.read? m.key text).bind held = none → (m.call (.remove text)).1 = m
  live : ∃ live : List Key, live.Nodup ∧ (∀ k, k ∈ live ↔ (held k).isSome = true) ∧
    m.size = live.length ∧ m.keys = live.map Key.text ∧
    (m.kind = .sorted → live.Pairwise fun k l => k.before l = true)
  keys_nodup : m.keys.Nodup
  keys_present : ∀ text ∈ m.keys, (m.get? text).isSome = true
  keys_sorted : m.kind ≠ .sorted → m.keys.Pairwise (· < ·)

section Arranged
variable (arranged : m.Arranged)
include arranged

theorem keys_nodup : m.keys.Nodup := by
  apply List.Nodup.map_on _ arranged.nodup
  intro k member l member' same
  exact Key.eq_of_text (arranged.typed k member) (arranged.typed l member') same

theorem keys_present {text : String} (member : text ∈ m.keys) : (m.get? text).isSome = true := by
  obtain ⟨k, inside, rfl⟩ := List.mem_map.1 member
  rw [get?, Key.read?_text (arranged.typed k inside)]
  exact Entries.isSome_get?.2 inside

theorem keys_sorted (unsorted : m.kind ≠ .sorted) : m.keys.Pairwise (· < ·) := by
  have ordered := arranged.ordered
  apply List.pairwise_map.2
  cases kind : m.kind with
  | hash | swiss =>
    rw [kind] at ordered
    exact ordered.imp of_decide_eq_true
  | sorted => exact absurd kind unsorted

theorem represents_entries : m.Represents fun k => Entries.get? k m.entries where
  read text := by
    unfold get?
    cases Key.read? m.key text <;> rfl
  unread text o unread := by
    simp only [call, insert, unread]
  refused text k o read refused := by
    simp only [call, insert, read, Ty.element, Ty.convert, refused]
    rfl
  stored text k o read accepted := by
    simp only [call, insert, read, Ty.element, Ty.convert, accepted]
    rfl
  dropped text := by
    simp only [call, remove]
    cases Key.read? m.key text <;> rfl
  untouched text absent := by
    simp only [call, remove]
    cases read : Key.read? m.key text with
    | none => rfl
    | some k =>
      rw [read] at absent
      exact congrArg (fun entries => { m with entries }) (Entries.erase_of_absent absent)
  -- The keys of the entries themselves are the ones that are live.
  live := by
    refine ⟨Entries.keys m.entries, arranged.nodup, fun k => Entries.isSome_get?.symm, ?_, rfl, ?_⟩
    · exact (List.length_map _).symm
    · intro sorted
      have ordered := arranged.ordered
      rwa [sorted] at ordered
  keys_nodup := keys_nodup arranged
  keys_present _ := keys_present arranged
  keys_sorted := keys_sorted arranged

theorem bound_arranged (b : Key × Option Obj) (typed : b.1.hasType m.key = true) :
    (m.bound b).Arranged := by
  obtain ⟨k, v⟩ := b
  cases v with
  | none => exact Entries.Arranged.erase arranged k
  | some o => exact Entries.Arranged.insert arranged typed o

end Arranged

theorem ty_bound (m : MapView) (b : Key × Option Obj) : (m.bound b).obj.ty = m.obj.ty := by
  obtain ⟨k, v⟩ := b
  cases v <;> rfl

theorem get?_bound (m : MapView) (b : Key × Option Obj) (k : Key) :
    Entries.get? k (m.bound b).entries = if b.1 = k then b.2 else Entries.get? k m.entries := by
  obtain ⟨l, v⟩ := b
  by_cases same : l = k
  · subst same
    cases v <;> simp [bound]
  · cases v with
    | none => simpa [bound, same] using Entries.get?_erase_of_ne m.entries (Ne.symm same)
    | some o => simpa [bound, same] using Entries.get?_insert_of_ne _ o m.entries (Ne.symm same)

theorem call_fst (m : MapView) (c : MapCall) : (m.call c).1 =
    match c.binding? m.key m.value with
    | some b => m.bound b
    | none => m := by
  cases c with
  | insert text o =>
    simp only [call, insert, MapCall.binding?, Ty.element, Ty.convert]
    cases Key.read? m.key text with
    | none => cases m.value.accepts o <;> rfl
    | some k => cases m.value.accepts o <;> rfl
  | remove text =>
    simp only [call, remove, MapCall.binding?]
    cases Key.read? m.key text <;> rfl

theorem typed_of_binding? {t : KeyType} {value : Ty} {c : MapCall} {b : Key × Option Obj}
    (binds : c.binding? t value = some b) : b.1.hasType t = true := by
  cases c with
  | insert text o =>
    simp only [MapCall.binding?] at binds
    split at binds
    · obtain ⟨k, read, rfl⟩ := Option.map_eq_some_iff.1 binds
      exact Key.hasType_of_read? read
    · cases binds
  | remove text =>
    obtain ⟨k, read, rfl⟩ := Option.map_eq_some_iff.1 binds
    exact Key.hasType_of_read? read

/-- After any calls the map is one of its type, and holds what the last bindings say. -/
theorem after_bindings (arranged : m.Arranged) (calls : List MapCall) :
    (m.after calls).obj.ty = m.obj.ty ∧ (m.after calls).Arranged ∧
      ∀ k, Entries.get? k (m.after calls).entries = lastBound (m.bindings calls) k := by
  -- On the calls, the last one taken off: what it binds is what is bound last.
  induction calls using List.reverseRecOn with
  | nil =>
    refine ⟨rfl, arranged, fun k => ?_⟩
    rw [bindings, List.filterMap_nil, List.append_nil, lastBound_entries arranged.nodup]
    rfl
  | append_singleton calls c ih =>
    obtain ⟨same, kept, holds⟩ := ih
    have next : m.after (calls ++ [c]) = ((m.after calls).call c).1 := by
      simp only [after, List.foldl_append, List.foldl_cons, List.foldl_nil]
    have key : (m.after calls).key = m.key := by injection same
    have value : (m.after calls).value = m.value := by injection same
    rw [next, call_fst, key, value]
    cases binds : c.binding? m.key m.value with
    | none =>
      have none : m.bindings (calls ++ [c]) = m.bindings calls := by
        simp [bindings, binds]
      rw [none]
      exact ⟨same, kept, holds⟩
    | some b =>
      have one : m.bindings (calls ++ [c]) = m.bindings calls ++ [b] := by
        simp [bindings, binds]
      refine ⟨(ty_bound _ b).trans same, ?_, fun k => ?_⟩
      · apply bound_arranged kept
        rw [key]
        exact typed_of_binding? binds
      · rw [get?_bound, one, lastBound_concat, holds]

/-- A map behaves as a finite function on keys: whatever calls were made, it holds what they bound
last. -/
theorem represents_after (arranged : m.Arranged) (calls : List MapCall) :
    (m.after calls).obj.ty = m.obj.ty ∧ (m.after calls).Arranged ∧
      (m.after calls).Represents (lastBound (m.bindings calls)) := by
  obtain ⟨same, kept, holds⟩ := after_bindings arranged calls
  refine ⟨same, kept, ?_⟩
  rw [← funext holds]
  exact represents_entries kept

def numbers : MapView where
  kind := .hash
  key := .int .u32
  value := .str
  entries := [(.int 10, .str "ten"), (.int 2, .str "two")]

theorem arranged_numbers : numbers.Arranged where
  typed := by decide
  ordered := by decide

/-- Two spellings of one number store under one key, and a third spelling of another drops it. -/
theorem represents_after_numbers :
    let calls : List MapCall := [.insert "01" (.str "one"), .insert "+1" (.str "uno"), .remove "010"]
    numbers.Arranged ∧ (numbers.after calls).get? "1" = some (.str "uno") ∧
      (numbers.after calls).get? "10" = none := by
  have represents := (represents_after arranged_numbers
    [.insert "01" (.str "one"), .insert "+1" (.str "uno"), .remove "010"]).2.2
  exact ⟨arranged_numbers, represents.read "1", represents.read "10"⟩

end MapView

end ObjectGraph
