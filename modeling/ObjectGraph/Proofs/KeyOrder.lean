import ObjectGraph.Proofs.KeyText
import ObjectGraph.Proofs.Typing

/-! The order in which a map enumerates its keys.

Keys of one type are ordered by size, and by their texts no less, since texts tell them apart. The
entries of a map stand in the order that its kind goes by, each key before the next. Storing and
dropping keep them so.
-/

set_option autoImplicit false
namespace ObjectGraph

section Order
variable {kind : MapKind} {t : KeyType} {k l m : Key}

theorem Key.before_irrefl (k : Key) : k.before k = false := by
  cases k with
  | int n => exact decide_eq_false (Int.lt_irrefl n)
  | char c => exact decide_eq_false (Char.lt_irrefl c)
  | str s => exact decide_eq_false (String.lt_irrefl s)

theorem Key.before_trans (first : k.before l = true) (second : l.before m = true) :
    k.before m = true := by
  cases k with
  | int a =>
    cases m with
    | int c =>
      cases l with
      | int b =>
        exact decide_eq_true (Int.lt_trans (of_decide_eq_true first) (of_decide_eq_true second))
      | char | str => cases second
    | char | str => rfl
  | char a =>
    cases l with
    | int => cases first
    | char b =>
      cases m with
      | int => cases second
      | char c =>
        exact decide_eq_true (Char.lt_trans (of_decide_eq_true first) (of_decide_eq_true second))
      | str => rfl
    | str b =>
      cases m with
      | int | char => cases second
      | str => rfl
  | str a =>
    cases l with
    | int | char => cases first
    | str b =>
      cases m with
      | int | char => cases second
      | str c =>
        exact decide_eq_true (String.lt_trans (of_decide_eq_true first) (of_decide_eq_true second))

theorem Key.before_asymm (before : k.before l = true) : l.before k = false := by
  cases back : l.before k with
  | false => rfl
  | true =>
    have around := before_trans before back
    rw [k.before_irrefl] at around
    cases around

theorem Key.before_total (k l : Key) : k.before l = true ∨ k = l ∨ l.before k = true := by
  cases k with
  | int a =>
    cases l with
    | int b => simpa [before] using Int.lt_trichotomy a b
    | char | str => exact .inl rfl
  | char a =>
    cases l with
    | int => exact .inr (.inr rfl)
    | char b => simpa [before] using Std.lt_trichotomy a b
    | str => exact .inl rfl
  | str a =>
    cases l with
    | int | char => exact .inr (.inr rfl)
    | str b => simpa [before] using Std.lt_trichotomy a b

theorem Key.textBefore_total (typed : k.hasType t = true) (typed' : l.hasType t = true) :
    k.textBefore l = true ∨ k = l ∨ l.textBefore k = true := by
  rcases Std.lt_trichotomy k.text l.text with less | same | greater
  · exact .inl (decide_eq_true less)
  · exact .inr (.inl (eq_of_text typed typed' same))
  · exact .inr (.inr (decide_eq_true greater))

namespace MapKind

theorem before_irrefl (kind : MapKind) (k : Key) : kind.before k k = false := by
  cases kind with
  | hash | swiss => exact decide_eq_false (String.lt_irrefl k.text)
  | sorted => exact k.before_irrefl

theorem before_trans (first : kind.before k l = true) (second : kind.before l m = true) :
    kind.before k m = true := by
  cases kind with
  | hash | swiss =>
    exact decide_eq_true (String.lt_trans (of_decide_eq_true first) (of_decide_eq_true second))
  | sorted => exact Key.before_trans first second

theorem before_total (kind : MapKind) (typed : k.hasType t = true) (typed' : l.hasType t = true) :
    kind.before k l = true ∨ k = l ∨ kind.before l k = true := by
  cases kind with
  | hash | swiss => exact Key.textBefore_total typed typed'
  | sorted => exact k.before_total l

end MapKind

end Order

namespace Entries

variable {kind : MapKind} {t : KeyType} {k : Key} {o : Obj} {entries : Entries}

theorem mem_keys_insert {before : Key → Key → Bool} {l : Key}
    (member : l ∈ keys (insert before k o entries)) : l = k ∨ l ∈ keys entries := by
  obtain ⟨e, inside, rfl⟩ := List.mem_map.1 member
  rcases mem_insert inside with rfl | old
  · exact .inl rfl
  · exact .inr (List.mem_map_of_mem old)

theorem keys_erase (k : Key) (entries : Entries) :
    keys (erase k entries) = (keys entries).filter (· ≠ k) := by
  fun_induction erase k entries with
  | case1 => rfl
  | case2 v rest ih => simpa [keys] using ih
  | case3 l v rest other ih => simpa [keys, other] using ih

theorem isSome_get? : (get? k entries).isSome = true ↔ k ∈ keys entries := by
  fun_induction get? k entries with
  | case1 => simp [keys]
  | case2 v rest => simp [keys]
  | case3 l v rest other ih =>
    rw [ih, keys, keys, List.map_cons, List.mem_cons, or_iff_right (Ne.symm other)]

theorem erase_of_absent (absent : get? k entries = none) : erase k entries = entries := by
  fun_induction erase k entries with
  | case1 => rfl
  | case2 v rest => simp [get?] at absent
  | case3 l v rest other ih =>
    rw [get?, if_neg other] at absent
    rw [ih absent]

/-- Keys of one type, each of them before the next in the order of a kind of maps. -/
structure Arranged (kind : MapKind) (t : KeyType) (entries : Entries) : Prop where
  typed : ∀ k ∈ keys entries, k.hasType t = true
  ordered : (keys entries).Pairwise fun k l => kind.before k l = true

theorem arranged_nil : Arranged kind t [] where
  typed := List.forall_mem_nil _
  ordered := .nil

theorem arranged_cons : Arranged kind t ((k, o) :: entries) ↔
    k.hasType t = true ∧ (∀ l ∈ keys entries, kind.before k l = true) ∧ Arranged kind t entries := by
  constructor
  · rintro ⟨typed, ordered⟩
    obtain ⟨first, rest⟩ := List.pairwise_cons.1 ordered
    exact ⟨typed k List.mem_cons_self, first, fun l member => typed l (List.mem_cons_of_mem _ member), rest⟩
  · rintro ⟨typed, first, arranged⟩
    refine ⟨fun l member => ?_, List.pairwise_cons.2 ⟨first, arranged.ordered⟩⟩
    rcases List.mem_cons.1 member with rfl | member
    · exact typed
    · exact arranged.typed l member

namespace Arranged

theorem nodup (arranged : Arranged kind t entries) : (keys entries).Nodup := by
  apply arranged.ordered.imp
  rintro k _ before rfl
  rw [kind.before_irrefl k] at before
  cases before

theorem insert (arranged : Arranged kind t entries) (typed : k.hasType t = true) (o : Obj) :
    Arranged kind t (insert kind.before k o entries) := by
  fun_induction Entries.insert kind.before k o entries with
  | case1 => exact arranged_cons.2 ⟨typed, List.forall_mem_nil _, arranged_nil⟩
  | case2 v rest => exact arranged_cons.2 (arranged_cons.1 arranged)
  | case3 l v rest other before =>
    obtain ⟨_, first, _⟩ := arranged_cons.1 arranged
    refine arranged_cons.2 ⟨typed, fun m member => ?_, arranged⟩
    rcases List.mem_cons.1 member with rfl | member
    · exact before
    · exact MapKind.before_trans before (first m member)
  | case4 l v rest other later ih =>
    obtain ⟨typed', first, arranged⟩ := arranged_cons.1 arranged
    refine arranged_cons.2 ⟨typed', fun m member => ?_, ih arranged⟩
    rcases mem_keys_insert member with rfl | member
    · rcases kind.before_total typed' typed with before | same | before
      · exact before
      · exact absurd same other
      · exact absurd before later
    · exact first m member

theorem erase (arranged : Arranged kind t entries) (k : Key) : Arranged kind t (erase k entries) where
  typed l member := by
    rw [keys_erase] at member
    exact arranged.typed l (List.mem_filter.1 member).1
  ordered := by
    rw [keys_erase]
    exact arranged.ordered.sublist List.filter_sublist

end Arranged

end Entries

end ObjectGraph
