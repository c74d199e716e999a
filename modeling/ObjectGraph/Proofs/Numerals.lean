import Mathlib.Data.List.Induction
import Mathlib.Data.Nat.Digits.Defs
import ObjectGraph.Proofs.KeyAccess
import ObjectGraph.Proofs.KeyText

/-! Numbers as keys and positions.

A number is written in decimal digits, with a sign in front or without. How it is written is stated here
apart from the reader, and the reader takes a text for a number exactly if it is written so and the type
holds the number. Every container finds its slot by the number itself, and refuses a text that is none.
-/

set_option autoImplicit false
namespace ObjectGraph

inductive Numeral : List Char → Nat → Prop where
  | mk (digits : List Nat) : digits ≠ [] → (∀ digit ∈ digits, digit < 10) →
    Numeral (digits.map Nat.digitChar) (Nat.ofDigits 10 digits.reverse)

namespace IntType

/-- How numbers of the type are written: only a signed type has a minus. -/
inductive Spells (t : IntType) : String → Int → Prop where
  | bare {digits : List Char} {n : Nat} : Numeral digits n → Spells t (String.ofList digits) n
  | plus {digits : List Char} {n : Nat} : Numeral digits n → Spells t (String.ofList ('+' :: digits)) n
  | minus {digits : List Char} {n : Nat} : t.isSigned = true → Numeral digits n →
    Spells t (String.ofList ('-' :: digits)) (-n)

def Holds (t : IntType) (n : Int) : Prop :=
  if t.isSigned then -2 ^ (t.bits - 1) ≤ n ∧ n < 2 ^ (t.bits - 1) else 0 ≤ n ∧ n < 2 ^ t.bits

/-- The text is a number that the type holds. -/
structure Denotes (t : IntType) (text : String) (n : Int) : Prop where
  spells : t.Spells text n
  holds : t.Holds n

variable {t : IntType} {text : String} {n : Int}

theorem contains_iff : t.contains n = true ↔ t.Holds n := by
  unfold contains Holds least greatest
  rw [Bool.and_eq_true, decide_eq_true_iff, decide_eq_true_iff]
  by_cases signed : t.isSigned = true
  · simp only [if_pos signed, Nat.pow_eq, Nat.cast_pow, Nat.cast_ofNat]
    omega
  · simp only [if_neg signed, Nat.pow_eq, Nat.cast_pow, Nat.cast_ofNat]
    omega

end IntType

namespace Numeral

theorem isDigit_digitChar {digit : Nat} (small : digit < 10) : (Nat.digitChar digit).isDigit = true := by
  rw [Char.isDigit_iff_toNat, Nat.toNat_digitChar_of_lt_ten small]
  exact ⟨Nat.le_add_right _ _, Nat.add_le_add_left (Nat.le_of_lt_succ small) 48⟩

theorem foldl_digits (digits : List Nat) (small : ∀ digit ∈ digits, digit < 10) :
    (digits.map Nat.digitChar).foldl (fun n c => 10 * n + (c.toNat - '0'.toNat)) 0 =
      Nat.ofDigits 10 digits.reverse := by
  induction digits using List.reverseRecOn with
  | nil => rfl
  | append_singleton digits digit ih =>
    have last := small digit List.mem_concat_self
    have others := ih fun other member => small other (List.mem_append_left _ member)
    have value : (Nat.digitChar digit).toNat - '0'.toNat = digit := by
      rw [Nat.toNat_digitChar_of_lt_ten last]
      exact Nat.add_sub_cancel_left 48 digit
    rw [List.map_append, List.foldl_append, others, List.reverse_append, List.reverse_singleton,
      List.singleton_append, Nat.ofDigits_cons, List.map_singleton, List.foldl_cons, List.foldl_nil, value]
    exact Nat.add_comm _ _

theorem map_digitChar {cs : List Char} (digits : ∀ c ∈ cs, c.isDigit = true) :
    (cs.map fun c => c.toNat - 48).map Nat.digitChar = cs := by
  rw [List.map_map]
  conv_rhs => rw [← List.map_id cs]
  exact List.map_congr_left fun c member => IntType.digitChar_of_isDigit (digits c member)

variable {cs : List Char} {n : Nat}

theorem read_iff : IntType.readDigits cs = some n ↔ Numeral cs n := by
  unfold IntType.readDigits
  rw [Option.ite_none_left_eq_some, Bool.or_eq_true, Bool.not_eq_true', not_or, Bool.not_eq_false,
    List.isEmpty_iff, List.all_eq_true, Option.some.injEq]
  constructor
  · rintro ⟨⟨some, digits⟩, rfl⟩
    have small : ∀ digit ∈ cs.map (fun c => c.toNat - 48), digit < 10 := by
      intro digit member
      obtain ⟨c, found, rfl⟩ := List.mem_map.1 member
      have bounds : 48 ≤ c.toNat ∧ c.toNat ≤ 57 := Char.isDigit_iff_toNat.1 (digits c found)
      omega
    have nonempty : cs.map (fun c => c.toNat - 48) ≠ [] := mt List.map_eq_nil_iff.1 some
    have numeral := Numeral.mk _ nonempty small
    rwa [← foldl_digits _ small, map_digitChar digits] at numeral
  · rintro ⟨digits, some, small⟩
    refine ⟨⟨mt List.map_eq_nil_iff.1 some, fun c member => ?_⟩, foldl_digits digits small⟩
    obtain ⟨digit, found, rfl⟩ := List.mem_map.1 member
    exact isDigit_digitChar (small digit found)

theorem exists_head (numeral : Numeral cs n) : ∃ c rest, cs = c :: rest ∧ c.isDigit = true := by
  obtain ⟨digits, some, small⟩ := numeral
  obtain ⟨digit, rest, rfl⟩ := List.exists_cons_of_ne_nil some
  exact ⟨_, _, List.map_cons, isDigit_digitChar (small digit List.mem_cons_self)⟩

end Numeral

namespace IntType

variable {t : IntType} {text : String} {n : Int}

theorem readSigned_minus (t : IntType) (cs : List Char) : t.readSigned ('-' :: cs) =
    if t.isSigned then (readDigits cs).map fun n => -Int.ofNat n else none := by
  cases digits : readDigits cs <;> simp [readSigned, digits]

/-- A text is read as the number that it spells. -/
theorem readSigned_iff : t.readSigned text.toList = some n ↔ t.Spells text n := by
  constructor
  · intro read
    rw [← String.ofList_toList (s := text)]
    generalize text.toList = cs at read ⊢
    -- The cases are the rows of the reader: a plus, a minus, and no sign.
    unfold readSigned at read
    split at read
    next digits =>
      obtain ⟨m, value, rfl⟩ := Option.map_eq_some_iff.1 read
      exact .plus (Numeral.read_iff.1 value)
    next digits =>
      have minus := (readSigned_minus t digits).symm.trans read
      obtain ⟨signed, read⟩ := Option.ite_none_right_eq_some.1 minus
      obtain ⟨m, value, rfl⟩ := Option.map_eq_some_iff.1 read
      exact .minus signed (Numeral.read_iff.1 value)
    · obtain ⟨m, value, rfl⟩ := Option.map_eq_some_iff.1 read
      exact .bare (Numeral.read_iff.1 value)
  · intro spells
    cases spells with
    | bare numeral =>
      have value := Numeral.read_iff.2 numeral
      obtain ⟨c, rest, rfl, digit⟩ := numeral.exists_head
      rw [String.toList_ofList, readSigned_of_isDigit digit, value]
      rfl
    | plus numeral =>
      rw [String.toList_ofList]
      exact Option.map_eq_some_iff.2 ⟨_, Numeral.read_iff.2 numeral, rfl⟩
    | minus signed numeral =>
      rw [String.toList_ofList, readSigned_minus, if_pos signed, Numeral.read_iff.2 numeral]
      rfl

theorem read?_iff : t.read? text = some n ↔ t.Denotes text n := by
  unfold read?
  constructor
  · intro read
    split at read
    next m signed =>
      obtain ⟨contained, same⟩ := Option.ite_none_right_eq_some.1 read
      cases same
      exact ⟨readSigned_iff.1 signed, contains_iff.1 contained⟩
    · cases read
  · rintro ⟨spells, holds⟩
    rw [readSigned_iff.2 spells]
    exact if_pos (contains_iff.2 holds)

end IntType

/-- What the key type takes the text for. -/
inductive Key.Denoted : KeyType → String → Key → Prop where
  | int {t : IntType} {text : String} {n : Int} : t.Denotes text n → Denoted (.int t) text (.int n)
  | char (c : Char) : Denoted .char (String.ofList [c]) (.char c)
  | str (text : String) : Denoted .str text (.str text)

theorem Key.read?_iff {t : KeyType} {text : String} {k : Key} :
    read? t text = some k ↔ Denoted t text k := by
  constructor
  · intro read
    cases t with
    | int type =>
      obtain ⟨n, value, rfl⟩ := Option.map_eq_some_iff.1 read
      exact .int (IntType.read?_iff.1 value)
    | char =>
      simp only [read?] at read
      split at read
      next c single =>
        cases read
        rw [← String.ofList_toList (s := text), single]
        exact .char c
      · cases read
    | str =>
      cases read
      exact .str text
  · intro denoted
    cases denoted with
    | int denotes => exact Option.map_eq_some_iff.2 ⟨_, IntType.read?_iff.2 denotes, rfl⟩
    | char c => simp only [read?, String.toList_ofList]
    | str => rfl

namespace MapView

/-- Access by the text is access to the entry of the key. -/
structure Finds (m : MapView) (text : String) (k : Key) : Prop where
  get? : m.get? text = Entries.get? k m.entries
  insert : ∀ o, m.value.accepts o = true → m.insert text o =
    .ok ({ m with entries := Entries.insert m.kind.before k o m.entries }, Entries.get? k m.entries)
  remove : m.remove text =
    ({ m with entries := Entries.erase k m.entries }, Entries.get? k m.entries)

/-- The text is no key of the map: nothing is found under it, and nothing is stored or dropped. -/
structure Refuses (m : MapView) (text : String) : Prop where
  get? : m.get? text = none
  insert : ∀ o, m.insert text o = .error (.invalidKey m.key.name)
  remove : m.remove text = (m, none)

variable {m : MapView} {text : String} {k : Key}

theorem finds (denoted : Key.Denoted m.key text k) : m.Finds text k where
  get? := by simp only [get?, Key.read?_iff.2 denoted]
  insert o accepts := by
    simp only [insert, Key.read?_iff.2 denoted, Ty.element, Ty.convert, if_pos accepts]
    rfl
  remove := by simp only [remove, Key.read?_iff.2 denoted]

theorem refuses (noKey : ∀ k, ¬ Key.Denoted m.key text k) : m.Refuses text := by
  have unread : Key.read? m.key text = none :=
    Option.eq_none_iff_forall_ne_some.2 fun k read => noKey k (Key.read?_iff.1 read)
  exact ⟨by simp only [get?, unread], fun o => by simp only [insert, unread],
    by simp only [remove, unread]⟩

end MapView

inductive Obj.Sequence : Obj → Ty → List Obj → Prop where
  | list (kind : ListKind) (item : Ty) (items : List Obj) : Sequence (.list kind item items) item items
  | array (kind : ArrayKind) (item : Ty) (items : List Obj) : Sequence (.array kind item items) item items

namespace Indexed

structure Finds (o : Obj) (item : Ty) (items : List Obj) (s : Segment) (i : Nat) : Prop where
  read : ∀ owned, read ⟨o, owned⟩ s =
    if h : i < items.length then .ok (some ⟨items[i], owned⟩)
    else .error (.indexOutOfRange s.text o.typeName i items.length)
  borrow : borrow s o =
    if i < items.length then .ok (some [.item i]) o
    else .error (.indexOutOfRange s.text o.typeName i items.length) o
  write : ∀ new, item.accepts new = true → write s (some new) o =
    if i < items.length then .ok () (o.put (.item i) (some new))
    else .error (.indexOutOfRange s.text o.typeName i items.length) o

structure Refuses (o : Obj) (s : Segment) : Prop where
  read : ∀ owned, read ⟨o, owned⟩ s = .error (.invalidIndex s.text o.typeName s.key)
  borrow : borrow s o = .error (.invalidIndex s.text o.typeName s.key) o
  write : ∀ v, write s v o = .error (.invalidIndex s.text o.typeName s.key) o

variable {o : Obj} {item : Ty} {items : List Obj} {s : Segment}

theorem slot?_of_sequence (sequence : o.Sequence item items) :
    slot? o s = positionSlot s o.typeName items.length := by
  cases sequence <;> rfl

theorem part?_of_sequence (sequence : o.Sequence item items) (i : Nat) :
    o.part? (.item i) = items[i]? := by
  cases sequence <;> rfl

theorem write_of_sequence (sequence : o.Sequence item items) {i : Nat} {new : Obj}
    (position : s.position o.typeName = .ok i) (accepts : item.accepts new = true) :
    write s (some new) o =
      if i < items.length then .ok () (o.put (.item i) (some new))
      else .error (.indexOutOfRange s.text o.typeName i items.length) o := by
  have replaced : replaceItem item items i new =
      if i < items.length then .ok (items.set i new) else .error (.outOfRange i items.length) := by
    rw [replaceItem, Ty.element, Ty.convert, if_pos accepts]
    rfl
  cases sequence with
  | list kind =>
    simp only [Indexed.write, Edit.bind_apply, Edit.get_apply, Obj.view, position,
      Edit.ofExcept_ok_apply, ListView.set, replaced]
    by_cases bound : i < items.length
    · rw [if_pos bound, if_pos bound]
      rfl
    · rw [if_neg bound, if_neg bound]
      rfl
  | array kind =>
    simp only [Indexed.write, Edit.bind_apply, Edit.get_apply, Obj.view, position,
      Edit.ofExcept_ok_apply, ArrayView.set, replaced]
    by_cases bound : i < items.length
    · rw [if_pos bound, if_pos bound]
      rfl
    · rw [if_neg bound, if_neg bound]
      rfl

theorem finds (sequence : o.Sequence item items) {i : Nat} (denotes : IntType.usize.Denotes s.key i) :
    Finds o item items s i := by
  have position (type : String) : s.position type = .ok i :=
    position_of_read? type (IntType.read?_iff.2 denotes)
  have slot : slot? o s = if i < items.length then .ok (some (.item i))
      else .error (.indexOutOfRange s.text o.typeName i items.length) := by
    rw [slot?_of_sequence sequence, positionSlot, position]
    rfl
  refine ⟨fun owned => ?_, ?_, fun new => write_of_sequence sequence (position _)⟩
  · rw [Indexed.read, slot]
    split
    next bound =>
      have held := part?_of_sequence sequence i
      rw [List.getElem?_eq_getElem bound] at held
      simp only [bind, Except.bind, Option.bind_some, held, Option.map_some]
      rfl
    · rfl
  · simp only [Indexed.borrow, Edit.bind_apply, Edit.get_apply, slot]
    by_cases bound : i < items.length
    · rw [if_pos bound, if_pos bound]
      rfl
    · rw [if_neg bound, if_neg bound]
      rfl

theorem refuses (sequence : o.Sequence item items) (noPosition : ∀ n, ¬ IntType.usize.Denotes s.key n) :
    Refuses o s := by
  have unread : IntType.usize.read? s.key = none :=
    Option.eq_none_iff_forall_ne_some.2 fun n read => noPosition n (IntType.read?_iff.1 read)
  have position (type : String) : s.position type = .error (.invalidIndex s.text type s.key) := by
    simp only [Segment.position, unread]
  have slot : slot? o s = .error (.invalidIndex s.text o.typeName s.key) := by
    rw [slot?_of_sequence sequence, positionSlot, position]
    rfl
  refine ⟨fun owned => ?_, ?_, fun v => ?_⟩
  · simp only [Indexed.read, slot, bind, Except.bind]
  · simp only [Indexed.borrow, Edit.bind_apply, Edit.get_apply, slot]
    rfl
  · cases sequence <;>
      simp only [Indexed.write, Edit.bind_apply, Edit.get_apply, Obj.view, position] <;>
      rfl

end Indexed

/-- Keys and positions are what their texts denote, and nothing else is a key or a position. -/
theorem Key.read_exactly :
    (∀ t text k, read? t text = some k ↔ Denoted t text k) ∧
    (∀ t k, k.hasType t = true → read? t k.text = some k) ∧
    (∀ (m : MapView) text, (∀ k, Denoted m.key text k → m.Finds text k) ∧
      ((∀ k, ¬ Denoted m.key text k) → m.Refuses text)) ∧
    ∀ o item items, Obj.Sequence o item items → ∀ s : Segment,
      (∀ i : Nat, IntType.usize.Denotes s.key i → Indexed.Finds o item items s i) ∧
      ((∀ n, ¬ IntType.usize.Denotes s.key n) → Indexed.Refuses o s) :=
  ⟨fun _ _ _ => read?_iff, fun _ _ => read?_text, fun _ _ => ⟨fun _ => MapView.finds, MapView.refuses⟩,
    fun _ _ _ sequence _ => ⟨fun _ => Indexed.finds sequence, Indexed.refuses sequence⟩⟩

example : IntType.u8.read? "+007" = some 7 ∧ IntType.u8.read? "256" = none ∧
    IntType.u8.read? "-0" = none ∧ IntType.i8.read? "-128" = some (-128) := by decide

end ObjectGraph
