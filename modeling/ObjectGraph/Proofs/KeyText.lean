import ObjectGraph.Key

/-! Texts of keys, read by key types.

The text of a key reads as that key under its own type. Under another type it may read as another key,
and then the other key nearly always has the same text. Only a string that an integer type reads can be
spelled otherwise than the integer is: with a plus, with zeros in front, or as a negative zero.
-/

set_option autoImplicit false
namespace ObjectGraph
namespace IntType

theorem readDigits_toDigits (n : Nat) : readDigits (Nat.toDigits 10 n) = some n := by
  have digits : (Nat.toDigits 10 n).all Char.isDigit = true := by
    rw [List.all_eq_true]
    intro c member
    exact Nat.isDigit_of_mem_toDigits (by decide) (by decide) member
  have some : (Nat.toDigits 10 n).isEmpty = false := by
    rw [List.isEmpty_eq_false_iff]
    exact Nat.toDigits_ne_nil
  have value : (Nat.toDigits 10 n).foldl (fun n c => 10 * n + (c.toNat - '0'.toNat)) 0 = n := by
    rw [← Nat.ofDigitChars_eq_foldl]
    exact Nat.ofDigitChars_ten_toDigits
  simp only [readDigits, digits, some, value]
  rfl

theorem readSigned_of_isDigit {c : Char} (digit : c.isDigit = true) (t : IntType) (cs : List Char) :
    t.readSigned (c :: cs) = (readDigits (c :: cs)).map Int.ofNat := by
  unfold readSigned
  split
  next plus => cases plus; cases digit
  next minus => cases minus; cases digit
  · rfl

theorem readSigned_intText {t : IntType} {n : Int} (signed : n < 0 → t.isSigned = true) :
    t.readSigned (intText n).toList = some n := by
  unfold intText
  rw [String.toList_ofList]
  by_cases negative : n < 0
  · have minus : t.readSigned ('-' :: Nat.toDigits 10 n.natAbs) =
        if t.isSigned then (readDigits (Nat.toDigits 10 n.natAbs)).map fun n => -(n : Int) else none := rfl
    rw [if_pos negative, List.singleton_append, minus, if_pos (signed negative), readDigits_toDigits]
    have value : -(n.natAbs : Int) = n := by omega
    exact congrArg some value
  · rw [if_neg negative, List.nil_append]
    cases digits : Nat.toDigits 10 n.natAbs with
    | nil => exact absurd digits Nat.toDigits_ne_nil
    | cons c cs =>
      have digit : c.isDigit = true := by
        apply Nat.isDigit_of_mem_toDigits (b := 10) (n := n.natAbs) (by decide) (by decide)
        rw [digits]
        exact List.mem_cons_self
      rw [readSigned_of_isDigit digit, ← digits, readDigits_toDigits, Option.map_some]
      congr 1
      exact Int.natAbs_of_nonneg (Int.not_lt.mp negative)

theorem isSigned_of_negative {t : IntType} {n : Int} (contained : t.contains n = true)
    (negative : n < 0) : t.isSigned = true := by
  unfold contains least at contained
  by_cases signed : t.isSigned = true
  · exact signed
  · rw [if_neg signed, Bool.and_eq_true, decide_eq_true_eq] at contained
    omega

theorem read?_intText {t : IntType} {n : Int} (contained : t.contains n = true) :
    t.read? (intText n) = some n := by
  unfold read?
  rw [readSigned_intText (isSigned_of_negative contained)]
  exact if_pos contained

theorem eq_of_read?_intText {t : IntType} {n m : Int} (read : t.read? (intText n) = some m) : m = n := by
  have signed : n < 0 → t.isSigned = true := by
    intro negative
    by_cases signed : t.isSigned = true
    · exact signed
    · have minus : t.readSigned (intText n).toList = none := by
        rw [intText, String.toList_ofList, if_pos negative, List.singleton_append]
        exact if_neg signed
      rw [read?, minus] at read
      cases read
  rw [read?, readSigned_intText signed] at read
  split at read
  next eq => split at read <;> cases read; cases eq; rfl
  · cases read

theorem digitChar_of_isDigit {c : Char} (digit : c.isDigit = true) : Nat.digitChar (c.toNat - 48) = c := by
  have bounds : 48 ≤ c.toNat ∧ c.toNat ≤ 57 := Char.isDigit_iff_toNat.mp digit
  apply Char.toNat_inj.mp
  rw [Nat.toNat_digitChar_of_lt_ten (by omega)]
  omega

theorem intText_of_read?_char {t : IntType} {c : Char} {m : Int}
    (read : t.read? (String.ofList [c]) = some m) : intText m = String.ofList [c] := by
  unfold read? at read
  rw [String.toList_ofList] at read
  -- One character that is no digit is a sign at best, and a sign alone is no number.
  by_cases digit : c.isDigit = true
  · have small : c.toNat - 48 < 10 := by
      have bounds : 48 ≤ c.toNat ∧ c.toNat ≤ 57 := Char.isDigit_iff_toNat.mp digit
      omega
    have one : readDigits [c] = some (c.toNat - 48) := by
      have value : 10 * 0 + (c.toNat - '0'.toNat) = c.toNat - 48 := Nat.zero_add _
      simp only [readDigits, List.isEmpty_cons, List.all_cons, List.all_nil, digit, Bool.and_self,
        Bool.not_true, Bool.or_self, Bool.false_eq_true, if_false, List.foldl_cons, List.foldl_nil, value]
    rw [readSigned_of_isDigit digit, one, Option.map_some] at read
    dsimp only at read
    split at read
    · cases read
      have positive : ¬ Int.ofNat (c.toNat - 48) < 0 := by simp
      have magnitude : (Int.ofNat (c.toNat - 48)).natAbs = c.toNat - 48 := rfl
      rw [intText, if_neg positive, List.nil_append, magnitude, Nat.toDigits_of_lt_base small,
        digitChar_of_isDigit digit]
    · cases read
  · have none : t.readSigned [c] = none := by
      unfold readSigned
      split
      next plus =>
        cases plus
        rfl
      next minus =>
        cases minus
        by_cases signed : t.isSigned = true
        · rw [if_pos signed]
          rfl
        · rw [if_neg signed]
      · simp only [readDigits, List.all_cons, digit, Bool.false_and, Bool.not_false, Bool.or_true, if_true,
          Option.map_none]
    rw [none] at read
    cases read

end IntType

namespace Key

/-- The text of a key reads as the key. -/
theorem read?_text {k : Key} {t : KeyType} (typed : k.hasType t = true) : read? t k.text = some k := by
  cases k with
  | int n =>
    cases t with
    | int type => rw [text, read?, IntType.read?_intText typed, Option.map_some]
    | _ => cases typed
  | char c =>
    cases t with
    | char => simp only [text, read?, String.toList_ofList]
    | _ => cases typed
  | str s =>
    cases t with
    | str => rfl
    | _ => cases typed

theorem eq_of_text {k l : Key} {t : KeyType} (typed : k.hasType t = true) (typed' : l.hasType t = true)
    (same : k.text = l.text) : k = l := by
  have read := read?_text typed
  rw [same, read?_text typed'] at read
  exact (Option.some.inj read).symm

/-- The key type reads the key's text as a key that is spelled otherwise. -/
def Respelled (k : Key) (t : KeyType) : Prop :=
  ∃ l, read? t k.text = some l ∧ l.text ≠ k.text

/-- Only a string is respelled, and only by an integer type. -/
theorem Respelled.types {k : Key} {s t : KeyType} (respelled : k.Respelled t)
    (typed : k.hasType s = true) : s = .str ∧ ∃ type, t = .int type := by
  obtain ⟨l, read, other⟩ := respelled
  cases t with
  | str =>
    cases Option.some.inj read
    exact absurd rfl other
  | char =>
    simp only [read?] at read
    split at read
    next c single =>
      cases read
      exact absurd (String.toList_inj.mp (by rw [single, text, String.toList_ofList])) other
    · cases read
  | int type =>
    refine ⟨?_, type, rfl⟩
    obtain ⟨m, value, rfl⟩ := Option.map_eq_some_iff.mp read
    cases k with
    | str => cases s <;> first | rfl | cases typed
    | int n =>
      rw [IntType.eq_of_read?_intText value] at other
      exact absurd rfl other
    | char c => exact absurd (IntType.intText_of_read?_char value) other

end Key

end ObjectGraph
