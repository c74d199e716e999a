import Mathlib.Data.List.Basic
import ObjectGraph.Obj.Comparison
import ObjectGraph.Proofs.Typing

/-! The content of objects, without what holds it.

Objects of the same content hold equal values at equal positions, under equal keys and in equal fields,
whatever lists, arrays, maps and sets hold them. Having the same content is an equivalence. A number is
told by its bits, but for the two zeros.
-/

set_option autoImplicit false
namespace ObjectGraph

/-! Numbers by their bits -/

namespace Decimal.BinaryFormat

variable {format : BinaryFormat} {a b : Nat}

def fraction (format : BinaryFormat) (bits : Nat) : Nat := bits % Nat.pow 2 format.fractionBits

def biased (format : BinaryFormat) (bits : Nat) : Nat :=
  bits / Nat.pow 2 format.fractionBits % Nat.pow 2 format.exponentBits

def negative (format : BinaryFormat) (bits : Nat) : Bool :=
  bits / Nat.pow 2 (format.fractionBits + format.exponentBits) % 2 = 1

def IsZero (format : BinaryFormat) (bits : Nat) : Prop :=
  format.biased bits = 0 ∧ format.fraction bits = 0

def bias (format : BinaryFormat) : Int :=
  (Nat.pow 2 (format.exponentBits - 1) : Int) - 1 + format.fractionBits

def significand (format : BinaryFormat) (bits : Nat) : Nat :=
  if format.biased bits = 0 then format.fraction bits
  else Nat.pow 2 format.fractionBits + format.fraction bits

def exponent (format : BinaryFormat) (bits : Nat) : Int :=
  if format.biased bits = 0 then 1 - format.bias else format.biased bits - format.bias

theorem fraction_lt (format : BinaryFormat) (bits : Nat) :
    format.fraction bits < Nat.pow 2 format.fractionBits :=
  Nat.mod_lt bits (Nat.two_pow_pos format.fractionBits)

theorem eq_of_parts (below : a < Nat.pow 2 (format.fractionBits + format.exponentBits + 1))
    (below' : b < Nat.pow 2 (format.fractionBits + format.exponentBits + 1))
    (negative : format.negative a = format.negative b) (biased : format.biased a = format.biased b)
    (fraction : format.fraction a = format.fraction b) : a = b := by
  unfold BinaryFormat.negative at negative
  unfold BinaryFormat.biased at biased
  unfold BinaryFormat.fraction at fraction
  simp only [Nat.pow_eq] at below below' negative biased fraction
  have magnitude : a % 2 ^ (format.fractionBits + format.exponentBits) =
      b % 2 ^ (format.fractionBits + format.exponentBits) := by
    rw [Nat.pow_add, Nat.mod_mul, Nat.mod_mul, biased, fraction]
  have sign : a / 2 ^ (format.fractionBits + format.exponentBits) =
      b / 2 ^ (format.fractionBits + format.exponentBits) := by
    rw [Nat.pow_succ] at below below'
    have small := Nat.div_lt_of_lt_mul below
    have small' := Nat.div_lt_of_lt_mul below'
    have same := decide_eq_decide.mp negative
    generalize a / 2 ^ (format.fractionBits + format.exponentBits) = sign at small same ⊢
    generalize b / 2 ^ (format.fractionBits + format.exponentBits) = sign' at small' same ⊢
    omega
  rw [← Nat.div_add_mod a (2 ^ (format.fractionBits + format.exponentBits)), sign, magnitude,
    Nat.div_add_mod]

theorem decode_infinite (last : format.biased a = Nat.pow 2 format.exponentBits - 1)
    (number : format.decode a ≠ .nan) :
    format.fraction a = 0 ∧ format.decode a = .infinite (format.negative a) := by
  have decoded : format.decode a =
      if format.fraction a = 0 then .infinite (format.negative a) else .nan := if_pos last
  rw [decoded] at number ⊢
  by_cases none : format.fraction a = 0
  · exact ⟨none, if_pos none⟩
  · exact absurd (if_neg none) number

theorem decode_finite (other : format.biased a ≠ Nat.pow 2 format.exponentBits - 1) :
    ∃ lower, format.decode a =
      .finite (format.negative a) (format.significand a) (format.exponent a) lower := by
  have decoded : format.decode a =
      if format.biased a = 0 then
        .finite (format.negative a) (format.fraction a) (1 - format.bias) false
      else .finite (format.negative a) (Nat.pow 2 format.fractionBits + format.fraction a)
        (format.biased a - format.bias) (format.fraction a = 0 && format.biased a != 1) := if_neg other
  rw [decoded, significand, exponent]
  by_cases low : format.biased a = 0
  · exact ⟨_, by rw [if_pos low, if_pos low, if_pos low]⟩
  · exact ⟨_, by rw [if_neg low, if_neg low, if_neg low]⟩

theorem significand_eq_zero : format.significand a = 0 ↔ format.IsZero a := by
  have positive : 0 < Nat.pow 2 format.fractionBits := Nat.two_pow_pos format.fractionBits
  unfold significand IsZero
  split <;> omega

/-- The significand tells zeros and subnormal numbers from the others, and then the exponent tells the
exponent fields of these. -/
theorem parts_of_eq (significand : format.significand a = format.significand b)
    (exponent : format.exponent a = format.exponent b) :
    format.biased a = format.biased b ∧ format.fraction a = format.fraction b := by
  have small := format.fraction_lt a
  have small' := format.fraction_lt b
  unfold BinaryFormat.significand at significand
  unfold BinaryFormat.exponent at exponent
  by_cases low : format.biased a = 0
  · have low' : format.biased b = 0 := by
      by_contra high
      rw [if_pos low, if_neg high] at significand
      omega
    rw [if_pos low, if_pos low'] at significand
    exact ⟨low.trans low'.symm, significand⟩
  · have high : format.biased b ≠ 0 := by
      intro low'
      rw [if_neg low, if_pos low'] at significand
      omega
    rw [if_neg low, if_neg high] at significand exponent
    constructor <;> omega

/-- Defined numbers are equal if they have the same bits or are both zeros. -/
theorem equals_decode (wide : 0 < format.exponentBits)
    (below : a < Nat.pow 2 (format.fractionBits + format.exponentBits + 1))
    (below' : b < Nat.pow 2 (format.fractionBits + format.exponentBits + 1))
    (number : format.decode a ≠ .nan) (number' : format.decode b ≠ .nan) :
    (format.decode a).equals (format.decode b) = true ↔ a = b ∨ format.IsZero a ∧ format.IsZero b := by
  have last : (0 : Nat) ≠ Nat.pow 2 format.exponentBits - 1 := by
    have two : 1 < 2 ^ format.exponentBits := Nat.one_lt_two_pow (Nat.ne_of_gt wide)
    rw [Nat.pow_eq]
    omega
  have isFinite {bits : Nat} (zero : format.IsZero bits) :
      format.biased bits ≠ Nat.pow 2 format.exponentBits - 1 := zero.1 ▸ last
  -- Infinite numbers have the last exponent field, and only the sign tells them apart.
  by_cases ends : format.biased a = Nat.pow 2 format.exponentBits - 1
  · obtain ⟨none, infinite⟩ := decode_infinite ends number
    have notZero : ¬ format.IsZero a := fun zero => isFinite zero ends
    rw [infinite, or_iff_left fun zeros => notZero zeros.1]
    by_cases ends' : format.biased b = Nat.pow 2 format.exponentBits - 1
    · obtain ⟨none', infinite'⟩ := decode_infinite ends' number'
      rw [infinite', Decimal.Number.equals, beq_iff_eq]
      constructor
      · intro negative
        exact eq_of_parts below below' negative (ends.trans ends'.symm) (none.trans none'.symm)
      · rintro rfl
        rfl
    · obtain ⟨lower, finite'⟩ := decode_finite ends'
      rw [finite']
      constructor
      · intro no
        cases no
      · rintro rfl
        exact absurd ends ends'
  · obtain ⟨lower, finite⟩ := decode_finite ends
    by_cases ends' : format.biased b = Nat.pow 2 format.exponentBits - 1
    · have notZero : ¬ format.IsZero b := fun zero => isFinite zero ends'
      rw [finite, (decode_infinite ends' number').2, or_iff_left fun zeros => notZero zeros.2]
      constructor
      · intro no
        cases no
      · rintro rfl
        exact absurd ends' ends
    · obtain ⟨lower', finite'⟩ := decode_finite ends'
      rw [finite, finite', Number.equals, Bool.or_eq_true, or_comm]
      simp only [Bool.and_eq_true, beq_iff_eq, significand_eq_zero]
      refine or_congr_left ⟨?_, ?_⟩
      · rintro ⟨⟨negative, significand⟩, exponent⟩
        obtain ⟨biased, fraction⟩ := parts_of_eq significand exponent
        exact eq_of_parts below below' negative biased fraction
      · rintro rfl
        exact ⟨⟨rfl, rfl⟩, rfl⟩

end Decimal.BinaryFormat

/-! Content -/

/-- Scalars of one type and value. The two zeros of a floating-point type are one value. -/
inductive Scalar.SameValue : Scalar → Scalar → Prop where
  | same (value : Scalar) : SameValue value value
  | zeros32 {a b : UInt32} : Decimal.binary32.IsZero a.toNat → Decimal.binary32.IsZero b.toNat →
    SameValue (.f32 a) (.f32 b)
  | zeros64 {a b : UInt64} : Decimal.binary64.IsZero a.toNat → Decimal.binary64.IsZero b.toNat →
    SameValue (.f64 a) (.f64 b)

def Scalar.Defined : Scalar → Prop
  | .f32 bits => Decimal.binary32.decode bits.toNat ≠ .nan
  | .f64 bits => Decimal.binary64.decode bits.toNat ≠ .nan
  | _ => True

namespace Obj

/-- Two objects hold the same values, in any lists, arrays, maps and sets. -/
inductive SameContent : Obj → Obj → Prop where
  | scalar {value other : Scalar} : value.SameValue other → SameContent (.scalar value) (.scalar other)
  | list {kind kind' : ListKind} {item item' : Ty} {items others : List Obj} :
    items.length = others.length →
    (∀ (i : Nat) o p, items[i]? = some o → others[i]? = some p → SameContent o p) →
    SameContent (.list kind item items) (.list kind' item' others)
  | array {kind kind' : ArrayKind} {item item' : Ty} {items others : List Obj} :
    items.length = others.length →
    (∀ (i : Nat) o p, items[i]? = some o → others[i]? = some p → SameContent o p) →
    SameContent (.array kind item items) (.array kind' item' others)
  | map {kind kind' : MapKind} {key key' : KeyType} {value value' : Ty} {entries others : Entries} :
    (∀ k, k ∈ Entries.keys entries ↔ k ∈ Entries.keys others) →
    (∀ k o p, Entries.get? k entries = some o → Entries.get? k others = some p → SameContent o p) →
    SameContent (.map kind key value entries) (.map kind' key' value' others)
  | emptySets {kind kind' : SetKind} {item item' : Ty} :
    SameContent (.set kind item []) (.set kind' item' [])
  | sets {kind kind' : SetKind} {item : Ty} {members others : Members} :
    (∀ o, o ∈ members ↔ o ∈ others) → SameContent (.set kind item members) (.set kind' item others)
  | bean {type : String} {fields others : Fields} : Fields.names fields = Fields.names others →
    (fields.map fun f => f.2.isSome) = (others.map fun f => f.2.isSome) →
    (∀ (i : Nat) n n' o p, fields[i]? = some (n, some o) → others[i]? = some (n', some p) →
      SameContent o p) →
    SameContent (.bean type fields) (.bean type others)

/-- Every number in the object is defined, every map is keyed by texts, and the beans can be compared. -/
inductive Comparable (layouts : Layouts) : Obj → Prop where
  | scalar {value : Scalar} : value.Defined → Comparable layouts (.scalar value)
  | list {kind : ListKind} {item : Ty} {items : List Obj} : (∀ o ∈ items, Comparable layouts o) →
    Comparable layouts (.list kind item items)
  | array {kind : ArrayKind} {item : Ty} {items : List Obj} : (∀ o ∈ items, Comparable layouts o) →
    Comparable layouts (.array kind item items)
  | map {kind : MapKind} {value : Ty} {entries : Entries} : (∀ e ∈ entries, Comparable layouts e.2) →
    Comparable layouts (.map kind .str value entries)
  | set {kind : SetKind} {item : Ty} {members : Members} : Comparable layouts (.set kind item members)
  | bean {type : String} {layout : Layout} {fields : Fields} : layouts type = some layout →
    layout.comparable = true → (∀ f ∈ fields, ∀ o, f.2 = some o → Comparable layouts o) →
    Comparable layouts (.bean type fields)

end Obj

/-! An equivalence -/

namespace Scalar.SameValue

variable {a b c : Scalar}

theorem symm (same : a.SameValue b) : b.SameValue a := by
  cases same with
  | same => exact .same a
  | zeros32 zero zero' => exact .zeros32 zero' zero
  | zeros64 zero zero' => exact .zeros64 zero' zero

theorem trans (first : a.SameValue b) (second : b.SameValue c) : a.SameValue c := by
  cases first with
  | same => exact second
  | zeros32 zero zero' =>
    cases second with
    | same => exact .zeros32 zero zero'
    | zeros32 _ zero'' => exact .zeros32 zero zero''
  | zeros64 zero zero' =>
    cases second with
    | same => exact .zeros64 zero zero'
    | zeros64 _ zero'' => exact .zeros64 zero zero''

end Scalar.SameValue

theorem Entries.get?_of_mem_keys {entries : Entries} {k : Key} (member : k ∈ Entries.keys entries) :
    ∃ o, Entries.get? k entries = some o := by
  induction entries with
  | nil => cases member
  | cons first rest ih =>
    obtain ⟨l, o⟩ := first
    rw [Entries.get?]
    by_cases same : l = k
    · exact ⟨o, if_pos same⟩
    · rw [if_neg same]
      exact ih ((List.mem_cons.mp member).resolve_left (Ne.symm same))

namespace Obj.SameContent

variable {layouts : Layouts} {a b c : Obj}

theorem refl (comparable : a.Comparable layouts) : a.SameContent a := by
  induction comparable with
  | scalar => exact .scalar (.same _)
  | list _ ih =>
    refine .list rfl ?_
    intro i o p found found'
    cases found.symm.trans found'
    exact ih o (List.mem_of_getElem? found)
  | array _ ih =>
    refine .array rfl ?_
    intro i o p found found'
    cases found.symm.trans found'
    exact ih o (List.mem_of_getElem? found)
  | map _ ih =>
    refine .map (fun _ => Iff.rfl) ?_
    intro k o p found found'
    cases found.symm.trans found'
    exact ih (k, o) (Entries.mem_of_get? found)
  | set => exact .sets fun _ => Iff.rfl
  | bean _ _ _ ih =>
    refine .bean rfl rfl ?_
    intro i n n' o p found found'
    cases found.symm.trans found'
    exact ih (n, some o) (List.mem_of_getElem? found) o rfl

theorem symm (same : a.SameContent b) : b.SameContent a := by
  induction same with
  | scalar same => exact .scalar same.symm
  | list length _ ih => exact .list length.symm fun i o p found found' => ih i p o found' found
  | array length _ ih => exact .array length.symm fun i o p found found' => ih i p o found' found
  | map keys _ ih => exact .map (fun k => (keys k).symm) fun k o p found found' => ih k p o found' found
  | emptySets => exact .emptySets
  | sets same => exact .sets fun k => (same k).symm
  | bean names present _ ih =>
    exact .bean names.symm present.symm fun i n n' o p found found' => ih i n' n p o found' found

theorem items_trans {items others third : List Obj} (length : items.length = others.length)
    (ih : ∀ (i : Nat) o p, items[i]? = some o → others[i]? = some p →
      ∀ {c : Obj}, p.SameContent c → o.SameContent c)
    (second : ∀ (i : Nat) o p, others[i]? = some o → third[i]? = some p → o.SameContent p)
    (i : Nat) (o p : Obj) (found : items[i]? = some o) (found' : third[i]? = some p) : o.SameContent p := by
  have within : i < others.length := length ▸ (List.getElem?_eq_some_iff.mp found).1
  exact ih i o others[i] found (List.getElem?_eq_getElem within)
    (second i others[i] p (List.getElem?_eq_getElem within) found')

theorem trans (first : a.SameContent b) (second : b.SameContent c) : a.SameContent c := by
  induction first generalizing c with
  | scalar first =>
    cases second with
    | scalar second => exact .scalar (first.trans second)
  | list length _ ih =>
    cases second with
    | list length' second => exact .list (length.trans length') (items_trans length ih second)
  | array length _ ih =>
    cases second with
    | array length' second => exact .array (length.trans length') (items_trans length ih second)
  | map keys _ ih =>
    cases second with
    | map keys' second =>
      refine .map (fun k => (keys k).trans (keys' k)) ?_
      intro k o q found found'
      have member : k ∈ Entries.keys _ := List.mem_map_of_mem (Entries.mem_of_get? found)
      obtain ⟨p, between⟩ := Entries.get?_of_mem_keys ((keys k).mp member)
      exact ih k o p found between (second k p q between found')
  | emptySets =>
    cases second with
    | emptySets => exact .emptySets
    | sets same =>
      cases List.eq_nil_iff_forall_not_mem.mpr fun k member => List.not_mem_nil ((same k).mpr member)
      exact .emptySets
  | sets same =>
    cases second with
    | emptySets =>
      cases List.eq_nil_iff_forall_not_mem.mpr fun k member => List.not_mem_nil ((same k).mp member)
      exact .emptySets
    | sets same' => exact .sets fun k => (same k).trans (same' k)
  | @bean type fields others names present _ ih =>
    cases second with
    | @bean _ _ third names' present' second =>
      refine .bean (names.trans names') (present.trans present') ?_
      intro i n n' o q found found'
      -- The field is present in the bean between, too.
      have there : (others.map fun f => f.2.isSome)[i]? = some true := by
        rw [← present, List.getElem?_map, found]
        rfl
      rw [List.getElem?_map, Option.map_eq_some_iff] at there
      obtain ⟨⟨m, v⟩, between, some⟩ := there
      obtain ⟨p, rfl⟩ := Option.isSome_iff_exists.mp some
      exact ih i n m o p found between (second i m n' p q between found')

end Obj.SameContent

end ObjectGraph
