import ObjectGraph.Obj.Basic

/-!
The natural order of objects, in which ordered sets keep their members and by which all sets tell them
apart. Scalars stand by value, lists, arrays and sets item by item, maps entry by entry, and beans field
by field, an absent value before any other: the order that is derived for a type, and the equality with
it. The members of a set are of one type; other objects stand by their types, in an order that means
nothing.
-/

set_option autoImplicit false
namespace ObjectGraph

def ScalarType.rank : ScalarType → Nat
  | .bool => 0
  | .char => 1
  | .f32 => 2
  | .f64 => 3
  | .str => 4
  | .int t => 5 + t.ctorIdx

/-- Numbers that tell a type from all others. -/
def Ty.code : Ty → List Nat
  | .scalar t => [0, t.rank]
  | .list .vec item => 1 :: item.code
  | .list .deque item => 2 :: item.code
  | .array .slice item => 3 :: item.code
  | .array (.fixed n) item => 4 :: n :: item.code
  | .map .hash key value => 5 :: key.scalar.rank :: value.code
  | .map .swiss key value => 6 :: key.scalar.rank :: value.code
  | .map .sorted key value => 7 :: key.scalar.rank :: value.code
  | .set .hash item => 8 :: item.code
  | .set .sorted item => 9 :: item.code
  | .bean name => 10 :: name.toList.map Char.toNat
  | .any => [11]
  | .shaped .list => [12]
  | .shaped .map => [13]
  | .shaped .set => [14]
  | .shaped .sortedSet => [15]

def Ty.order (t u : Ty) : Ordering :=
  compare t.code u.code

def Key.order (k l : Key) : Ordering :=
  if k = l then .eq else if k.before l then .lt else .gt

/-- Scalars of one type by value. Floating-point numbers, which no set holds, stand by their bits. -/
def Scalar.order : Scalar → Scalar → Ordering
  | .bool a, .bool b => compare a b
  | .char a, .char b => compare a b
  | .int _ a, .int _ b => compare a b
  | .f32 a, .f32 b => compare a b
  | .f64 a, .f64 b => compare a b
  | .str a, .str b => compare a b
  | _, _ => .eq

mutual

/-- Compares what two objects of one type hold. -/
def Obj.orderParts : Obj → Obj → Ordering
  | .scalar a, .scalar b => a.order b
  | .list _ _ items, .list _ _ others => orderItems items others
  | .array _ _ items, .array _ _ others => orderItems items others
  | .map _ _ _ entries, .map _ _ _ others => orderEntries entries others
  | .set _ _ members, .set _ _ others => orderItems members others
  | .bean _ fields, .bean _ others => orderFields fields others
  | _, _ => .eq
termination_by structural o => o

def orderItems : List Obj → List Obj → Ordering
  | [], [] => .eq
  | [], _ :: _ => .lt
  | _ :: _, [] => .gt
  | o :: items, p :: others => ((o.ty.order p.ty).then (o.orderParts p)).then (orderItems items others)
termination_by structural items => items

def orderEntries : List (Key × Obj) → List (Key × Obj) → Ordering
  | [], [] => .eq
  | [], _ :: _ => .lt
  | _ :: _, [] => .gt
  | (k, o) :: entries, (l, p) :: others =>
    (k.order l).then (((o.ty.order p.ty).then (o.orderParts p)).then (orderEntries entries others))
termination_by structural entries => entries

def orderFields : List (String × Option Obj) → List (String × Option Obj) → Ordering
  | [], [] => .eq
  | [], _ :: _ => .lt
  | _ :: _, [] => .gt
  | (m, v) :: fields, (n, w) :: others =>
    (compare m n).then ((orderOption v w).then (orderFields fields others))
termination_by structural fields => fields

def orderOption : Option Obj → Option Obj → Ordering
  | none, none => .eq
  | none, some _ => .lt
  | some _, none => .gt
  | some o, some p => (o.ty.order p.ty).then (o.orderParts p)
termination_by structural v => v

end

/-- The natural order: by type, and within a type by what the objects hold. -/
def Obj.order (o p : Obj) : Ordering :=
  (o.ty.order p.ty).then (o.orderParts p)

end ObjectGraph
