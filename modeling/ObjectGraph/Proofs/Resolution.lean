import ObjectGraph.Proofs.Hiding
import ObjectGraph.Sample.Schema

/-! Which member serves a property, said without a descriptor.

Descriptors collect invokers class by class and keep the first one for each property. What they come to
is a look-up along the lineage: the first method that claims the property counts, the nearest class
before its parents and a class's methods as they are declared, and only where no class has such a method
the first field of the property's name.
-/

set_option autoImplicit false
namespace ObjectGraph

/-- The element is accepted, and none before it in the list is. -/
def FirstIn {α : Type} (accepts : α → Prop) (list : List α) (a : α) : Prop :=
  ∃ before after, list = before ++ a :: after ∧ accepts a ∧ ∀ b ∈ before, ¬ accepts b

theorem FirstIn.mem {α : Type} {accepts : α → Prop} {list : List α} {a : α}
    (first : FirstIn accepts list a) : a ∈ list := by
  obtain ⟨before, after, split, _⟩ := first
  rw [split]
  exact List.mem_append_right _ List.mem_cons_self

theorem FirstIn.accepted {α : Type} {accepts : α → Prop} {list : List α} {a : α}
    (first : FirstIn accepts list a) : accepts a := by
  obtain ⟨_, _, _, accepted, _⟩ := first
  exact accepted

theorem find?_eq_some_iff_firstIn {α : Type} {accepts : α → Prop} {decides : α → Bool}
    (agree : ∀ a, decides a = true ↔ accepts a) {list : List α} {a : α} :
    list.find? decides = some a ↔ FirstIn accepts list a := by
  rw [List.find?_eq_some_iff_append]
  constructor
  · rintro ⟨accepted, before, after, split, others⟩
    refine ⟨before, after, split, (agree a).mp accepted, fun b member accepts => ?_⟩
    have refused := others b member
    rw [(agree b).mpr accepts] at refused
    cases refused
  · rintro ⟨before, after, split, accepted, others⟩
    refine ⟨(agree a).mpr accepted, before, after, split, fun b member => ?_⟩
    rw [Bool.not_eq_true', Bool.eq_false_iff]
    exact fun accepts => others b member ((agree b).mp accepts)

theorem find?_eq_none_iff_forall {α : Type} {accepts : α → Prop} {decides : α → Bool}
    (agree : ∀ a, decides a = true ↔ accepts a) {list : List α} :
    list.find? decides = none ↔ ∀ a ∈ list, ¬ accepts a := by
  rw [List.find?_eq_none]
  simp only [agree]

theorem mem_take_iff_getElem? {α : Type} {list : List α} {n : Nat} {a : α} :
    a ∈ list.take n ↔ ∃ m, m < n ∧ list[m]? = some a := by
  rw [List.mem_iff_getElem?]
  simp only [List.getElem?_take, Option.ite_none_right_eq_some]

/-! What a method stands for -/

structure Method.Gets (namer : PropertyNamer) (property : String) (m : Method) : Prop where
  shaped : m.isGetter = true
  accepted : namer.isGetter m.name = true
  boolean : namer.requiresBool m.name = true → m.ty = .bool
  named : namer.property m.name = .ok property
  valid : namer.isValid property = true

structure Method.Sets (namer : PropertyNamer) (property : String) (m : Method) : Prop where
  shaped : m.isSetter = true
  accepted : namer.isSetter m.name = true
  named : namer.property m.name = .ok property
  valid : namer.isValid property = true

section Claims
variable {namer : PropertyNamer} {property method : String} {m : Method}

theorem PropertyNamer.property_eq_ok_iff :
    namer.property method = .ok property ↔ namer.property? method = some property := by
  unfold PropertyNamer.property
  cases namer.property? method <;> simp

theorem PropertyNamer.validProperty?_eq_some_iff : namer.validProperty? method = some property ↔
    namer.property method = .ok property ∧ namer.isValid property = true := by
  rw [property_eq_ok_iff, validProperty?]
  cases namer.property? method with
  | none => simp
  | some other =>
    dsimp only
    split
    next valid =>
      constructor
      · intro same
        cases same
        exact ⟨rfl, valid⟩
      · exact And.left
    next invalid =>
      constructor
      · intro same
        cases same
      · rintro ⟨same, valid⟩
        cases same
        exact absurd valid invalid

theorem Method.readProperty?_eq_some_iff :
    m.readProperty? namer = some property ↔ m.Gets namer property := by
  unfold readProperty?
  rw [Option.ite_none_right_eq_some, PropertyNamer.validProperty?_eq_some_iff, Bool.and_eq_true,
    Bool.and_eq_true, Bool.or_eq_true, Bool.not_eq_true', beq_iff_eq]
  constructor
  · rintro ⟨⟨⟨shaped, accepted⟩, boolean⟩, named, valid⟩
    refine ⟨shaped, accepted, fun required => ?_, named, valid⟩
    exact boolean.resolve_left fun free => by rw [required] at free; cases free
  · rintro ⟨shaped, accepted, boolean, named, valid⟩
    refine ⟨⟨⟨shaped, accepted⟩, ?_⟩, named, valid⟩
    cases required : namer.requiresBool m.name with
    | false => exact .inl rfl
    | true => exact .inr (boolean required)

theorem Method.writtenProperty?_eq_some_iff :
    m.writtenProperty? namer = some property ↔ m.Sets namer property := by
  unfold writtenProperty?
  rw [Option.ite_none_right_eq_some, PropertyNamer.validProperty?_eq_some_iff, Bool.and_eq_true]
  constructor
  · rintro ⟨⟨shaped, accepted⟩, named, valid⟩
    exact ⟨shaped, accepted, named, valid⟩
  · rintro ⟨shaped, accepted, named, valid⟩
    exact ⟨⟨shaped, accepted⟩, named, valid⟩

end Claims

def Method.Accompanies (getter : String) (m : Method) : Prop :=
  m.isCompanion = true ∧ (m.name = getter ++ "_mut" ∨ m.name = getter ++ "Mut")

/-- How the class lends the value that its getter reads: by the first companion of the getter, else by a
field of the property's own, else not at all. -/
inductive Class.Lends (c : Class) (getter property : String) : MutablePath → Prop where
  | companion {m : Method} : FirstIn (Method.Accompanies getter) c.methods m →
    Lends c getter property (.companion m)
  | field {f : Field} : (∀ m ∈ c.methods, ¬ m.Accompanies getter) →
    FirstIn (fun f => f.name = property) c.fields f → Lends c getter property (.field f)
  | none : (∀ m ∈ c.methods, ¬ m.Accompanies getter) → (∀ f ∈ c.fields, f.name ≠ property) →
    Lends c getter property .none

theorem Class.mutablePath_eq_iff {c : Class} {getter property : String} {path : MutablePath} :
    c.mutablePath getter property = path ↔ c.Lends getter property path := by
  have agree (m : Method) : (m.isCompanion && isCompanionName getter m.name) = true ↔
      m.Accompanies getter := by
    rw [Bool.and_eq_true, isCompanionName, Bool.or_eq_true, beq_iff_eq, beq_iff_eq]
    rfl
  have named (f : Field) : (f.name == property) = true ↔ f.name = property := beq_iff_eq
  unfold mutablePath
  constructor
  · rintro rfl
    split
    next m found => exact .companion ((find?_eq_some_iff_firstIn agree).mp found)
    next missing =>
      have alone := (find?_eq_none_iff_forall agree).mp missing
      split
      next f found => exact .field alone ((find?_eq_some_iff_firstIn named).mp found)
      next missing => exact .none alone ((find?_eq_none_iff_forall named).mp missing)
  · intro lends
    cases lends with
    | companion first => rw [(find?_eq_some_iff_firstIn agree).mpr first]
    | field alone first =>
      rw [(find?_eq_none_iff_forall agree).mpr alone, field?, (find?_eq_some_iff_firstIn named).mpr first]
    | none alone unnamed =>
      rw [(find?_eq_none_iff_forall agree).mpr alone, field?,
        (find?_eq_none_iff_forall named).mpr unnamed]

namespace Lineage

/-- The class and its embedded parents, the nearest first. -/
def chain (l : Lineage) : List Class :=
  l.own :: l.parents.map Parent.cls

def upcasts (c : Class) : List Parent → List Upcast
  | [] => []
  | p :: parents => ⟨c.target, p.slot, p.cls.name⟩ :: upcasts p.cls parents

def route (l : Lineage) (depth : Nat) : List Upcast :=
  (upcasts l.own l.parents).take depth

/-- The class stands at the depth, and of its members this one is the first that is accepted. No nearer
class has an accepted one. -/
structure First (l : Lineage) {α : Type} (members : Class → List α) (accepts : α → Prop) (depth : Nat)
    (c : Class) (a : α) : Prop where
  stands : l.chain[depth]? = some c
  first : FirstIn accepts (members c) a
  nearest : ∀ nearer ∈ l.chain.take depth, ∀ b ∈ members nearer, ¬ accepts b

/-- What reads the property. -/
inductive ReadBy (l : Lineage) (namer : PropertyNamer) (property : String) : Invoker → Prop where
  | method {depth : Nat} {c : Class} {m : Method} {path : MutablePath} :
    l.First Class.methods (Method.Gets namer property) depth c m → c.Lends m.name property path →
    ReadBy l namer property ⟨property, l.route depth, c.target, .method m path⟩
  | field {depth : Nat} {c : Class} {f : Field} :
    (∀ c ∈ l.chain, ∀ m ∈ c.methods, ¬ m.Gets namer property) → namer.isValid property = true →
    l.First Class.fields (fun f => f.name = property) depth c f →
    ReadBy l namer property ⟨property, l.route depth, c.target, .field f⟩

/-- What writes the property. -/
inductive WrittenBy (l : Lineage) (namer : PropertyNamer) (property : String) : Invoker → Prop where
  | method {depth : Nat} {c : Class} {m : Method} :
    l.First Class.methods (Method.Sets namer property) depth c m →
    WrittenBy l namer property ⟨property, l.route depth, c.target, .method m .none⟩
  | field {depth : Nat} {c : Class} {f : Field} :
    (∀ c ∈ l.chain, ∀ m ∈ c.methods, ¬ m.Sets namer property) → namer.isValid property = true →
    l.First Class.fields (fun f => f.name = property ∧ f.readonly = false) depth c f →
    WrittenBy l namer property ⟨property, l.route depth, c.target, .field f⟩

variable {l : Lineage} {property : String} {i : Invoker}

theorem routes_eq (reached : List Upcast) (c : Class) (parents : List Parent) :
    routes reached c parents = (c :: parents.map Parent.cls).mapIdx fun depth d =>
      (reached ++ (upcasts c parents).take depth, d) := by
  induction parents generalizing reached c with
  | nil => simp [routes]
  | cons p parents ih =>
    rw [routes, ih]
    simp only [List.map_cons, List.mapIdx_cons, upcasts, List.take_zero, List.append_nil,
      List.take_succ_cons, List.append_assoc, List.singleton_append]

theorem getElem?_classes (l : Lineage) (depth : Nat) :
    l.classes[depth]? = l.chain[depth]?.map fun c => (l.route depth, c) := by
  unfold classes
  rw [routes_eq, List.getElem?_mapIdx]
  rfl

theorem find?_classes {made : List Upcast → Class → List Invoker} {wanted : Invoker → Bool} :
    (l.classes.flatMap fun ((route, c) : List Upcast × Class) => made route c).find? wanted = some i ↔
      ∃ depth c, l.chain[depth]? = some c ∧ (made (l.route depth) c).find? wanted = some i ∧
        ∀ n d, n < depth → l.chain[n]? = some d → (made (l.route n) d).find? wanted = none := by
  -- The position among the classes is the depth in the chain, and the route there goes with it.
  rw [List.find?_flatMap, List.findSome?_eq_some_iff]
  constructor
  · rintro ⟨before, ⟨route, c⟩, after, split, found, none⟩
    have here : l.classes[before.length]? = some (route, c) := by
      rw [split, List.getElem?_append_right (Nat.le_refl _), Nat.sub_self, List.getElem?_cons_zero]
    rw [getElem?_classes, Option.map_eq_some_iff] at here
    obtain ⟨c', stands, same⟩ := here
    cases same
    refine ⟨before.length, c, stands, found, fun n d nearer standsNearer => ?_⟩
    have there : l.classes[n]? = some (l.route n, d) := by
      rw [getElem?_classes, standsNearer, Option.map_some]
    rw [split, List.getElem?_append_left nearer] at there
    exact none _ (List.mem_of_getElem? there)
  · rintro ⟨depth, c, stands, found, none⟩
    have here : l.classes[depth]? = some (l.route depth, c) := by
      rw [getElem?_classes, stands, Option.map_some]
    obtain ⟨bound, here⟩ := List.getElem?_eq_some_iff.mp here
    refine ⟨l.classes.take depth, (l.route depth, c), l.classes.drop (depth + 1), ?_, found, ?_⟩
    · rw [← here, List.getElem_cons_drop, List.take_append_drop]
    · intro entry member
      obtain ⟨n, nearer, before⟩ := mem_take_iff_getElem?.mp member
      rw [getElem?_classes, Option.map_eq_some_iff] at before
      obtain ⟨d, stands, rfl⟩ := before
      exact none n d nearer stands

section Claimed
variable {α : Type} (members : Class → List α) (claim : α → Option String)
  (serve : Class → α → String → Member)

def claimed (route : List Upcast) (c : Class) : List Invoker :=
  (members c).filterMap fun a =>
    (claim a).map fun property => ⟨property, route, c.target, serve c a property⟩

theorem find?_claimed_of_class (route : List Upcast) (c : Class) :
    (claimed members claim serve route c).find? (·.property == property) =
      ((members c).find? fun a => claim a == some property).map fun a =>
        ⟨property, route, c.target, serve c a property⟩ := by
  have wanted (a : α) : ((claim a).map fun property =>
      Invoker.mk property route c.target (serve c a property)).any (·.property == property) =
      (claim a == some property) := by
    cases claim a <;> simp
  unfold claimed
  rw [List.find?_filterMap]
  simp only [wanted]
  cases found : (members c).find? fun a => claim a == some property with
  | none => rfl
  | some a =>
    have claims := List.find?_some found
    rw [beq_iff_eq] at claims
    simp [claims]

variable (l property i) in
theorem find?_claimed : (l.classes.flatMap fun ((route, c) : List Upcast × Class) =>
    claimed members claim serve route c).find? (·.property == property) = some i ↔
      ∃ depth c a, l.First members (fun a => claim a = some property) depth c a ∧
        i = ⟨property, l.route depth, c.target, serve c a property⟩ := by
  have agree (a : α) : (claim a == some property) = true ↔ claim a = some property := beq_iff_eq
  simp only [find?_classes, find?_claimed_of_class, Option.map_eq_some_iff, Option.map_eq_none_iff,
    find?_eq_some_iff_firstIn agree, find?_eq_none_iff_forall agree]
  constructor
  · rintro ⟨depth, c, stands, ⟨a, first, rfl⟩, none⟩
    refine ⟨depth, c, a, ⟨stands, first, fun nearer member => ?_⟩, rfl⟩
    obtain ⟨n, less, there⟩ := mem_take_iff_getElem?.mp member
    exact none n nearer less there
  · rintro ⟨depth, c, a, ⟨stands, first, nearest⟩, rfl⟩
    refine ⟨depth, c, stands, ⟨a, first, rfl⟩, fun n d less there => ?_⟩
    exact nearest d (mem_take_iff_getElem?.mpr ⟨n, less, there⟩)

variable (l property) in
theorem find?_claimed_eq_none : (l.classes.flatMap fun ((route, c) : List Upcast × Class) =>
    claimed members claim serve route c).find? (·.property == property) = none ↔
      ∀ c ∈ l.chain, ∀ a ∈ members c, claim a ≠ some property := by
  have agree (a : α) : (claim a == some property) = true ↔ claim a = some property := beq_iff_eq
  rw [List.find?_flatMap, List.findSome?_eq_none_iff]
  simp only [find?_claimed_of_class, Option.map_eq_none_iff, find?_eq_none_iff_forall agree]
  constructor
  · intro none c member
    obtain ⟨n, stands⟩ := List.getElem?_of_mem member
    have there : l.classes[n]? = some (l.route n, c) := by
      rw [getElem?_classes, stands, Option.map_some]
    exact none (l.route n, c) (List.mem_of_getElem? there)
  · intro none entry member
    obtain ⟨n, there⟩ := List.getElem?_of_mem member
    rw [getElem?_classes, Option.map_eq_some_iff] at there
    obtain ⟨c, stands, rfl⟩ := there
    exact none c (List.mem_of_getElem? stands)

end Claimed

section Served
variable {namer : PropertyNamer}

theorem find?_fields (select : Field → Bool) :
    (l.classes.flatMap fun ((route, c) : List Upcast × Class) =>
      (c.fields.filter fun f => namer.isValid f.name && select f).map fun f =>
        Invoker.mk f.name route c.target (.field f)).find? (·.property == property) = some i ↔
      namer.isValid property = true ∧ ∃ depth c f,
        l.First Class.fields (fun f => f.name = property ∧ select f = true) depth c f ∧
          i = ⟨property, l.route depth, c.target, .field f⟩ := by
  -- A selected field claims the property of its own name, if that is valid.
  let claim (f : Field) : Option String :=
    if namer.isValid f.name && select f then some f.name else none
  have claims (f : Field) : claim f = some property ↔
      namer.isValid property = true ∧ f.name = property ∧ select f = true := by
    simp only [claim, Option.ite_none_right_eq_some, Option.some.injEq, Bool.and_eq_true]
    constructor
    · rintro ⟨⟨valid, selected⟩, rfl⟩
      exact ⟨valid, rfl, selected⟩
    · rintro ⟨valid, rfl, selected⟩
      exact ⟨⟨valid, selected⟩, rfl⟩
  have same (route : List Upcast) (c : Class) :
      ((c.fields.filter fun f => namer.isValid f.name && select f).map fun f =>
        Invoker.mk f.name route c.target (.field f)) =
      claimed Class.fields claim (fun _ f _ => .field f) route c := by
    unfold claimed
    rw [← List.filterMap_eq_map, List.filterMap_filter]
    congr 1
    funext f
    by_cases chosen : (namer.isValid f.name && select f) = true
    · simp only [claim, if_pos chosen, Option.map_some]
      rfl
    · simp only [claim, if_neg chosen, Option.map_none]
  simp only [same, find?_claimed, claims]
  constructor
  · rintro ⟨depth, c, f, ⟨stands, ⟨before, after, split, ⟨valid, accepted⟩, others⟩, nearest⟩, rfl⟩
    refine ⟨valid, depth, c, f, ⟨stands, ⟨before, after, split, accepted, ?_⟩, ?_⟩, rfl⟩
    · exact fun g member accepted => others g member ⟨valid, accepted⟩
    · exact fun d member g gMember accepted => nearest d member g gMember ⟨valid, accepted⟩
  · rintro ⟨valid, depth, c, f, first, rfl⟩
    have agree : (fun f : Field => namer.isValid property = true ∧ f.name = property ∧ select f = true) =
        fun f => f.name = property ∧ select f = true := by
      funext f
      exact propext (and_iff_right valid)
    rw [agree]
    exact ⟨depth, c, f, first, rfl⟩

variable (l property i namer) in
/-- The first method that claims the property serves it, and where there is none the first selected
field of its name. -/
theorem find?_served (claim : Method → Option String) (path : Class → Method → String → MutablePath)
    (select : Field → Bool) :
    ((l.classes.flatMap fun ((route, c) : List Upcast × Class) => c.methods.filterMap fun m =>
        (claim m).map fun property =>
          Invoker.mk property route c.target (.method m (path c m property))) ++
      l.classes.flatMap fun ((route, c) : List Upcast × Class) =>
        (c.fields.filter fun f => namer.isValid f.name && select f).map fun f =>
          Invoker.mk f.name route c.target (.field f)).find? (·.property == property) = some i ↔
      (∃ depth c m, l.First Class.methods (fun m => claim m = some property) depth c m ∧
        i = ⟨property, l.route depth, c.target, .method m (path c m property)⟩) ∨
      (∀ c ∈ l.chain, ∀ m ∈ c.methods, claim m ≠ some property) ∧ namer.isValid property = true ∧
        ∃ depth c f, l.First Class.fields (fun f => f.name = property ∧ select f = true) depth c f ∧
          i = ⟨property, l.route depth, c.target, .field f⟩ := by
  have methods := find?_claimed l property i Class.methods claim
    fun c m property => .method m (path c m property)
  have noMethod := find?_claimed_eq_none l property Class.methods claim
    fun c m property => .method m (path c m property)
  rw [List.find?_append, Option.or_eq_some_iff, find?_fields select]
  exact or_congr methods (and_congr_left fun _ => noMethod)

theorem find?_readers_iff : (l.readers namer).find? (·.property == property) = some i ↔
    l.ReadBy namer property i := by
  have served := find?_served l property i namer
    (fun m => m.readProperty? namer) (fun c m => c.mutablePath m.name) fun _ => true
  simp only [Bool.and_true, and_true, ne_eq, Method.readProperty?_eq_some_iff] at served
  refine Iff.trans served ?_
  constructor
  · rintro (⟨depth, c, m, first, rfl⟩ | ⟨none, valid, depth, c, f, first, rfl⟩)
    · exact .method first (Class.mutablePath_eq_iff.mp rfl)
    · exact .field none valid first
  · intro read
    cases read with
    | @method depth c m path first lends =>
      refine .inl ⟨depth, c, m, first, ?_⟩
      rw [Class.mutablePath_eq_iff.mpr lends]
    | @field depth c f none valid first => exact .inr ⟨none, valid, depth, c, f, first, rfl⟩

theorem find?_writers_iff : (l.writers namer).find? (·.property == property) = some i ↔
    l.WrittenBy namer property i := by
  have served := find?_served l property i namer
    (fun m => m.writtenProperty? namer) (fun _ _ _ => .none) fun f => !f.readonly
  simp only [Bool.not_eq_true', ne_eq, Method.writtenProperty?_eq_some_iff] at served
  refine Iff.trans served ?_
  constructor
  · rintro (⟨depth, c, m, first, rfl⟩ | ⟨none, valid, depth, c, f, first, rfl⟩)
    · exact .method first
    · exact .field none valid first
  · intro written
    cases written with
    | @method depth c m first => exact .inl ⟨depth, c, m, first, rfl⟩
    | @field depth c f none valid first => exact .inr ⟨none, valid, depth, c, f, first, rfl⟩

end Served

end Lineage

/-- A descriptor reads and writes a property by the member that comes first along the lineage, and not at
all where there is none. -/
theorem Descriptor.resolves (namer : PropertyNamer) (ty : Ty) (l : Lineage) (property : String)
    (i : Invoker) :
    ((build namer ty (some l)).getter? property = some i ↔ l.ReadBy namer property i) ∧
      ((build namer ty (some l)).setter? property = some i ↔ l.WrittenBy namer property i) := by
  rw [getter?_build, setter?_build]
  exact ⟨Lineage.find?_readers_iff, Lineage.find?_writers_iff⟩

open Sample in
/-- Where the namer holds a property for invalid, a field of its name is not written, though it may be
and no method is in its way. -/
theorem Descriptor.invalid_unwritten : fieldsOnly.isValid "name" = false ∧
    ∃ l f, schema.lineage? (bean "Person") = some l ∧ (∀ c ∈ l.chain, c.methods = []) ∧
      l.First Class.fields (fun f => f.name = "name" ∧ f.readonly = false) 0 l.own f ∧
      (build fieldsOnly (bean "Person") (some l)).setter? "name" = none := by
  refine ⟨by decide, _, _, rfl, ?_, ⟨rfl, ⟨[], _, rfl, ⟨rfl, rfl⟩, nofun⟩, nofun⟩, rfl⟩
  intro c member
  cases List.mem_singleton.mp member
  rfl

end ObjectGraph
