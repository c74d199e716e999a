import ObjectGraph.Proofs.Introspection

/-! What an object that is no map says about a name with a key.

It says that it has the property if it could itself be indexed, or if it has a getter for the name
that stands before the key. Reading then finds a container, or nothing. Only lists, arrays and maps
can be indexed, and nothing makes sure that the value of a getter is one of them: exactly where it is
not, reading fails and no type is told, although the object says that it has the property.
-/

set_option autoImplicit false
namespace ObjectGraph

/-- The access fails because what the key looks into cannot be indexed. -/
def Unindexed {α : Type} (r : Except AccessError α) : Prop :=
  ∃ segment type, r = .error (.notIndexable segment type)

inductive AccessError.OfPosition : AccessError → Prop where
  | unread (segment type index : String) : OfPosition (.invalidIndex segment type index)
  | outside (segment type : String) (index length : Nat) :
    OfPosition (.indexOutOfRange segment type index length)

theorem Segment.indexed_of_mem {name : String} (bracket : '[' ∈ name.toList) :
    (⟨name⟩ : Segment).isIndexed = true :=
  (Segment.written ⟨name⟩).indexed.2 bracket

namespace Indexed

variable {o : Obj} {c : Value} {s : Segment} {e : AccessError}

theorem ofPosition_of_positionSlot {type : String} {length : Nat}
    (failed : positionSlot s type length = .error e) : e.OfPosition := by
  rcases error_of_bind failed with failed | ⟨i, _, failed⟩
  · unfold Segment.position at failed
    split at failed <;> cases failed
    exact .unread _ _ _
  · split at failed <;> cases failed
    exact .outside _ _ _ _

theorem error_of_read (failed : read c s = .error e) : c.obj.isIndexable = true ∧ e.OfPosition ∨
    c.obj.isIndexable = false ∧ e = s.notIndexable c.obj.typeName := by
  obtain ⟨o, owned⟩ := c
  rcases error_of_bind failed with failed | ⟨_, _, failed⟩
  · cases o with
    | map =>
      simp only [slot?] at failed
      split at failed <;> cases failed
    | list | array => exact .inl ⟨rfl, ofPosition_of_positionSlot failed⟩
    | scalar | set | bean =>
      cases failed
      exact .inr ⟨rfl, rfl⟩
  · cases failed

theorem read_of_not_isIndexable (fixed : c.obj.isIndexable = false) (s : Segment) :
    read c s = .error (s.notIndexable c.obj.typeName) := by
  obtain ⟨o, owned⟩ := c
  cases o with
  | map | list | array => cases fixed
  | scalar | set | bean => rfl

theorem unindexed_read : Unindexed (read c s) ↔ c.obj.isIndexable = false := by
  refine ⟨?_, fun fixed => ⟨_, _, read_of_not_isIndexable fixed s⟩⟩
  rintro ⟨_, _, failed⟩
  rcases error_of_read failed with ⟨_, ofPosition⟩ | ⟨fixed, _⟩
  · cases ofPosition
  · exact fixed

theorem served_read : ¬ Unserved .getter (read c s) := by
  rintro ⟨_, _, failed⟩
  rcases error_of_read failed with ⟨_, ofPosition⟩ | ⟨_, same⟩
  · cases ofPosition
  · cases same

theorem isSome_elementType (o : Obj) (s : Segment) : (elementType o s).toOption.isSome = o.isIndexable := by
  cases o <;> rfl

end Indexed

/-- What the key of a segment looks into: the object, or the value of the name before the key. -/
def Context.container (ctx : Context) (o : Obj) (s : Segment) : Except AccessError (Option Value) :=
  if s.name = "" then .ok (some (.shared o)) else ctx.readName o s.name

theorem Segment.fetch_container {ctx : Context} {o : Obj} {s : Segment} (indexed : s.isIndexed = true) :
    s.fetch o (ctx.readName o s.name) =
      match ctx.container o s with
      | .ok (some c) => Indexed.read c s
      | .ok none => .ok none
      | .error e => .error e := by
  by_cases own : s.name = ""
  · rw [fetch_own indexed own, Context.container, if_pos own]
  · rw [Context.container, if_neg own]
    rcases ctx.readName o s.name with e | _ | c <;> exact fetch_other indexed own _

namespace BeanAccess

variable {ctx : Context} {o : Obj} {s : Segment} (notMap : o.isMap = false)
include notMap

theorem container_eq : container ctx o s = ctx.container o s := by
  simp only [container, Context.container, Context.readName, notMap, Bool.false_eq_true, if_false]
  rfl

/-- What can be asked for is the object itself, which can be indexed, or the value of a getter, which may
fail with an error of its own. -/
theorem container_of_isIndexable (has : isIndexable ctx o s = true) :
    s.name = "" ∧ o.isIndexable = true ∧ ctx.container o s = .ok (some (.shared o)) ∨
      s.name ≠ "" ∧ ((∃ v, ctx.container o s = .ok v) ∨ ∃ type property cause,
        ctx.container o s = .error (.propertyAccessFailed .get type property cause)) := by
  rw [← container_eq notMap]
  unfold isIndexable at has
  unfold container
  by_cases own : s.name = ""
  · rw [if_pos own] at has ⊢
    exact .inl ⟨own, has, rfl⟩
  · rw [if_neg own] at has ⊢
    obtain ⟨i, found⟩ := Option.isSome_iff_exists.1 has
    have served : (do (← (ctx.descriptorOf o).getter s.name).read o) = i.read o := by
      rw [Descriptor.getter, found]
      rfl
    rw [served]
    cases read : i.read o with
    | ok v => exact .inr ⟨own, .inl ⟨v, rfl⟩⟩
    | error e =>
      obtain ⟨cause, rfl⟩ := error_of_mapError read
      exact .inr ⟨own, .inr ⟨_, _, cause, rfl⟩⟩

theorem isSome_elementType? {c : Value} (held : ctx.container o s = .ok (some c)) :
    (elementType? ctx o s).isSome = c.obj.isIndexable := by
  rw [elementType?, container_eq notMap, held]
  exact Indexed.isSome_elementType c.obj s

end BeanAccess

namespace Navigator

variable {n : Navigator} {ctx : Context} {o : Obj} {name : String}

section Usual
variable (usual : ctx.Usual) (unadapted : ctx.schema.adapter? o = none) (found : n.obj? = some o)
  (notMap : o.isMap = false) (dotless : '.' ∉ name.toList) (bracket : '[' ∈ name.toList)
include usual unadapted found notMap dotless bracket

theorem hasGetter_of_bracket : n.hasGetter ctx name = BeanAccess.isIndexable ctx o ⟨name⟩ := by
  rw [(answersByClass usual unadapted found notMap).hasGetter]
  simp only [BeanAccess.hasGetter, BeanAccess.onlySegment?_of_dotless dotless, Option.any_some,
    Segment.indexed_of_mem bracket, if_true]

theorem getterType?_of_bracket : n.getterType? ctx name = BeanAccess.elementType? ctx o ⟨name⟩ := by
  rw [(answersByClass usual unadapted found notMap).getterType?]
  simp only [BeanAccess.getterType?, BeanAccess.onlySegment?_of_dotless dotless, Option.bind_some,
    Segment.indexed_of_mem bracket, if_true]

/-- An object that is no map and says that it has a getter for a name with a key never lacks it. Reading
fails for want of something to index exactly where the name in front of the key has a value that is
neither a list nor an array nor a map, and exactly there no type is told of a value that is there. -/
theorem indexed_getter (has : n.hasGetter ctx name = true) :
    ¬ Unserved .getter (n.read ctx (.ofString name)) ∧
    (Unindexed (n.read ctx (.ofString name)) ↔ (⟨name⟩ : Segment).name ≠ "" ∧
      ∃ c, ctx.container o ⟨name⟩ = .ok (some c) ∧ c.obj.isIndexable = false) ∧
    ∀ c, ctx.container o ⟨name⟩ = .ok (some c) →
      (n.getterType? ctx name).isSome = c.obj.isIndexable := by
  rw [hasGetter_of_bracket usual unadapted found notMap dotless bracket] at has
  rw [read_of_dotless usual unadapted found dotless, Segment.fetch_container (Segment.indexed_of_mem bracket),
    getterType?_of_bracket usual unadapted found notMap dotless bracket]
  have told : ∀ c, ctx.container o ⟨name⟩ = .ok (some c) →
      (BeanAccess.elementType? ctx o ⟨name⟩).isSome = c.obj.isIndexable :=
    fun c => BeanAccess.isSome_elementType? notMap
  rcases BeanAccess.container_of_isIndexable notMap has with
    ⟨own, indexable, held⟩ | ⟨other, ⟨_ | c, held⟩ | ⟨_, _, _, held⟩⟩
  · simp only [held] at told ⊢
    refine ⟨Indexed.served_read, ⟨fun failed => ?_, fun named => absurd own named.1⟩, told⟩
    exact absurd (indexable.symm.trans (Indexed.unindexed_read.1 failed)) nofun
  · simp only [held] at told ⊢
    exact ⟨nofun, ⟨nofun, nofun⟩, told⟩
  · simp only [held] at told ⊢
    refine ⟨Indexed.served_read, ⟨fun failed => ⟨other, c, rfl, Indexed.unindexed_read.1 failed⟩, ?_⟩, told⟩
    rintro ⟨_, _, same, fixed⟩
    cases same
    exact Indexed.unindexed_read.2 fixed
  · simp only [held] at told ⊢
    exact ⟨nofun, ⟨nofun, nofun⟩, told⟩

end Usual

open Sample in
/-- A kiosk says that its label has a first element, although a text is there that cannot be indexed. -/
theorem indexed_getter_refused :
    (readOnly (kiosk "A" [])).hasGetter (.standard market) "label[0]" = true ∧
    Unindexed ((readOnly (kiosk "A" [])).read (.standard market) (.ofString "label[0]")) ∧
    (readOnly (kiosk "A" [])).read (.standard market) (.ofString "label") =
      .ok (some (.shared (.str "A"))) ∧
    (readOnly (kiosk "A" [])).getterType? (.standard market) "label[0]" = none :=
  ⟨rfl, ⟨_, _, rfl⟩, rfl, rfl⟩

open Sample in
/-- The coins of its till have elements, and a type is told of them. -/
theorem indexed_getter_coins :
    ¬ Unindexed ((readOnly (kiosk "A" [])).read (.standard market) (.ofString "coins[0]")) ∧
    ((readOnly (kiosk "A" [])).getterType? (.standard market) "coins[0]").isSome = true := by
  obtain ⟨_, refused, told⟩ := indexed_getter (n := readOnly (kiosk "A" [])) (Context.usual_standard market)
    rfl rfl rfl (by decide : '.' ∉ "coins[0]".toList) (by decide) rfl
  refine ⟨fun failed => ?_, told _ rfl⟩
  obtain ⟨_, c, held, fixed⟩ := refused.1 failed
  cases held
  cases fixed

end Navigator

end ObjectGraph
