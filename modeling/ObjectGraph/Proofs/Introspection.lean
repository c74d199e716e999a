import Mathlib.Data.List.Nodup
import ObjectGraph.Proofs.Invocation
import ObjectGraph.Proofs.MapHistory
import ObjectGraph.Proofs.Refusal
import ObjectGraph.Proofs.Splitting

/-! What an object says about its properties, and what access does.

A name without dots and brackets is one property, or one key of a map. An object that is no map says
that it has the property, lists its name and tells its type in exactly the same cases, and these are
the cases in which access does not fail for want of a member. A map takes every name for a key. The
names are listed in order, none twice.
-/

set_option autoImplicit false
namespace ObjectGraph

/-! Sorted names -/

theorem increasing_mergeSort {names : List String} (nodup : names.Nodup) :
    (names.mergeSort fun a b => decide (a ≤ b)).Pairwise (· < ·) := by
  have sorted : (names.mergeSort fun a b => decide (a ≤ b)).Pairwise fun a b => decide (a ≤ b) = true := by
    apply List.pairwise_mergeSort
    · intro a b c first second
      exact decide_eq_true (String.le_trans (of_decide_eq_true first) (of_decide_eq_true second))
    · intro a b
      simpa only [Bool.or_eq_true, decide_eq_true_eq] using String.le_total a b
  have distinct : (names.mergeSort fun a b => decide (a ≤ b)).Nodup :=
    (List.mergeSort_perm names _).nodup_iff.2 nodup
  refine (sorted.and distinct).imp ?_
  rintro a b ⟨le, ne⟩
  exact Std.lt_of_le_of_ne (of_decide_eq_true le) ne

namespace Descriptor

variable {invokers : List Invoker} {name : String}

theorem nodup_firstOfEach (invokers : List Invoker) :
    ((firstOfEach invokers).map Invoker.property).Nodup := by
  induction invokers with
  | nil => exact .nil
  | cons i rest ih =>
    rw [firstOfEach, List.map_cons, List.nodup_cons]
    refine ⟨fun member => ?_, ih.sublist (List.filter_sublist.map _)⟩
    obtain ⟨j, kept, same⟩ := List.mem_map.1 member
    exact bne_iff_ne.1 (List.mem_filter.1 kept).2 same

theorem mem_sortedNames :
    name ∈ sortedNames invokers ↔ (invokers.find? (·.property == name)).isSome = true := by
  rw [sortedNames, List.mem_mergeSort, List.mem_map, List.find?_isSome]
  simp only [beq_iff_eq]

theorem nodup_build (namer : PropertyNamer) (ty : Ty) (lineage? : Option Lineage) :
    ((build namer ty lineage?).getters.map Invoker.property).Nodup ∧
      ((build namer ty lineage?).setters.map Invoker.property).Nodup := by
  cases lineage? with
  | none => exact ⟨.nil, .nil⟩
  | some l => exact ⟨nodup_firstOfEach _, nodup_firstOfEach _⟩

end Descriptor

/-! Names that are one segment -/

theorem BeanAccess.onlySegment?_of_dotless {name : String} (dotless : '.' ∉ name.toList) :
    onlySegment? name = some ⟨name⟩ := by
  simp only [onlySegment?, Path.ofString_of_not_mem dotless, List.isEmpty_nil, if_true]

theorem Segment.plain_of_not_mem {name : String} (plain : '[' ∉ name.toList) :
    (⟨name⟩ : Segment).isIndexed = false ∧ (⟨name⟩ : Segment).name = name := by
  obtain ⟨named, keyed⟩ := (Segment.Written.plain plain).read
  exact ⟨by rw [isIndexed, keyed]; rfl, named⟩

/-- A name without dots and brackets is looked up among the properties of the class as it is. -/
theorem BeanAccess.answers_of_plain (ctx : Context) (o : Obj) {name : String} (dotless : '.' ∉ name.toList)
    (plain : '[' ∉ name.toList) :
    hasGetter ctx o name = (ctx.descriptorOf o).hasGetter name ∧
    hasSetter ctx o name = (ctx.descriptorOf o).hasSetter name ∧
    getterType? ctx o name = (ctx.descriptorOf o).getterType? name ∧
    setterType? ctx o name = (ctx.descriptorOf o).setterType? name := by
  simp only [hasGetter, hasSetter, getterType?, setterType?, onlySegment?_of_dotless dotless, Option.any_some,
    Option.bind_some, (Segment.plain_of_not_mem plain).1, Bool.false_eq_true, if_false, and_self]

def Unserved {α : Type} (accessor : Accessor) (r : Except AccessError α) : Prop :=
  ∃ type property, r = .error (.accessorNotFound accessor type property)

def AccessError.NotOfSetting (e : AccessError) : Prop :=
  ∀ type property, e ≠ .accessorNotFound .setter type property

theorem Edit.FailsWith.served {edit : Edit AccessError Unit} {o : Obj}
    (fails : edit.FailsWith AccessError.NotOfSetting o) : ¬ Unserved .setter (edit.outcome o) := by
  rintro ⟨type, property, failed⟩
  unfold Edit.outcome at failed
  split at failed <;> cases failed
  next ran => exact fails _ _ ran type property rfl

namespace BeanAccess

variable {ctx : Context} {o : Obj} {name : String}

theorem unserved_readProperty : Unserved .getter (readProperty ctx o name) ↔
    (ctx.descriptorOf o).hasGetter name = false := by
  unfold readProperty Descriptor.getter Descriptor.hasGetter
  cases (ctx.descriptorOf o).getter? name with
  | none => exact ⟨fun _ => rfl, fun _ => ⟨_, _, rfl⟩⟩
  | some i =>
    refine ⟨?_, nofun⟩
    rintro ⟨_, _, failed⟩
    obtain ⟨_, failed⟩ := error_of_mapError failed
    cases failed

theorem unserved_writeProperty (v : Option Obj) :
    Unserved .setter ((writeProperty ctx name v).outcome o) ↔
      (ctx.descriptorOf o).hasSetter name = false := by
  have served : (writeProperty ctx name v).outcome o =
      Edit.outcome (do (← Edit.ofExcept ((ctx.descriptorOf o).setter name)).write v) o := rfl
  rw [served]
  unfold Descriptor.setter Descriptor.hasSetter
  cases (ctx.descriptorOf o).setter? name with
  | none => exact ⟨fun _ => rfl, fun _ => ⟨_, _, rfl⟩⟩
  | some i =>
    have written : (i.write v).FailsWith AccessError.NotOfSetting o :=
      .bind_get (.of_mapError (fun _ => nofun) _)
    exact ⟨fun unserved => absurd unserved written.served, nofun⟩

end BeanAccess

namespace MapAccess

variable {o : Obj} (isMap : o.isMap = true)
include isMap

theorem readKey_ok (name : String) : ∃ v, readKey o name = .ok v := by
  obtain ⟨kind, key, value, entries, rfl⟩ := Context.map_of_isMap isMap
  exact ⟨_, rfl⟩

theorem served_writeKey (s : Segment) (v : Option Obj) :
    (writeKey s v).FailsWith AccessError.NotOfSetting o := by
  obtain ⟨kind, key, value, entries, rfl⟩ := Context.map_of_isMap isMap
  refine .bind_get (.bind_ofExcept (fun _ => nofun) fun m _ => ?_)
  cases v with
  | none => exact .of_set _
  | some new =>
    refine .bind_ofExcept (fun e failed => ?_) fun _ _ => .of_set _
    obtain ⟨cause, rfl⟩ := error_of_mapError failed
    nofun

end MapAccess

namespace Context

variable {ctx : Context} {o : Obj} {name : String}

theorem unserved_readName : Unserved .getter (ctx.readName o name) ↔
    (o.isMap || (ctx.descriptorOf o).hasGetter name) = false := by
  unfold readName
  cases kind : o.isMap with
  | false => exact BeanAccess.unserved_readProperty
  | true =>
    obtain ⟨v, read⟩ := MapAccess.readKey_ok kind name
    simp [Unserved, read]

theorem unserved_writeName (s : Segment) (v : Option Obj) :
    Unserved .setter ((ctx.writeName o.isMap s v).outcome o) ↔
      (o.isMap || (ctx.descriptorOf o).hasSetter s.name) = false := by
  unfold writeName
  cases kind : o.isMap with
  | false => exact BeanAccess.unserved_writeProperty v
  | true => exact ⟨fun unserved => absurd unserved (MapAccess.served_writeKey kind s v).served, nofun⟩

end Context

namespace Navigator

variable {n : Navigator} {ctx : Context} {o : Obj} {name : String}

/-- All questions about the object of the navigator are answered by its class. -/
structure AnswersByClass (n : Navigator) (ctx : Context) (o : Obj) : Prop where
  getterNames : n.getterNames ctx = BeanAccess.getterNames ctx o
  setterNames : n.setterNames ctx = BeanAccess.setterNames ctx o
  getterType? (name : String) : n.getterType? ctx name = BeanAccess.getterType? ctx o name
  setterType? (name : String) : n.setterType? ctx name = BeanAccess.setterType? ctx o name
  hasGetter (name : String) : n.hasGetter ctx name = BeanAccess.hasGetter ctx o name
  hasSetter (name : String) : n.hasSetter ctx name = BeanAccess.hasSetter ctx o name

theorem inspect_of_adapter {α : Type} {a : Adapter} (found : n.obj? = some o) (chosen : ctx.adapter o = .ok a)
    (nothing : α) (ask : Adapter → Obj → α) : n.inspect ctx nothing ask = ask a o := by
  simp only [inspect, found, chosen]

section Usual
variable (usual : ctx.Usual) (unadapted : ctx.schema.adapter? o = none)
include usual unadapted

theorem read_of_dotless (found : n.obj? = some o) (dotless : '.' ∉ name.toList) :
    n.read ctx (.ofString name) =
      (⟨name⟩ : Segment).fetch o (ctx.readName o (⟨name⟩ : Segment).name) := by
  obtain ⟨a, chosen, _⟩ := usual.adapter unadapted
  simp only [read, found, Context.readPath, Path.ofString_of_not_mem dotless,
    Context.readFrom_of_adapter chosen, Context.read_eq usual unadapted chosen]

theorem write_of_dotless (changeable : n.changeable? = some o) (dotless : '.' ∉ name.toList)
    (v : Option Obj) : (n.write ctx (.ofString name) v).2 =
      ((⟨name⟩ : Segment).store (ctx.lendName o.isMap (⟨name⟩ : Segment).name)
        (ctx.writeName o.isMap ⟨name⟩ v) v).outcome o := by
  obtain ⟨a, chosen, _⟩ := usual.adapter unadapted
  rw [write, edit_of_changeable changeable, Context.writePath, Path.ofString_of_not_mem dotless,
    ← Context.write_eq usual unadapted chosen]
  simp only [Context.writeFrom, Edit.outcome, Edit.bind_apply, Edit.get_apply, chosen, Edit.ofExcept_ok_apply]

variable (found : n.obj? = some o)
include found

theorem inspect_of_isMap {α : Type} (isMap : o.isMap = true) (nothing : α) (ask : Adapter → Obj → α) :
    n.inspect ctx nothing ask = ask .map o := by
  obtain ⟨a, chosen, ⟨_, rfl⟩ | ⟨notMap, _⟩⟩ := usual.adapter unadapted
  · exact inspect_of_adapter found chosen nothing ask
  · rw [isMap] at notMap
    cases notMap

theorem answersByClass (notMap : o.isMap = false) : n.AnswersByClass ctx o := by
  obtain ⟨a, chosen, ⟨isMap, _⟩ | ⟨_, kind⟩⟩ := usual.adapter unadapted
  · rw [notMap] at isMap
    cases isMap
  · constructor <;> intros <;> refine (inspect_of_adapter found chosen _ _).trans ?_ <;>
      rcases kind with rfl | rfl <;> rfl

section Plain
variable (dotless : '.' ∉ name.toList) (plain : '[' ∉ name.toList)
include dotless plain

theorem hasGetter_of_plain :
    n.hasGetter ctx name = (o.isMap || (ctx.descriptorOf o).hasGetter name) := by
  cases kind : o.isMap with
  | true => exact inspect_of_isMap usual unadapted found kind _ _
  | false =>
    rw [(answersByClass usual unadapted found kind).hasGetter, Bool.false_or]
    exact (BeanAccess.answers_of_plain ctx o dotless plain).1

theorem hasSetter_of_plain :
    n.hasSetter ctx name = (o.isMap || (ctx.descriptorOf o).hasSetter name) := by
  cases kind : o.isMap with
  | true => exact inspect_of_isMap usual unadapted found kind _ _
  | false =>
    rw [(answersByClass usual unadapted found kind).hasSetter, Bool.false_or]
    exact (BeanAccess.answers_of_plain ctx o dotless plain).2.1

end Plain

theorem increasing_names (arranged : ∀ m, o.view = .map m → m.Arranged) :
    (n.getterNames ctx).Pairwise (· < ·) ∧ (n.setterNames ctx).Pairwise (· < ·) := by
  cases kind : o.isMap with
  | true =>
    rw [getterNames, setterNames, inspect_of_isMap usual unadapted found kind,
      inspect_of_isMap usual unadapted found kind]
    obtain ⟨kind, key, value, entries, rfl⟩ := Context.map_of_isMap kind
    have increasing := increasing_mergeSort (MapView.keys_nodup (arranged _ rfl))
    exact ⟨increasing, increasing⟩
  | false =>
    have answers := answersByClass usual unadapted found kind
    rw [answers.getterNames, answers.setterNames]
    obtain ⟨getters, setters⟩ := Descriptor.nodup_build ctx.namer o.ty (ctx.schema.lineage? o.ty)
    exact ⟨increasing_mergeSort getters, increasing_mergeSort setters⟩

/-- What an object says about a name without dots and brackets agrees with what access by the name does.
It has a getter exactly if reading does not fail for want of one, and a setter exactly if no writing does,
whatever the value is. Without being a map, it lists the name and tells a type in the same cases. -/
theorem introspection_agrees (arranged : ∀ m, o.view = .map m → m.Arranged) (dotless : '.' ∉ name.toList)
    (plain : '[' ∉ name.toList) :
    (n.hasGetter ctx name = false ↔ Unserved .getter (n.read ctx (.ofString name))) ∧
    (n.changeable? = some o → ∀ v,
      n.hasSetter ctx name = false ↔ Unserved .setter (n.write ctx (.ofString name) v).2) ∧
    (o.isMap = false →
      (n.hasGetter ctx name = true ↔ name ∈ n.getterNames ctx) ∧
      (n.hasGetter ctx name = true ↔ (n.getterType? ctx name).isSome = true) ∧
      (n.hasSetter ctx name = true ↔ name ∈ n.setterNames ctx) ∧
      (n.hasSetter ctx name = true ↔ (n.setterType? ctx name).isSome = true)) ∧
    (n.getterNames ctx).Pairwise (· < ·) ∧ (n.setterNames ctx).Pairwise (· < ·) := by
  have getter := hasGetter_of_plain usual unadapted found dotless plain
  have setter := hasSetter_of_plain usual unadapted found dotless plain
  -- Without a bracket the segment is its name, and access to it is access to the property.
  obtain ⟨unindexed, named⟩ := Segment.plain_of_not_mem plain
  refine ⟨?_, fun changeable v => ?_, fun notMap => ?_, increasing_names usual unadapted found arranged⟩
  · rw [getter, read_of_dotless usual unadapted found dotless, Segment.fetch_name unindexed, named]
    exact Context.unserved_readName.symm
  · have written : Unserved .setter ((ctx.writeName o.isMap ⟨name⟩ v).outcome o) ↔ _ :=
      Context.unserved_writeName ⟨name⟩ v
    rw [named] at written
    rw [setter, write_of_dotless usual unadapted changeable dotless, Segment.store, Segment.enter, unindexed]
    exact written.symm
  · rw [notMap, Bool.false_or] at getter setter
    have answers := answersByClass usual unadapted found notMap
    obtain ⟨_, _, getterType, setterType⟩ := BeanAccess.answers_of_plain ctx o dotless plain
    rw [getter, setter, answers.getterNames, answers.setterNames, answers.getterType?, answers.setterType?,
      getterType, setterType]
    refine ⟨Descriptor.mem_sortedNames.symm, ?_, Descriptor.mem_sortedNames.symm, ?_⟩
    · rw [Descriptor.getterType?, Option.isSome_map]
      rfl
    · rw [Descriptor.setterType?, Option.isSome_map]
      rfl

end Usual

open Sample in
/-- A kiosk lists the home of its till, and has no size: reading it fails, as does writing it. -/
theorem introspection_agrees_kiosk :
    "home" ∈ (writable (kiosk "A" [])).getterNames (.standard market) ∧
    Unserved .getter ((writable (kiosk "A" [])).read (.standard market) (.ofString "size")) ∧
    Unserved .setter ((writable (kiosk "A" [])).write (.standard market) (.ofString "size") none).2 := by
  have arranged : ∀ m, (kiosk "A" []).view = .map m → m.Arranged := nofun
  have home := introspection_agrees (n := writable (kiosk "A" [])) (Context.usual_standard market) rfl rfl
    arranged (by decide : '.' ∉ "home".toList) (by decide)
  have size := introspection_agrees (n := writable (kiosk "A" [])) (Context.usual_standard market) rfl rfl
    arranged (by decide : '.' ∉ "size".toList) (by decide)
  exact ⟨(home.2.2.1 rfl).1.1 rfl, size.1.1 rfl, (size.2.1 rfl none).1 rfl⟩

end Navigator

end ObjectGraph
