import ObjectGraph.Proofs.Embedding
import ObjectGraph.Proofs.Invocation

/-! Properties that an embedded parent contributes.

A bean answers a name that its own class does not declare by the members that serve it in the embedded
parent, along a route that is one step longer. So whatever a path that starts with the name comes to,
it comes to in the parent, and the rest of the bean stays as it is.
-/

set_option autoImplicit false
namespace ObjectGraph

/-- The step leads to the parent, whose members serve the name in the object as well. -/
structure Context.Inherits (ctx : Context) (step : Upcast) (o parent : Obj) (name : String) : Prop
    extends step.Leads o parent where
  getter? : (ctx.descriptorOf o).getter? name =
    ((ctx.descriptorOf parent).getter? name).map (Invoker.below step)
  setter? : (ctx.descriptorOf o).setter? name =
    ((ctx.descriptorOf parent).setter? name).map (Invoker.below step)

theorem Invoker.upToType_ensureBorrowable (i : Invoker) (step : Upcast) (type type' : String) :
    UpToType type' (i.ensureBorrowable type) ((i.below step).ensureBorrowable type') := by
  unfold ensureBorrowable
  rw [show (i.below step).canBorrow = i.canBorrow from rfl]
  by_cases can : i.canBorrow
  · rw [if_pos can, if_pos can]
  · rw [if_neg can, if_neg can]
    exact .renamed (i.failed .borrow type (.noMutableAccess i.name))

theorem Context.upToType_createMissing (ctx : Context) (s : Segment) (property : String) (t : Ty)
    (parent o : Obj) : UpToType o.typeName (ctx.createMissing parent s property t)
      (ctx.createMissing o s property t) :=
  .mapError _ fun _ => rfl

inductive SameAccessor (step : Upcast) (o : Obj) :
    Except AccessError Invoker → Except AccessError Invoker → Prop where
  | missing (e : AccessError) : SameAccessor step o (.error e) (.error (e.renamed o.typeName))
  | found (i : Invoker) : SameAccessor step o (.ok i) (.ok (i.below step))

theorem Lifts.accessor {step : Upcast} {o : Obj} {slot : Slot} {α β : Type} {f : α → β}
    {r r' : Except AccessError Invoker} {next : Invoker → Edit AccessError α}
    {next' : Invoker → Edit AccessError β} {part : Obj} (both : SameAccessor step o r r')
    (onward : ∀ i, Lifts o slot f (next i part) (next' (i.below step) (o.withPart slot part))) :
    Lifts o slot f ((Edit.ofExcept r >>= next) part)
      ((Edit.ofExcept r' >>= next') (o.withPart slot part)) := by
  cases both with
  | missing e => exact .renamed e part
  | found i => exact onward i

theorem SameAccessor.of_option {step : Upcast} {o : Obj} (accessor : Accessor) (type name : String)
    (found : Option Invoker) : SameAccessor step o
      (match found with
        | some i => .ok i
        | none => .error (.accessorNotFound accessor type name))
      (match found.map (Invoker.below step) with
        | some i => .ok i
        | none => .error (.accessorNotFound accessor o.typeName name)) := by
  cases found with
  | none => exact .missing (.accessorNotFound accessor type name)
  | some i => exact .found i

theorem Context.ty_descriptorOf (ctx : Context) (o : Obj) : (ctx.descriptorOf o).ty = o.ty := by
  unfold descriptorOf descriptor
  cases ctx.schema.lineage? o.ty <;> rfl

namespace Context.Inherits

variable {ctx : Context} {step : Upcast} {o parent : Obj} {name : String}
  (inherits : ctx.Inherits step o parent name)
include inherits

theorem getter : SameAccessor step o ((ctx.descriptorOf parent).getter name)
    ((ctx.descriptorOf o).getter name) := by
  unfold Descriptor.getter
  rw [inherits.getter?, ty_descriptorOf, ty_descriptorOf]
  exact .of_option .getter _ name _

theorem setter : SameAccessor step o ((ctx.descriptorOf parent).setter name)
    ((ctx.descriptorOf o).setter name) := by
  unfold Descriptor.setter
  rw [inherits.setter?, ty_descriptorOf, ty_descriptorOf]
  exact .of_option .setter _ name _

theorem upToType_readProperty : UpToType o.typeName (BeanAccess.readProperty ctx parent name)
    (BeanAccess.readProperty ctx o name) := by
  have both := inherits.getter
  unfold BeanAccess.readProperty
  generalize (ctx.descriptorOf parent).getter name = r at both
  generalize (ctx.descriptorOf o).getter name = r' at both
  cases both with
  | missing e => exact .renamed e
  | found i =>
    have read := i.upToType_read inherits.toLeads parent
    rw [inherits.withPart_parent] at read
    exact read

theorem lifts_borrowProperty : Lifts o (.field step.slot) (Option.map (Slot.field step.slot :: ·))
    (BeanAccess.borrowProperty ctx name parent)
    (BeanAccess.borrowProperty ctx name (o.withPart (.field step.slot) parent)) := by
  simp only [BeanAccess.borrowProperty, Edit.bind_apply _ get, Edit.get_apply,
    descriptorOf_congr (Obj.ty_withPart o _ _)]
  apply Lifts.accessor inherits.getter
  intro i
  exact i.lifts_borrow inherits.toLeads parent

theorem lifts_writeProperty (v : Option Obj) : Lifts o (.field step.slot) id
    (BeanAccess.writeProperty ctx name v parent)
    (BeanAccess.writeProperty ctx name v (o.withPart (.field step.slot) parent)) := by
  simp only [BeanAccess.writeProperty, Edit.bind_apply _ get, Edit.get_apply,
    descriptorOf_congr (Obj.ty_withPart o _ _)]
  apply Lifts.accessor inherits.setter
  intro i
  exact i.lifts_write inherits.toLeads parent v

theorem lifts_instantiateProperty {s : Segment} (named : s.name = name) :
    Lifts o (.field step.slot) (Slot.field step.slot :: ·)
      (BeanAccess.instantiateProperty ctx s parent)
      (BeanAccess.instantiateProperty ctx s (o.withPart (.field step.slot) parent)) := by
  simp only [BeanAccess.instantiateProperty, Edit.bind_apply _ get, Edit.get_apply, named,
    descriptorOf_congr (Obj.ty_withPart o _ _), Obj.typeName_withPart,
    createMissing_congr ctx (Obj.typeName_withPart o _ _)]
  apply Lifts.accessor inherits.setter
  intro j
  apply Lifts.accessor inherits.getter
  intro i
  apply Lifts.ofExcept (i.upToType_ensureBorrowable step parent.typeName o.typeName)
  intro _
  apply Lifts.ofExcept (upToType_createMissing ctx s name j.valueType parent o)
  intro created
  apply Lifts.bind (j.lifts_write inherits.toLeads parent (some created))
  intro _ part
  apply Lifts.bind (i.lifts_borrow inherits.toLeads part)
  intro place part
  cases place with
  | none => exact .renamed (.notBorrowable s.text parent.typeName name) part
  | some place => exact .ok place part

end Context.Inherits

namespace Segment

variable {s : Segment} {o old parent : Obj} {slot : Slot} (held : o.part? slot = some old)
  (named : s.name ≠ "") {lendName : Edit AccessError (Option Place)}

theorem upToType_fetch {type : String} {r r' : Except AccessError (Option Value)} (parent o : Obj)
    (named : s.name ≠ "") (both : UpToType type r r') :
    UpToType type (s.fetch parent r) (s.fetch o r') := by
  cases s.shape with
  | name plain =>
    rw [fetch_name plain, fetch_name plain]
    exact both
  | key _ own => exact absurd own named
  | both indexed other =>
    rw [fetch_other indexed other, fetch_other indexed other]
    cases both with
    | same e => exact .same e
    | renamed e => exact .renamed e
    | ok value => exact .refl _

variable (lends : Lifts o slot (Option.map (slot :: ·)) (lendName parent)
  (lendName (o.withPart slot parent)))
include held named lends

theorem lifts_lend : Lifts o slot (Option.map (slot :: ·)) (s.lend lendName parent)
    (s.lend lendName (o.withPart slot parent)) := by
  unfold lend containerPlace
  rw [if_neg named]
  cases s.isIndexed with
  | false => exact lends
  | true =>
    apply Lifts.bind lends
    intro place part
    cases place with
    | none => exact .ok none part
    | some place =>
      apply Lifts.bind (Lifts.lent held place (.ok none part))
      intro below part
      have places : (below.map (place ++ ·)).map (slot :: ·) = below.map (slot :: place ++ ·) := by
        rw [Option.map_map]
        rfl
      exact places ▸ .ok _ part

omit held in
theorem lifts_existingContainer : Lifts o slot (slot :: ·) (s.existingContainer lendName parent)
    (s.existingContainer lendName (o.withPart slot parent)) := by
  unfold existingContainer containerPlace
  rw [if_neg named]
  apply Lifts.bind lends
  intro place part
  cases place with
  | none => exact .same _ part
  | some place => exact .ok place part

omit held in
theorem lifts_enter {α β : Type} {f : α → β} {byKey : Place → Edit AccessError α}
    {byKey' : Place → Edit AccessError β} {byName : Edit AccessError α} {byName' : Edit AccessError β}
    (keyed : ∀ place part, Lifts o slot f (byKey place part)
      (byKey' (slot :: place) (o.withPart slot part)))
    (plain : Lifts o slot f (byName parent) (byName' (o.withPart slot parent))) :
    Lifts o slot f (s.enter lendName byKey byName parent)
      (s.enter lendName byKey' byName' (o.withPart slot parent)) := by
  unfold enter
  cases s.isIndexed with
  | false => exact plain
  | true => exact Lifts.bind (lifts_existingContainer named lends) keyed

end Segment

namespace Context.Inherits

variable {ctx : Context} {step : Upcast} {o parent : Obj} {s : Segment}
  (inherits : ctx.Inherits step o parent s.name) (named : s.name ≠ "")
  (chosen : ctx.adapter parent = .ok .bean) (chosen' : ctx.adapter o = .ok .bean)
include inherits named chosen chosen'

theorem upToType_readFrom (rest : List Segment) :
    UpToType o.typeName (ctx.readFrom parent s rest) (ctx.readFrom o s rest) := by
  have first : UpToType o.typeName (BeanAccess.read ctx parent s) (BeanAccess.read ctx o s) := by
    rw [BeanAccess.read_eq, BeanAccess.read_eq]
    exact Segment.upToType_fetch parent o named inherits.upToType_readProperty
  cases rest with
  | nil =>
    rw [readFrom_of_adapter chosen, readFrom_of_adapter chosen']
    exact first
  | cons next rest =>
    simp only [readFrom, chosen, chosen']
    apply UpToType.bind first
    intro v
    rfl

theorem lifts_step (creates : Bool) :
    Lifts o (.field step.slot) (Option.map (Slot.field step.slot :: ·)) (ctx.step s creates parent)
      (ctx.step s creates (o.withPart (.field step.slot) parent)) := by
  have read := upToType_readFrom inherits named chosen chosen' []
  rw [readFrom_of_adapter chosen, readFrom_of_adapter chosen', ← inherits.withPart_parent,
    Obj.typeName_withPart] at read
  rw [← inherits.withPart_parent] at chosen'
  have lends := inherits.lifts_borrowProperty
  simp only [Context.step, Edit.bind_apply _ get, Edit.get_apply, chosen, chosen',
    Obj.typeName_withPart, Edit.bind_apply _ (Edit.ofExcept (.ok _)), Edit.ofExcept_ok_apply]
  -- From here both sides follow what is read, which is the same for the parent and for the child.
  apply Lifts.ofExcept read
  intro v
  cases v with
  | some v =>
    apply Lifts.bind (Segment.lifts_lend inherits.held named lends)
    intro place part
    cases place with
    | none => exact .renamed (.notBorrowable s.text parent.typeName s.name) part
    | some place => exact .ok (some place) part
  | none =>
    cases creates with
    | false => exact .ok none parent
    | true =>
      have made : Lifts o (.field step.slot) (Slot.field step.slot :: ·)
          (BeanAccess.instantiate ctx s parent)
          (BeanAccess.instantiate ctx s (o.withPart (.field step.slot) parent)) := by
        rw [BeanAccess.instantiate_eq]
        apply Segment.lifts_enter named lends
        · intro place part
          apply Lifts.bind (Lifts.lent inherits.held place (.same _ part))
          intro below part
          exact .ok (place ++ below) part
        · exact inherits.lifts_instantiateProperty rfl
      apply Lifts.bind made
      intro place part
      exact .ok (some place) part

theorem lifts_writeFrom (v : Option Obj) (rest : List Segment) :
    Lifts o (.field step.slot) id (ctx.writeFrom v s rest parent)
      (ctx.writeFrom v s rest (o.withPart (.field step.slot) parent)) := by
  cases rest with
  | nil =>
    rw [← inherits.withPart_parent] at chosen'
    simp only [writeFrom, Edit.bind_apply _ get, Edit.get_apply, chosen, chosen',
      Edit.bind_apply _ (Edit.ofExcept (.ok _)), Edit.ofExcept_ok_apply]
    apply Segment.lifts_enter named inherits.lifts_borrowProperty
    · intro place part
      exact Lifts.lent inherits.held place (.same _ part)
    · exact inherits.lifts_writeProperty v
  | cons next rest =>
    -- From the place that the first segment leads to, both writes go on with the same part.
    unfold writeFrom
    apply Lifts.bind (lifts_step inherits named chosen chosen' v.isSome)
    intro place part
    cases place with
    | none => exact .ok () part
    | some place => exact Lifts.lent inherits.held place (.ok () part)

end Context.Inherits

/-! What the parent's lineage serves -/

/-- No method of the class stands for the property, and no field has its name. -/
structure Class.Undeclared (c : Class) (namer : PropertyNamer) (property : String) : Prop where
  methods : ∀ m ∈ c.methods,
    m.readProperty? namer ≠ some property ∧ m.writtenProperty? namer ≠ some property
  fields : ∀ f ∈ c.fields, f.name ≠ property

def Invoker.Shifts (members : List Upcast → Class → List Invoker) : Prop :=
  ∀ step route c, members (step :: route) c = (members route c).map (Invoker.below step)

namespace Lineage

variable {own : Class} {p : Parent} {parents : List Parent} {property : String}

theorem routes_cons (step : Upcast) (reached : List Upcast) (c : Class) (parents : List Parent) :
    routes (step :: reached) c parents =
      (routes reached c parents).map fun entry => (step :: entry.1, entry.2) := by
  induction parents generalizing reached c with
  | nil => rfl
  | cons p parents ih => simp only [routes, List.map_cons, List.cons_append, ih]

theorem find?_inherited (members : List Upcast → Class → List Invoker) (shifts : Invoker.Shifts members)
    (undeclared : ∀ i ∈ members [] own, i.property ≠ property) :
    ((Lineage.mk own (p :: parents)).classes.flatMap fun (route, c) => members route c).find?
        (·.property == property) =
      (((Lineage.mk p.cls parents).classes.flatMap fun (route, c) => members route c).find?
        (·.property == property)).map (Invoker.below ⟨own.target, p.slot, p.cls.name⟩) := by
  have none : (members [] own).find? (·.property == property) = none := by
    apply List.find?_eq_none.mpr
    intro i member same
    exact undeclared i member (beq_iff_eq.mp same)
  simp only [classes, routes, List.nil_append, List.flatMap_cons, List.find?_append, none,
    Option.none_or, routes_cons, List.flatMap_map]
  have shifted : ((routes [] p.cls parents).flatMap fun entry =>
      members (⟨own.target, p.slot, p.cls.name⟩ :: entry.1) entry.2) =
      ((routes [] p.cls parents).flatMap fun entry => members entry.1 entry.2).map
        (Invoker.below ⟨own.target, p.slot, p.cls.name⟩) := by
    rw [List.map_flatMap]
    congr 1
    funext entry
    exact shifts _ _ _
  rw [shifted, List.find?_map]
  rfl

variable (p : Parent) (parents : List Parent)

theorem find?_method_inherited {claim : Method → Option String}
    (path : Class → Method → String → MutablePath)
    (unclaimed : ∀ m ∈ own.methods, claim m ≠ some property) :
    let methods (route : List Upcast) (c : Class) := c.methods.filterMap fun m =>
      (claim m).map fun claimed => Invoker.mk claimed route c.target (.method m (path c m claimed))
    ((Lineage.mk own (p :: parents)).classes.flatMap fun (route, c) => methods route c).find?
        (·.property == property) =
      (((Lineage.mk p.cls parents).classes.flatMap fun (route, c) => methods route c).find?
        (·.property == property)).map (Invoker.below ⟨own.target, p.slot, p.cls.name⟩) := by
  intro methods
  apply find?_inherited methods
  · intro step route c
    dsimp only [methods]
    rw [List.map_filterMap]
    congr 1
    funext m
    rw [Option.map_map]
    rfl
  · intro i member
    obtain ⟨m, mMember, made⟩ := List.mem_filterMap.mp member
    obtain ⟨claimed, claims, rfl⟩ := Option.map_eq_some_iff.mp made
    intro same
    exact unclaimed m mMember (same ▸ claims)

theorem find?_field_inherited (select : Field → Bool) (unnamed : ∀ f ∈ own.fields, f.name ≠ property) :
    let fields (route : List Upcast) (c : Class) := (c.fields.filter select).map fun f =>
      Invoker.mk f.name route c.target (.field f)
    ((Lineage.mk own (p :: parents)).classes.flatMap fun (route, c) => fields route c).find?
        (·.property == property) =
      (((Lineage.mk p.cls parents).classes.flatMap fun (route, c) => fields route c).find?
        (·.property == property)).map (Invoker.below ⟨own.target, p.slot, p.cls.name⟩) := by
  intro fields
  apply find?_inherited fields
  · intro step route c
    dsimp only [fields]
    rw [List.map_map]
    rfl
  · intro i member
    obtain ⟨f, fMember, rfl⟩ := List.mem_map.mp member
    exact unnamed f (List.mem_filter.mp fMember).1

end Lineage

namespace Descriptor

variable {own : Class} {p : Parent} {parents : List Parent} {namer : PropertyNamer} {property : String}
  (undeclared : own.Undeclared namer property) (ty ty' : Ty)
include undeclared

theorem getter?_inherited : (build namer ty (some ⟨own, p :: parents⟩)).getter? property =
    ((build namer ty' (some ⟨p.cls, parents⟩)).getter? property).map
      (Invoker.below ⟨own.target, p.slot, p.cls.name⟩) := by
  have methods := Lineage.find?_method_inherited p parents (fun c m => c.mutablePath m.name)
    fun m member => (undeclared.methods m member).1
  have fields := Lineage.find?_field_inherited p parents (fun f => namer.isValid f.name)
    undeclared.fields
  rw [getter?_build, getter?_build, Lineage.readers, Lineage.readers, List.find?_append,
    List.find?_append, Option.map_or]
  exact congr (congrArg Option.or methods) fields

theorem setter?_inherited : (build namer ty (some ⟨own, p :: parents⟩)).setter? property =
    ((build namer ty' (some ⟨p.cls, parents⟩)).setter? property).map
      (Invoker.below ⟨own.target, p.slot, p.cls.name⟩) := by
  have methods := Lineage.find?_method_inherited p parents (fun _ _ _ => .none)
    fun m member => (undeclared.methods m member).2
  have fields := Lineage.find?_field_inherited p parents
    (fun f => namer.isValid f.name && !f.readonly) undeclared.fields
  rw [setter?_build, setter?_build, Lineage.writers, Lineage.writers, List.find?_append,
    List.find?_append, Option.map_or]
  exact congr (congrArg Option.or methods) fields

end Descriptor

namespace Schema

def SharesParents (s : Schema) : Prop :=
  ∀ type bean p parents, s.bean? type = some bean → bean.lineage.parents = p :: parents →
    ∃ parent parentBean, p.cls.target = .bean parent ∧ s.bean? parent = some parentBean ∧
      parentBean.lineage = ⟨p.cls, parents⟩

variable {s : Schema} {o : Obj} {type : String} {bean : BeanType} {p : Parent} {parents : List Parent}
  {name : String}

/-- A well-typed bean holds its parent, and leaves to it the names that its own class does not declare. -/
theorem WellEmbedded.inherits_of_undeclared (ctx : Context) (embedded : ctx.schema.WellEmbedded)
    (shared : ctx.schema.SharesParents) (typed : ctx.schema.WellTyped o) (isBean : o.ty = .bean type)
    (found : ctx.schema.bean? type = some bean) (embeds : bean.lineage.parents = p :: parents)
    (undeclared : bean.lineage.own.Undeclared ctx.namer name) :
    ∃ parent parentType, parent.ty = .bean parentType ∧
      ctx.Inherits ⟨bean.lineage.own.target, p.slot, p.cls.name⟩ o parent name := by
  have chain := embedded type bean found
  obtain ⟨parentType, parentBean, target, parentFound, same⟩ := shared type bean p parents found embeds
  rw [embeds] at chain
  cases chain with
  | @parent _ parentType' _ _ _ layout slot fits layoutFound slotFound isParent always _ rest =>
  -- The class of the parent belongs to one type, by the layout and by the schema alike.
  have one : parentType' = parentType := by
    have targets := rest.fits.target
    rw [target] at targets
    exact (Target.bean.inj targets).symm
  subst one
  obtain ⟨fields, rfl⟩ := bean_of_ty isBean
  obtain ⟨part, held, conforms⟩ := typed.part?_of_slot layoutFound slotFound always
  have partTy : part.ty = .bean parentType' := (isParent ▸ conforms).ty_eq rfl
  have child : ctx.schema.lineage? (Obj.bean type fields).ty =
      some ⟨bean.lineage.own, p :: parents⟩ := by
    rw [isBean, ← embeds]
    simp only [lineage?, found, Option.map_some]
  have parent : ctx.schema.lineage? part.ty = some ⟨p.cls, parents⟩ := by
    simp only [partTy, lineage?, parentFound, Option.map_some, same]
  refine ⟨part, parentType', partTy, ⟨?_, held⟩, ?_, ?_⟩
  · rw [fits.target]
    exact beq_self_eq_true type
  · rw [Context.descriptorOf, Context.descriptorOf, Context.descriptor, Context.descriptor, child, parent]
    exact Descriptor.getter?_inherited undeclared _ _
  · rw [Context.descriptorOf, Context.descriptorOf, Context.descriptor, Context.descriptor, child, parent]
    exact Descriptor.setter?_inherited undeclared _ _

end Schema

theorem Context.adapter_bean {s : Schema} {o : Obj} {type : String} (isBean : o.ty = .bean type)
    (unadapted : s.adapter? o = none) : (standard s).adapter o = .ok .bean := by
  obtain ⟨fields, rfl⟩ := Schema.bean_of_ty isBean
  simp only [adapter, resolve, show (standard s).schema = s from rfl, unadapted]
  rfl

theorem Navigator.fixed_withObj {n : Navigator} (fixed : n.changeable? = none) (o : Obj) :
    (n.withObj o).changeable? = none := by
  cases n <;> first | rfl | cases fixed

/-- A path that starts with a name that the class of a bean does not declare reads and writes as in the
embedded parent. The bean keeps everything but the parent, and errors may name its type instead. -/
theorem Navigator.inherits {s : Schema} {n : Navigator} {o : Obj} {path : Path} {type : String}
    {bean : BeanType} {p : Parent} {parents : List Parent} (embedded : s.WellEmbedded)
    (shared : s.SharesParents) (unadapted : ∀ o, s.adapter? o = none) (found : n.obj? = some o)
    (typed : s.WellTyped o) (isBean : o.ty = .bean type) (beanFound : s.bean? type = some bean)
    (embeds : bean.lineage.parents = p :: parents) (named : path.first.name ≠ "")
    (undeclared : bean.lineage.own.Undeclared .bean path.first.name) :
    ∃ parent, o.part? (.field p.slot) = some parent ∧
      UpToType o.typeName ((n.withObj parent).read (.standard s) path) (n.read (.standard s) path) ∧
      ∀ v, UpToType o.typeName ((n.withObj parent).write (.standard s) path v).2
          (n.write (.standard s) path v).2 ∧
        ∃ parent', ((n.withObj parent).write (.standard s) path v).1 = n.withObj parent' ∧
          (n.write (.standard s) path v).1 = n.withObj (o.withPart (.field p.slot) parent') := by
  obtain ⟨parent, parentType, parentIsBean, inherits⟩ :=
    Schema.WellEmbedded.inherits_of_undeclared (.standard s) embedded shared typed isBean beanFound
      embeds undeclared
  have chosen := Context.adapter_bean parentIsBean (unadapted parent)
  have chosen' := Context.adapter_bean isBean (unadapted o)
  have foundParent := obj?_withObj found parent
  have whole : o.withPart (.field p.slot) parent = o := inherits.withPart_parent
  refine ⟨parent, inherits.held, ?_, ?_⟩
  · simp only [read, found, foundParent]
    exact inherits.upToType_readFrom named chosen chosen' path.rest
  · intro v
    have lifts := inherits.lifts_writeFrom named chosen chosen' v path.rest
    -- A navigator that may not be changed refuses both writes, each with the type of its own object.
    rcases changeable?_cases found with fixed | changeable
    · have fixedParent := fixed_withObj fixed parent
      simp only [write, edit_of_fixed fixed, edit_of_fixed fixedParent]
      have unsupported : AccessError.unsupported n.typeName "writes" =
          (AccessError.unsupported (n.withObj parent).typeName "writes").renamed o.typeName := by
        simp only [AccessError.renamed, typeName, found, Option.map_some, Option.getD_some]
      rw [unsupported]
      exact ⟨.renamed _, parent, rfl, by rw [whole, withObj_self found]⟩
    · have changeableParent := changeable?_withObj changeable parent
      have outcome := lifts.outcome
      have after := lifts.after
      rw [whole] at outcome after
      simp only [write, edit_of_changeable changeable, edit_of_changeable changeableParent,
        withObj_withObj]
      exact ⟨outcome, _, rfl, congrArg n.withObj after⟩

namespace Sample

theorem market_unadapted (o : Obj) : market.adapter? o = none := by
  cases o with
  | bean type fields =>
    cases found : market.bean? type with
    | none => simp only [Schema.adapter?, found, Option.bind_none]
    | some bean =>
      simp only [Schema.adapter?, found, Option.bind_some]
      rcases market_cases found with ⟨_, rfl⟩ | ⟨_, rfl⟩ | ⟨_, rfl⟩ <;> rfl
  | _ => rfl

theorem market_sharesParents : market.SharesParents := by
  intro type bean p parents found embeds
  rcases market_cases found with ⟨_, rfl⟩ | ⟨_, rfl⟩ | ⟨_, rfl⟩
  · cases embeds
  · cases embeds
  · cases embeds
    exact ⟨"fx::Till", tillType, rfl, rfl, rfl⟩

end Sample

open Sample in
/-- A kiosk makes the home of its till where the till would. -/
theorem Navigator.inherits_kiosk :
    let n := writable (kiosk "A" [])
    let path := Path.ofString "home.zip"
    ∃ parent, (kiosk "A" []).part? (.field "till") = some parent ∧
      UpToType "fx::Kiosk" ((n.withObj parent).read (.standard market) path)
        (n.read (.standard market) path) ∧
      ∀ v, UpToType "fx::Kiosk" ((n.withObj parent).write (.standard market) path v).2
          (n.write (.standard market) path v).2 ∧
        ∃ parent', ((n.withObj parent).write (.standard market) path v).1 = n.withObj parent' ∧
          (n.write (.standard market) path v).1 =
            n.withObj ((kiosk "A" []).withPart (.field "till") parent') := by
  have first : (Path.ofString "home.zip").first.name = "home" := by decide
  have named : (Path.ofString "home.zip").first.name ≠ "" := by decide
  have undeclared : kioskType.lineage.own.Undeclared .bean (Path.ofString "home.zip").first.name := by
    constructor
    · intro m member
      cases member
    · intro f member
      cases List.mem_singleton.mp member
      rw [first]
      decide
  exact inherits market_wellEmbedded market_sharesParents market_unadapted rfl (wellTyped_kiosk "A") rfl rfl
    rfl named undeclared

open Sample in
example : ((Navigator.writable (kiosk "A" [])).write (.standard market) (.ofString "home.zip")
      (some (.int .u32 7))).1 =
    .writable ((kiosk "A" []).withPart (.field "till") (.bean "fx::Till"
      [("site", some (.bean "fx::Home" [("city", none), ("zip", some (.int .u32 7))])),
        ("coins", some (.list .vec (.int .u8) []))])) := rfl

end ObjectGraph
