import ObjectGraph.Proofs.WrittenTypes

/-! What the functions of a block are to its class.

A function is a member by its signature: by how it takes its object, by what else it takes and what it
returns, and by the words in front of it. The shapes of signatures are stated here as a reader of the
declaration knows them, and a block gives one member for each function of one of these shapes.
-/

set_option autoImplicit false
namespace ObjectGraph.Declaration

section Mapping
variable {ε α β : Type} {f : α → Except ε β} {inputs : List α}

theorem mapM_eq_ok_iff {outputs : List β} :
    inputs.mapM f = .ok outputs ↔ List.Forall₂ (f · = .ok ·) inputs outputs := by
  induction inputs generalizing outputs with
  | nil => simp only [List.mapM_nil, pure, Except.pure, Except.ok.injEq, List.forall₂_nil_left_iff,
      eq_comm]
  | cons input inputs ih =>
    simp only [List.mapM_cons, bind_eq_ok, ih, List.forall₂_cons_left_iff]
    constructor
    · rintro ⟨output, made, outputs, others, ⟨⟩⟩
      exact ⟨output, outputs, made, others, rfl⟩
    · rintro ⟨output, outputs, made, others, rfl⟩
      exact ⟨output, made, outputs, others, rfl⟩

theorem exists_mapM_eq_ok_iff :
    (∃ outputs, inputs.mapM f = .ok outputs) ↔ ∀ input ∈ inputs, ∃ output, f input = .ok output := by
  simp only [mapM_eq_ok_iff]
  induction inputs with
  | nil => simp
  | cons input inputs ih =>
    simp only [List.forall₂_cons_left_iff, List.forall_mem_cons, ← ih]
    constructor
    · rintro ⟨_, output, outputs, made, others, rfl⟩
      exact ⟨⟨output, made⟩, outputs, others⟩
    · rintro ⟨⟨output, made⟩, outputs, others⟩
      exact ⟨_, output, outputs, made, others, rfl⟩

end Mapping

open TypeExpr (Manner)

namespace FunctionDecl

/-- A member may call the function. -/
structure Callable (decl : FunctionDecl) : Prop where
  concrete : decl.typeParameters = []
  notAsync : .word "async" ∉ decl.modifiers
  notUnsafe : .word "unsafe" ∉ decl.modifiers
  notVariadic : decl.isVariadic = false

/-- Everyone may call the function, on an object taken this way and with arguments of these types. -/
structure Accessible (decl : FunctionDecl) (receiver : Receiver) (parameters : List TypeExpr) :
    Prop where
  callable : decl.Callable
  isPublic : decl.visibility = .everyone
  receiver : decl.receiver = receiver
  parameters : decl.parameters = parameters

/-- The function makes an object of the block's type from values of these types, each of which may be
missing or not. -/
structure Makes (owner : String) (decl : FunctionDecl) (values : List (TypeExpr × Bool)) : Prop where
  callable : decl.Callable
  receiver : decl.receiver = .none
  result : ∃ result, decl.result = some result ∧ result.IsOwn owner
  parameters : List.Forall₂ (fun written value => written.Carries .owned value.1 value.2)
    decl.parameters values

/-- The function hands out a value of its object, or a shared reference to one. -/
structure Reads (decl : FunctionDecl) (manner : Manner) (value : TypeExpr) (nullable : Bool) :
    Prop where
  accessible : decl.Accessible .shared []
  notExclusive : manner ≠ .exclusive
  result : ∃ result, decl.result = some result ∧ result.Carries manner value nullable

/-- The function lends a value of its object to be changed. -/
structure Lends (decl : FunctionDecl) (value : TypeExpr) (nullable : Bool) : Prop where
  accessible : decl.Accessible .exclusive []
  result : ∃ result, decl.result = some result ∧ result.Carries .exclusive value nullable

def ReturnsNothing (decl : FunctionDecl) : Prop :=
  ∀ result, decl.result = some result → ∃ endsWithComma, result = .tuple [] endsWithComma

/-- The function takes a value for its object, and returns nothing. -/
structure Takes (decl : FunctionDecl) (value : TypeExpr) (nullable : Bool) : Prop where
  accessible : ∃ parameter, decl.Accessible .exclusive [parameter] ∧
    parameter.Carries .owned value nullable
  result : decl.ReturnsNothing

inductive Gives (self : String) (decl : FunctionDecl) : MemberForm → Prop where
  | constructor {values : List (TypeExpr × Bool)} : decl.Makes self values →
    Gives self decl (.constructor ⟨decl.name, values.map fun value => ⟨.ofType value.1, value.2⟩⟩)
  | getter {manner : Manner} {value : TypeExpr} {nullable : Bool} : decl.Reads manner value nullable →
    Gives self decl
      (.accessor ⟨.getter, decl.name, .ofType value, nullable, .ofGetter manner value⟩)
  | getterMut {value : TypeExpr} {nullable : Bool} : decl.Lends value nullable →
    Gives self decl
      (.accessor ⟨.getterMut, decl.name, .ofType value, nullable, .ofCompanion nullable⟩)
  | setter {value : TypeExpr} {nullable : Bool} : decl.Takes value nullable →
    Gives self decl
      (.accessor ⟨.setter, decl.name, .ofType value, nullable, .ofSetter nullable⟩)

variable {self : String} {decl : FunctionDecl} {result : TypeExpr} {form : MemberForm}

theorem isCallable_iff : decl.isCallable = true ↔ decl.Callable := by
  simp only [isCallable, Bool.and_eq_true, Bool.not_eq_true', List.isEmpty_iff,
    List.contains_eq_mem, decide_eq_false_iff_not]
  constructor
  · rintro ⟨⟨⟨concrete, notVariadic⟩, notAsync⟩, notUnsafe⟩
    exact ⟨concrete, notAsync, notUnsafe, notVariadic⟩
  · rintro ⟨concrete, notAsync, notUnsafe, notVariadic⟩
    exact ⟨⟨⟨concrete, notVariadic⟩, notAsync⟩, notUnsafe⟩

theorem returned?_eq_some_iff :
    decl.returned? = some result ↔ decl.result = some result ∧ result.isUnit = false := by
  rw [returned?, Option.filter_eq_some_iff, Bool.not_eq_true']

theorem returned?_eq_none_iff : decl.returned? = none ↔ decl.ReturnsNothing := by
  simp only [returned?, Option.filter_eq_none_iff, Bool.not_eq_true', Bool.not_eq_false,
    TypeExpr.isUnit_iff, ReturnsNothing]

theorem accessor_eq_some_iff {found : Option AccessorForm} :
    (if decl.isPublic = true then found.map MemberForm.accessor else none) = some form ↔
      decl.visibility = .everyone ∧ ∃ accessor, found = some accessor ∧ .accessor accessor = form := by
  rw [Option.ite_none_right_eq_some, Option.map_eq_some_iff, isPublic, decide_eq_true_iff]

/-- A function is a member exactly if it has one of the shapes. -/
theorem member?_eq_some_iff : decl.member? self = some form ↔ decl.Gives self form := by
  rw [member?, Option.ite_none_right_eq_some, isCallable_iff]
  constructor
  · rintro ⟨callable, found⟩
    unfold signatureMember? at found
    -- The cases are the rows of the match: what makes, reads, lends, takes, and the rest.
    split at found
    next receiver returned =>
      obtain ⟨own, making⟩ := Option.ite_none_right_eq_some.1 found
      obtain ⟨_, made, rfl⟩ := Option.map_eq_some_iff.1 making
      obtain ⟨values, parameters, rfl⟩ := MemberForm.constructor?_eq_some_iff.1 made
      exact .constructor ⟨callable, receiver,
        ⟨_, (returned?_eq_some_iff.1 returned).1, TypeExpr.isSelf_iff.1 own⟩, parameters⟩
    next receiver parameters returned =>
      obtain ⟨isPublic, _, read, rfl⟩ := accessor_eq_some_iff.1 found
      obtain ⟨manner, value, nullable, notExclusive, carries, rfl⟩ :=
        MemberForm.getter?_eq_some_iff.1 read
      exact .getter ⟨⟨callable, isPublic, receiver, parameters⟩, notExclusive,
        ⟨_, (returned?_eq_some_iff.1 returned).1, carries⟩⟩
    next receiver parameters returned =>
      obtain ⟨isPublic, _, lent, rfl⟩ := accessor_eq_some_iff.1 found
      obtain ⟨value, nullable, carries, rfl⟩ := MemberForm.getterMut?_eq_some_iff.1 lent
      exact .getterMut ⟨⟨callable, isPublic, receiver, parameters⟩,
        ⟨_, (returned?_eq_some_iff.1 returned).1, carries⟩⟩
    next receiver parameters returned =>
      obtain ⟨isPublic, _, taken, rfl⟩ := accessor_eq_some_iff.1 found
      obtain ⟨value, nullable, carries, rfl⟩ := MemberForm.setter?_eq_some_iff.1 taken
      exact .setter ⟨⟨_, ⟨callable, isPublic, receiver, parameters⟩, carries⟩,
        returned?_eq_none_iff.1 returned⟩
    · cases found
  · intro gives
    cases gives with
    | constructor makes =>
      obtain ⟨callable, receiver, ⟨result, written, own⟩, parameters⟩ := makes
      have returned := returned?_eq_some_iff.2 ⟨written, own.isUnit⟩
      have made : MemberForm.constructor? decl.name decl.parameters = some _ :=
        MemberForm.constructor?_eq_some_iff.2 ⟨_, parameters, rfl⟩
      simp only [signatureMember?, receiver, returned]
      exact ⟨callable, Option.ite_none_right_eq_some.2
        ⟨TypeExpr.isSelf_iff.2 own, Option.map_eq_some_iff.2 ⟨_, made, rfl⟩⟩⟩
    | getter reads =>
      obtain ⟨⟨callable, isPublic, receiver, parameters⟩, notExclusive, result, written, carries⟩ :=
        reads
      have returned := returned?_eq_some_iff.2 ⟨written, carries.isUnit⟩
      have read : MemberForm.getter? decl.name result = some _ :=
        MemberForm.getter?_eq_some_iff.2 ⟨_, _, _, notExclusive, carries, rfl⟩
      simp only [signatureMember?, receiver, parameters, returned]
      exact ⟨callable, accessor_eq_some_iff.2 ⟨isPublic, _, read, rfl⟩⟩
    | getterMut lends =>
      obtain ⟨⟨callable, isPublic, receiver, parameters⟩, result, written, carries⟩ := lends
      have returned := returned?_eq_some_iff.2 ⟨written, carries.isUnit⟩
      have lent : MemberForm.getterMut? decl.name result = some _ :=
        MemberForm.getterMut?_eq_some_iff.2 ⟨_, _, carries, rfl⟩
      simp only [signatureMember?, receiver, parameters, returned]
      exact ⟨callable, accessor_eq_some_iff.2 ⟨isPublic, _, lent, rfl⟩⟩
    | setter takes =>
      obtain ⟨⟨parameter, ⟨callable, isPublic, receiver, parameters⟩, carries⟩, nothing⟩ := takes
      have returned := returned?_eq_none_iff.2 nothing
      have taken : MemberForm.setter? decl.name parameter = some _ :=
        MemberForm.setter?_eq_some_iff.2 ⟨_, _, carries, rfl⟩
      simp only [signatureMember?, receiver, parameters, returned]
      exact ⟨callable, accessor_eq_some_iff.2 ⟨isPublic, _, taken, rfl⟩⟩

def Skipped (decl : FunctionDecl) : Prop :=
  ∃ flags, Flags.ofAttributes .method MethodFlag.ofName? decl.attributes = .ok flags ∧ .skip ∈ flags

def HasFlags (decl : FunctionDecl) : Prop :=
  ∃ flags, Flags.ofAttributes .method MethodFlag.ofName? decl.attributes = .ok flags

/-- What a function gives to its class is what the shape of its signature asks for: one member at the
most, and of a kind exactly if the function has the shape of the kind. A value may be missing exactly if
an option stands around its type. -/
structure Classified (owner : String) (decl : FunctionDecl) (members : List MemberForm) : Prop where
  length_le_one : members.length ≤ 1
  constructor_iff : ∀ nullables,
    (∃ form, .constructor form ∈ members ∧ form.parameters.map (·.isNullable) = nullables) ↔
      ∃ values, decl.Makes owner values ∧ values.map Prod.snd = nullables
  getter_iff : ∀ nullable,
    (∃ form, .accessor form ∈ members ∧ form.role = .getter ∧ form.isNullable = nullable) ↔
      ∃ manner value, decl.Reads manner value nullable
  getterMut_iff : ∀ nullable,
    (∃ form, .accessor form ∈ members ∧ form.role = .getterMut ∧ form.isNullable = nullable) ↔
      ∃ value, decl.Lends value nullable
  setter_iff : ∀ nullable,
    (∃ form, .accessor form ∈ members ∧ form.role = .setter ∧ form.isNullable = nullable) ↔
      ∃ value, decl.Takes value nullable

theorem classified_member? : decl.Classified self (decl.member? self).toList where
  length_le_one := by cases decl.member? self <;> simp
  constructor_iff nullables := by
    simp only [Option.mem_toList, member?_eq_some_iff]
    constructor
    · rintro ⟨form, gives, rfl⟩
      cases gives with
      | constructor makes => exact ⟨_, makes, by rw [List.map_map]; rfl⟩
    · rintro ⟨values, makes, rfl⟩
      exact ⟨_, .constructor makes, by rw [List.map_map]; rfl⟩
  getter_iff nullable := by
    simp only [Option.mem_toList, member?_eq_some_iff]
    constructor
    · rintro ⟨form, gives, role, rfl⟩
      cases gives with
      | getter reads => exact ⟨_, _, reads⟩
      | _ => cases role
    · rintro ⟨manner, value, reads⟩
      exact ⟨_, .getter reads, rfl, rfl⟩
  getterMut_iff nullable := by
    simp only [Option.mem_toList, member?_eq_some_iff]
    constructor
    · rintro ⟨form, gives, role, rfl⟩
      cases gives with
      | getterMut lends => exact ⟨_, lends⟩
      | _ => cases role
    · rintro ⟨value, lends⟩
      exact ⟨_, .getterMut lends, rfl, rfl⟩
  setter_iff nullable := by
    simp only [Option.mem_toList, member?_eq_some_iff]
    constructor
    · rintro ⟨form, gives, role, rfl⟩
      cases gives with
      | setter takes => exact ⟨_, takes⟩
      | _ => cases role
    · rintro ⟨value, takes⟩
      exact ⟨_, .setter takes, rfl, rfl⟩

theorem Classified.eq_singleton {members : List MemberForm} (classified : decl.Classified self members)
    (given : form ∈ members) : members = [form] := by
  obtain ⟨first, rfl⟩ := List.length_eq_one_iff.1
    (Nat.le_antisymm classified.length_le_one (List.length_pos_of_mem given))
  rw [List.mem_singleton.1 given]

theorem members_eq_ok_iff {members : List MemberForm} : decl.members self = .ok members ↔
    ∃ flags, Flags.ofAttributes .method MethodFlag.ofName? decl.attributes = .ok flags ∧
      members = if flags.contains .skip then [] else (decl.member? self).toList := by
  unfold FunctionDecl.members
  cases Flags.ofAttributes .method MethodFlag.ofName? decl.attributes with
  | error error => simp [Except.mapError, bind, Except.bind]
  | ok flags => simp [Except.mapError, bind, Except.bind, pure, Except.pure, eq_comm]

theorem hasFlags_iff (self : String) : decl.HasFlags ↔ ∃ members, decl.members self = .ok members := by
  simp only [members_eq_ok_iff]
  constructor
  · rintro ⟨flags, read⟩
    exact ⟨_, flags, read, rfl⟩
  · rintro ⟨_, flags, read, _⟩
    exact ⟨flags, read⟩

theorem flags_of_bare (bare : decl.attributes = []) :
    Flags.ofAttributes .method MethodFlag.ofName? decl.attributes = .ok [] := by
  rw [bare]
  rfl

theorem not_skipped_of_bare (bare : decl.attributes = []) : ¬ decl.Skipped := by
  rintro ⟨flags, read, skip⟩
  rw [flags_of_bare bare, Except.ok.injEq] at read
  subst read
  cases skip

theorem classified {members : List MemberForm} (given : decl.members self = .ok members) :
    (decl.Skipped → members = []) ∧ (¬ decl.Skipped → decl.Classified self members) := by
  obtain ⟨flags, read, rfl⟩ := members_eq_ok_iff.1 given
  constructor
  · rintro ⟨flags', read', skip⟩
    rw [read, Except.ok.injEq] at read'
    subst read'
    exact if_pos (List.contains_iff_mem.2 skip)
  · intro kept
    rw [if_neg fun skip => kept ⟨flags, read, List.contains_iff_mem.1 skip⟩]
    exact classified_member?

end FunctionDecl

namespace MethodBlock

variable {block : MethodBlock}

theorem ownerName_eq_ok_iff (inherent : block.interface = none) (concrete : block.typeParameters = [])
    {name : String} : block.ownerName = .ok name ↔ block.owner.name? = some name := by
  unfold ownerName
  rw [inherent, concrete]
  cases block.owner.name? with
  | none => simp [throw, throwThe, MonadExceptOf.throw]
  | some owner => simp [pure, Except.pure]

theorem members_eq_ok_iff (inherent : block.interface = none) (concrete : block.typeParameters = [])
    {members : List MemberForm} : block.members = .ok members ↔
      ∃ self, block.owner.name? = some self ∧ ∃ found : List (List MemberForm),
        block.functions.mapM (·.members self) = .ok found ∧ found.flatten = members := by
  simp only [MethodBlock.members, bind_eq_ok, ownerName_eq_ok_iff inherent concrete, pure, Except.pure,
    Except.ok.injEq]

/-- A block that belongs to a type alone is refused exactly if the type has no name or the flags of a
function cannot be read. Otherwise its members are those of its functions in order: a function that is
left out has none, and every other one has the member that the shape of its signature asks for. -/
theorem members_classified (inherent : block.interface = none) (concrete : block.typeParameters = []) :
    ((∃ members, block.members = .ok members) ↔
      (∃ self, block.owner.name? = some self) ∧ ∀ decl ∈ block.functions, decl.HasFlags) ∧
    ∀ self members, block.owner.name? = some self → block.members = .ok members →
      ∃ found : List (List MemberForm), members = found.flatten ∧
        List.Forall₂ (fun decl found => decl.members self = .ok found ∧ (decl.Skipped → found = []) ∧
          (¬ decl.Skipped → decl.Classified self found)) block.functions found := by
  constructor
  · constructor
    · rintro ⟨members, made⟩
      obtain ⟨self, named, found, each, -⟩ := (members_eq_ok_iff inherent concrete).1 made
      exact ⟨⟨self, named⟩, fun decl member =>
        (FunctionDecl.hasFlags_iff self).2 (exists_mapM_eq_ok_iff.1 ⟨found, each⟩ decl member)⟩
    · rintro ⟨⟨self, named⟩, flags⟩
      obtain ⟨found, each⟩ := exists_mapM_eq_ok_iff.2 fun decl member =>
        (FunctionDecl.hasFlags_iff self).1 (flags decl member)
      exact ⟨_, (members_eq_ok_iff inherent concrete).2 ⟨self, named, found, each, rfl⟩⟩
  · intro self members named made
    obtain ⟨self', named', found, each, rfl⟩ := (members_eq_ok_iff inherent concrete).1 made
    rw [named, Option.some.injEq] at named'
    subst named'
    refine ⟨found, rfl, (mapM_eq_ok_iff.1 each).imp fun decl found given => ?_⟩
    exact ⟨given, FunctionDecl.classified given⟩

def noteOpening : FunctionDecl :=
  ⟨"open", .none, [.named (.ofName "u8")], false, some (.named (.ofName "Self")), .inherited, [], [], []⟩

def noteTitle : FunctionDecl :=
  ⟨"title", .shared, [], false, some (.generic (.ofName "Option") ⟨false, false⟩
    [.type (.reference false none (.named (.ofName "str")))]), .everyone, [], [], []⟩

def noteDraft : FunctionDecl :=
  ⟨"draft", .shared, [], false, some (.named (.ofName "u8")), .everyone, [], [],
    [⟨[.word "bean"], .list [.word "skip"]⟩]⟩

def noteBlock : MethodBlock :=
  ⟨.named (.ofName "Note"), none, [],
    [.function noteOpening, .other, .function noteTitle, .function noteDraft]⟩

theorem flags_noteDraft :
    Flags.ofAttributes .method MethodFlag.ofName? noteDraft.attributes = .ok [.skip] := by
  simp only [noteDraft, Flags.ofAttributes, Attribute.listsFlags, List.filter_cons, List.filter_nil,
    beq_self_eq_true, if_true, List.mapM_cons, Flags.readAttribute, Flags.readList]
  -- The list of flags is read by well-founded recursion, which evaluation does not open.
  rw [Flags.readNonempty]
  rfl

theorem members_classified_note : noteBlock.interface = none ∧ noteBlock.typeParameters = [] ∧
    ∃ opening title, noteBlock.members = .ok [.constructor opening, .accessor title] ∧
      opening.parameters.map (·.isNullable) = [false] ∧ title.role = .getter ∧
      title.isNullable = true := by
  obtain ⟨succeeds, each⟩ := members_classified (rfl : noteBlock.interface = none) rfl
  obtain ⟨members, given⟩ := succeeds.2 ⟨⟨"Note", rfl⟩, by
    change ∀ decl ∈ [noteOpening, noteTitle, noteDraft], decl.HasFlags
    simp only [List.forall_mem_cons]
    exact ⟨⟨_, FunctionDecl.flags_of_bare rfl⟩, ⟨_, FunctionDecl.flags_of_bare rfl⟩,
      ⟨_, flags_noteDraft⟩, nofun⟩⟩
  obtain ⟨found, rfl, each⟩ := each "Note" members rfl given
  change List.Forall₂ _ [noteOpening, noteTitle, noteDraft] found at each
  obtain _ | ⟨⟨-, -, makes⟩, _ | ⟨⟨-, -, reads⟩, _ | ⟨⟨-, skipped, -⟩, _ | _⟩⟩⟩ := each
  have makes := makes (FunctionDecl.not_skipped_of_bare rfl)
  have reads := reads (FunctionDecl.not_skipped_of_bare rfl)
  have number : (TypeExpr.named (.ofName "u8")).Carries .owned (.named (.ofName "u8")) false :=
    .owned (.plain nofun) (.named _)
  obtain ⟨opening, makesIt, needed⟩ := (makes.constructor_iff [false]).2
    ⟨[(_, false)], ⟨⟨rfl, nofun, nofun, rfl⟩, rfl, ⟨_, rfl, .word⟩, .cons number .nil⟩, rfl⟩
  obtain ⟨title, readsIt, role, missing⟩ := (reads.getter_iff true).2
    ⟨.shared, .named (.ofName "str"), ⟨⟨rfl, nofun, nofun, rfl⟩, rfl, rfl, rfl⟩, nofun, _, rfl,
      .shared (.option (.mk _ _ rfl)) (.named _)⟩
  rw [makes.eq_singleton makesIt, reads.eq_singleton readsIt,
    skipped ⟨_, flags_noteDraft, .head _⟩] at given
  exact ⟨rfl, rfl, opening, title, given, needed, role, missing⟩

end MethodBlock
end ObjectGraph.Declaration
