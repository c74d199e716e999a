import ObjectGraph.Proofs.Signatures

/-! Lists of flags, as they are written.

What a list of known flags looks like is stated here apart from the reader: flags divided by commas, each
a known name, with a path behind it if the flag has a value. The reader answers with the flags of such a
list, and attributes are refused for the first of them that is none.
-/

set_option autoImplicit false
namespace ObjectGraph.Declaration

section FirstError
variable {ε α β σ : Type} {error : ε}

theorem bind_eq_error {first : Except ε α} {next : α → Except ε β} :
    (first >>= next) = .error error ↔
      first = .error error ∨ ∃ value, first = .ok value ∧ next value = .error error := by
  cases first <;> simp [bind, Except.bind]

theorem map_eq_ok_iff {f : α → β} {made : Except ε α} {result : β} :
    made.map f = .ok result ↔ ∃ value, made = .ok value ∧ f value = result := by
  cases made <;> simp [Except.map]

theorem map_eq_error_iff {f : α → β} {made : Except ε α} :
    made.map f = .error error ↔ made = .error error := by
  cases made <;> simp [Except.map]

theorem mapError_eq_ok_iff {f : ε → α} {made : Except ε β} {result : β} :
    made.mapError f = .ok result ↔ made = .ok result := by
  cases made <;> simp [Except.mapError]

theorem mapError_eq_error_iff {f : ε → α} {made : Except ε β} {cause : α} :
    made.mapError f = .error cause ↔ ∃ error, made = .error error ∧ f error = cause := by
  cases made <;> simp [Except.mapError]

theorem mapM_eq_error_iff {f : α → Except ε β} {inputs : List α} :
    inputs.mapM f = .error error ↔ ∃ before input after, inputs = before ++ input :: after ∧
      (∀ earlier ∈ before, ∃ output, f earlier = .ok output) ∧ f input = .error error := by
  induction inputs with
  | nil => simp [pure, Except.pure]
  | cons input inputs ih =>
    simp only [List.mapM_cons, bind_eq_error, ih, pure, Except.pure, reduceCtorEq, and_false, exists_false,
      or_false]
    constructor
    · rintro (failed | ⟨output, made, before, failing, after, rfl, earlier, failed⟩)
      · exact ⟨[], input, inputs, rfl, nofun, failed⟩
      · exact ⟨input :: before, failing, after, rfl, List.forall_mem_cons.2 ⟨⟨output, made⟩, earlier⟩,
          failed⟩
    · rintro ⟨before, failing, after, same, earlier, failed⟩
      rcases List.cons_eq_append_iff.1 same with ⟨rfl, here⟩ | ⟨before, rfl, there⟩
      · cases here
        exact .inl failed
      · obtain ⟨⟨output, made⟩, earlier⟩ := List.forall_mem_cons.1 earlier
        exact .inr ⟨output, made, before, failing, after, there, earlier, failed⟩

theorem foldlM_eq_error_iff {f : σ → α → Except ε σ} {start : σ} {inputs : List α} :
    inputs.foldlM f start = .error error ↔ ∃ before input after state,
      inputs = before ++ input :: after ∧ before.foldlM f start = .ok state ∧
        f state input = .error error := by
  induction inputs generalizing start with
  | nil => simp [pure, Except.pure]
  | cons input inputs ih =>
    simp only [List.foldlM_cons, bind_eq_error, ih]
    constructor
    · rintro (failed | ⟨next, taken, before, failing, after, state, rfl, reached, failed⟩)
      · exact ⟨[], input, inputs, start, rfl, rfl, failed⟩
      · exact ⟨input :: before, failing, after, state, rfl,
          bind_eq_ok.2 ⟨next, taken, reached⟩, failed⟩
    · rintro ⟨before, failing, after, state, same, reached, failed⟩
      rcases List.cons_eq_append_iff.1 same with ⟨rfl, here⟩ | ⟨before, rfl, there⟩
      · cases here
        cases reached
        exact .inl failed
      · obtain ⟨next, taken, reached⟩ := bind_eq_ok.1 reached
        exact .inr ⟨next, taken, before, failing, after, state, there, reached, failed⟩

end FirstError

namespace Flags

variable {α : Type} {place : FlagPlace} {known : String → Option (FlagForm α)}
  {tokens rest : List Token} {flag : α} {flags : List α}

/-- The tokens start with a known flag: its name, or its name and a path behind an equals sign. -/
inductive Starts (known : String → Option (FlagForm α)) : List Token → α → List Token → Prop where
  | plain {name : String} {flag : α} (rest : List Token) : known name = some (.plain flag) →
    Starts known (.word name :: rest) flag rest
  | valued {name : String} {make : ItemPath → α} (isJoined : Bool) {path : ItemPath}
    {tokens rest : List Token} : known name = some (.valued make) →
    ItemPath.read tokens = .ok (path, rest) →
    Starts known (.word name :: .mark '=' isJoined :: tokens) (make path) rest

/-- The tokens are known flags divided by commas, perhaps with a comma behind the last one. -/
inductive Lists (known : String → Option (FlagForm α)) : List Token → List α → Prop where
  | nil : Lists known [] []
  | last {tokens : List Token} {flag : α} : Starts known tokens flag [] → Lists known tokens [flag]
  | cons {tokens rest : List Token} {flag : α} {flags : List α} {isJoined : Bool} :
    Starts known tokens flag (.mark ',' isJoined :: rest) → Lists known rest flags →
    Lists known tokens (flag :: flags)

inductive Ends : List Token → Prop where
  | nil : Ends []
  | comma (isJoined : Bool) (rest : List Token) : Ends (.mark ',' isJoined :: rest)

theorem readNames_ends (ends : Ends rest) : readNames rest = .ok ([], rest) := by
  cases ends <;> rfl

theorem eq_of_readNames (read : readNames tokens = .ok ([], rest)) : rest = tokens := by
  unfold readNames at read
  split at read
  · obtain ⟨⟨names, rest⟩, _, made⟩ := bind_eq_ok.1 read
    cases made
  · cases read
  · cases read
    rfl

theorem eq_of_readName {name : String} (read : readName tokens = .ok (some name, rest)) :
    tokens = .word name :: rest := by
  unfold readName at read
  split at read
  · obtain ⟨_, _, made⟩ := bind_eq_ok.1 read
    cases made
  · obtain ⟨⟨names, others⟩, relative, made⟩ := bind_eq_ok.1 read
    unfold readRelative at relative
    split at relative
    · obtain ⟨⟨further, others⟩, named, made'⟩ := bind_eq_ok.1 relative
      cases made'
      cases further with
      | nil =>
        cases made
        rw [eq_of_readNames named]
      | cons _ _ => cases made
    all_goals cases relative

theorem readName_of_word (name : String) (bare : readNames rest = .ok ([], rest)) :
    readName (.word name :: rest) = .ok (some name, rest) := by
  simp only [readName, readRelative, bare]
  rfl

theorem starts_of_readFlag (read : readFlag place known tokens = .ok (flag, rest)) :
    Starts known tokens flag rest := by
  obtain ⟨⟨name?, others⟩, named, found⟩ := bind_eq_ok.1 read
  cases name? with
  | none => cases found
  | some name =>
    cases eq_of_readName named
    dsimp only [Option.bind_some] at found
    split at found
    · cases found
    next isKnown =>
      cases found
      exact .plain _ isKnown
    next make isKnown =>
      unfold readValue at found
      split at found
      next isJoined tokens =>
        cases value : ItemPath.read tokens with
        | error e =>
          rw [value] at found
          cases found
        | ok value' =>
          rw [value] at found
          cases found
          exact .valued isJoined isKnown value
      · cases found

theorem readFlag_of_starts (starts : Starts known tokens flag rest) (ends : Ends rest) :
    readFlag place known tokens = .ok (flag, rest) := by
  cases starts with
  | @plain name _ _ isKnown =>
    rw [readFlag, readName_of_word name (readNames_ends ends)]
    simp only [bind, Except.bind, Option.bind_some, isKnown]
    rfl
  | @valued name make isJoined path value _ isKnown read =>
    have bare : readNames (.mark '=' isJoined :: value) = .ok ([], .mark '=' isJoined :: value) := rfl
    rw [readFlag, readName_of_word name bare]
    simp only [bind, Except.bind, Option.bind_some, isKnown, readValue, read]
    rfl

def readBehind (place : FlagPlace) (known : String → Option (FlagForm α)) (flag : α) :
    List Token → Except FlagError (List α)
  | [] => .ok [flag]
  | .mark ',' _ :: rest => (readList place known rest).map (flag :: ·)
  | _ => .error (.grammar (.mark ","))

theorem readNonempty_eq : readNonempty place known tokens =
    (readFlag place known tokens >>= fun found => readBehind place known found.1 found.2) := by
  rw [readNonempty]
  split
  next failed =>
    rw [failed]
    rfl
  next found =>
    rw [found]
    rfl
  next found =>
    rw [found]
    rfl
  next flag isJoined rest more found =>
    have following : readList place known rest = readNonempty place known rest :=
      if_neg (mt List.isEmpty_iff.1 more)
    rw [found]
    show _ = (readList place known rest).map (flag :: ·)
    rw [following]
    cases readNonempty place known rest <;> rfl
  next found? noEnd _ noComma found =>
    obtain ⟨flag, rest⟩ := found?
    rw [found]
    show _ = readBehind place known flag rest
    unfold readBehind
    split
    · exact (noEnd flag rfl).elim
    · exact (noComma flag _ _ rfl).elim
    · rfl

theorem readList_of_readFlag (found : readFlag place known tokens = .ok (flag, rest)) :
    readList place known tokens = readBehind place known flag rest := by
  cases tokens with
  | nil => cases found
  | cons token tokens =>
    rw [readList, List.isEmpty_cons, if_neg Bool.false_ne_true, readNonempty_eq, found]
    rfl

theorem readList_of_failed {error : FlagError} (some : tokens ≠ [])
    (failed : readFlag place known tokens = .error error) : readList place known tokens = .error error := by
  rw [readList, if_neg (mt List.isEmpty_iff.1 some), readNonempty_eq, failed]
  rfl

/-- What is read is listed, which follows flag by flag: a list behind a comma is shorter. -/
theorem lists_of_readList {tokens : List Token} {flags : List α}
    (read : readList place known tokens = .ok flags) : Lists known tokens flags := by
  cases found : readFlag place known tokens with
  | error error =>
    by_cases none : tokens = []
    · subst none
      cases read
      exact .nil
    · rw [readList_of_failed none found] at read
      cases read
  | ok result =>
    obtain ⟨flag, rest⟩ := result
    rw [readList_of_readFlag found] at read
    unfold readBehind at read
    split at read
    next =>
      cases read
      exact .last (starts_of_readFlag found)
    next isJoined others =>
      obtain ⟨following, behind, rfl⟩ := map_eq_ok_iff.1 read
      exact .cons (starts_of_readFlag found) (lists_of_readList behind)
    next => cases read
termination_by tokens.length
decreasing_by
  have := readFlag_length found
  simp only [List.length_cons] at this
  omega

theorem readList_of_lists (lists : Lists known tokens flags) :
    readList place known tokens = .ok flags := by
  induction lists with
  | nil => rfl
  | last starts => exact readList_of_readFlag (readFlag_of_starts starts .nil)
  | cons starts _ ih =>
    rw [readList_of_readFlag (readFlag_of_starts starts (.comma _ _)), readBehind, ih]
    rfl

theorem readList_iff : readList place known tokens = .ok flags ↔ Lists known tokens flags :=
  ⟨lists_of_readList, readList_of_lists⟩

/-- The first fault in a list: what should be a flag and is none, a flag without a comma before what
follows it, or the first fault behind a flag and its comma. -/
inductive Breaks (place : FlagPlace) (known : String → Option (FlagForm α)) : List Token → FlagError → Prop where
  | flag {tokens : List Token} {error : FlagError} : tokens ≠ [] →
    readFlag place known tokens = .error error → Breaks place known tokens error
  | noComma {tokens rest : List Token} {flag : α} : readFlag place known tokens = .ok (flag, rest) →
    ¬ Ends rest → Breaks place known tokens (.grammar (.mark ","))
  | later {tokens rest : List Token} {flag : α} {isJoined : Bool} {error : FlagError} :
    Starts known tokens flag (.mark ',' isJoined :: rest) → Breaks place known rest error →
    Breaks place known tokens error

theorem breaks_of_readList {tokens : List Token} {error : FlagError}
    (failed : readList place known tokens = .error error) : Breaks place known tokens error := by
  -- Induction on the tokens that are left: behind a flag and its comma there are fewer.
  cases found : readFlag place known tokens with
  | error cause =>
    by_cases none : tokens = []
    · subst none
      cases failed
    · rw [readList_of_failed none found] at failed
      cases failed
      exact .flag none found
  | ok result =>
    obtain ⟨flag, rest⟩ := result
    rw [readList_of_readFlag found] at failed
    unfold readBehind at failed
    split at failed
    next => cases failed
    next isJoined others =>
      have later := breaks_of_readList (map_eq_error_iff.1 failed)
      exact .later (starts_of_readFlag found) later
    next noEnd noComma =>
      cases failed
      refine .noComma found fun ends => ?_
      cases ends with
      | nil => exact noEnd rfl
      | comma => exact noComma _ _ rfl
termination_by tokens.length
decreasing_by
  have := readFlag_length found
  simp only [List.length_cons] at this
  omega

theorem readList_of_breaks {error : FlagError} (breaks : Breaks place known tokens error) :
    readList place known tokens = .error error := by
  induction breaks with
  | flag some failed => exact readList_of_failed some failed
  | noComma found noEnd =>
    rw [readList_of_readFlag found]
    unfold readBehind
    split
    · exact (noEnd .nil).elim
    · exact (noEnd (.comma _ _)).elim
    · rfl
  | later starts _ ih =>
    rw [readList_of_readFlag (readFlag_of_starts starts (.comma _ _)), readBehind, ih]
    rfl

theorem readList_eq_error_iff {error : FlagError} :
    readList place known tokens = .error error ↔ Breaks place known tokens error :=
  ⟨breaks_of_readList, readList_of_breaks⟩

end Flags

namespace Attribute

variable {α : Type} {place : FlagPlace} {known : String → Option (FlagForm α)}

/-- The attribute is a list of these flags. -/
def Lists (known : String → Option (FlagForm α)) (given : Attribute) (flags : List α) : Prop :=
  ∃ tokens, given.content = .list tokens ∧ Flags.Lists known tokens flags

theorem readAttribute_iff {given : Attribute} {flags : List α} :
    Flags.readAttribute place known given = .ok flags ↔ given.Lists known flags := by
  unfold Flags.readAttribute Lists
  cases given.content with
  | list tokens => simp [Flags.readList_iff]
  | _ => simp

theorem Lists.unique {given : Attribute} {flags others : List α} (lists : given.Lists known flags)
    (lists' : given.Lists known others) : flags = others :=
  Except.ok.inj (((@readAttribute_iff _ .type).2 lists).symm.trans (readAttribute_iff.2 lists'))

inductive Faulty (place : FlagPlace) (known : String → Option (FlagForm α)) (given : Attribute) :
    FlagError → Prop where
  | noList : given.content = .nothing → Faulty place known given .noList
  | value : given.content = .value → Faulty place known given .valueForList
  | list {tokens : List Token} {error : FlagError} : given.content = .list tokens →
    Flags.Breaks place known tokens error → Faulty place known given error

theorem readAttribute_eq_error_iff {given : Attribute} {error : FlagError} :
    Flags.readAttribute place known given = .error error ↔ given.Faulty place known error := by
  unfold Flags.readAttribute
  constructor
  · intro failed
    split at failed
    next tokens content => exact .list content (Flags.readList_eq_error_iff.1 failed)
    next content => cases failed; exact .noList content
    next content => cases failed; exact .value content
  · rintro (content | content | ⟨content, breaks⟩)
    · rw [content]
    · rw [content]
    · rw [content]
      exact Flags.readList_eq_error_iff.2 breaks

end Attribute

namespace Flags

variable {α : Type} {place : FlagPlace} {known : String → Option (FlagForm α)}
  {attributes : List Attribute}

def AllKnown (known : String → Option (FlagForm α)) (attributes : List Attribute) : Prop :=
  ∀ given ∈ attributes, given.listsFlags = true → ∃ flags, given.Lists known flags

def Listed (known : String → Option (FlagForm α)) (attributes : List Attribute) (flag : α) : Prop :=
  ∃ given ∈ attributes, given.listsFlags = true ∧ ∃ flags, given.Lists known flags ∧ flag ∈ flags

/-- The error is that of the first attribute for flags that is no list of known ones. -/
def FirstFault (place : FlagPlace) (known : String → Option (FlagForm α)) (attributes : List Attribute)
    (error : FlagError) : Prop :=
  ∃ before given after, attributes = before ++ given :: after ∧ AllKnown known before ∧
    given.listsFlags = true ∧ given.Faulty place known error

theorem ofAttributes_eq_ok_iff {flags : List α} : ofAttributes place known attributes = .ok flags ↔
    ∃ lists : List (List α), List.Forall₂ (Attribute.Lists known) (attributes.filter (·.listsFlags)) lists ∧
      lists.flatten = flags := by
  simp only [ofAttributes, bind_eq_ok, mapM_eq_ok_iff, Attribute.readAttribute_iff, pure, Except.pure,
    Except.ok.injEq]

/-- Flags are read where every attribute for them is a list of known ones. -/
theorem allKnown_iff : AllKnown known attributes ↔
    ∃ flags, ofAttributes place known attributes = .ok flags := by
  have each := @exists_mapM_eq_ok_iff _ _ _ (readAttribute place known) (attributes.filter (·.listsFlags))
  simp only [Attribute.readAttribute_iff, List.mem_filter, and_imp] at each
  rw [AllKnown, ← each]
  simp only [ofAttributes, bind_eq_ok, pure, Except.pure, Except.ok.injEq]
  constructor
  · rintro ⟨lists, read⟩
    exact ⟨_, lists, read, rfl⟩
  · rintro ⟨_, lists, read, -⟩
    exact ⟨lists, read⟩

theorem mem_flatten_iff {given : List Attribute} {lists : List (List α)}
    (each : List.Forall₂ (Attribute.Lists known) given lists) (flag : α) :
    flag ∈ lists.flatten ↔ ∃ one ∈ given, ∃ flags, one.Lists known flags ∧ flag ∈ flags := by
  induction each with
  | nil => simp
  | @cons one flags given lists listed _ ih =>
    rw [List.flatten_cons, List.mem_append, ih, List.exists_mem_cons_iff]
    refine or_congr_left ⟨fun among => ⟨flags, listed, among⟩, ?_⟩
    rintro ⟨flags', listed', among⟩
    rwa [listed.unique listed']

/-- The flags that are read are those that the attributes list. -/
theorem mem_iff_listed {flags : List α} (read : ofAttributes place known attributes = .ok flags) (flag : α) :
    flag ∈ flags ↔ Listed known attributes flag := by
  obtain ⟨lists, each, rfl⟩ := ofAttributes_eq_ok_iff.1 read
  simp only [mem_flatten_iff each, List.mem_filter, and_assoc]
  rfl

theorem ofAttributes_eq_error_iff {error : FlagError} :
    ofAttributes place known attributes = .error error ↔ FirstFault place known attributes error := by
  simp only [ofAttributes, bind_eq_error, mapM_eq_error_iff, Attribute.readAttribute_iff,
    Attribute.readAttribute_eq_error_iff, pure, Except.pure, reduceCtorEq, and_false, exists_false, or_false]
  constructor
  · rintro ⟨before, given, after, same, earlier, failed⟩
    obtain ⟨first, second, rfl, rfl, following⟩ := List.filter_eq_append_iff.1 same
    obtain ⟨between, others, rfl, none, flagged, -⟩ := List.filter_eq_cons_iff.1 following
    refine ⟨first ++ between, given, others, (List.append_assoc _ _ _).symm, ?_, flagged, failed⟩
    intro other member flagged'
    rcases List.mem_append.1 member with member | member
    · exact earlier other (List.mem_filter.2 ⟨member, flagged'⟩)
    · exact absurd flagged' (none other member)
  · rintro ⟨before, given, after, rfl, earlier, flagged, failed⟩
    refine ⟨before.filter (·.listsFlags), given, after.filter (·.listsFlags), ?_, ?_, failed⟩
    · rw [List.filter_append, List.filter_cons_of_pos flagged]
    · intro other member
      obtain ⟨member, flagged'⟩ := List.mem_filter.1 member
      exact earlier other member flagged'

theorem not_allKnown_iff :
    ¬ AllKnown known attributes ↔ ∃ error, FirstFault place known attributes error := by
  rw [@allKnown_iff _ place]
  simp only [← ofAttributes_eq_error_iff]
  cases ofAttributes place known attributes <;> simp

end Flags
end ObjectGraph.Declaration
