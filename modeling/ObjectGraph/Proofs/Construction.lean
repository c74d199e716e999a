import ObjectGraph.Proofs.Declared
import ObjectGraph.Proofs.Fitness
import ObjectGraph.Proofs.Resolution
import ObjectGraph.Sample.Members

/-! Making objects with arguments.

A constructor is selected by its parameter types alone, whether or not an argument may be absent, and the
first one that is declared with the types wins. Only then are the arguments counted and looked at, from
left to right, so an object is made just when the selected constructor takes all of them, and otherwise the
error is that of the count or of the first argument that does not fit.
-/

set_option autoImplicit false
namespace ObjectGraph

namespace Param

/-- What may be bound to the parameter: an object that conforms to its type, or nothing if that is allowed. -/
def Fits (p : Param) : Option Obj → Prop
  | none => p.nullable = true
  | some o => p.ty.Conforms o

def refusal (p : Param) : Option Obj → InvokeError
  | none => .nullArgument p.ty.slotName
  | some o => .incompatibleArgument p.ty.slotName o.typeName

variable {p : Param} {v : Option Obj} {params : List Param} {args : List (Option Obj)} {e : InvokeError}

theorem argument_of_fits (fits : p.Fits v) : p.ty.argument p.nullable v = .ok v := by
  cases v with
  | none => rw [Ty.argument, if_pos (show p.nullable = true from fits), Ty.optional]
  | some o =>
    have accepts : p.ty.accepts o = true := Ty.accepts_iff.mpr fits
    exact Ty.argument_of_accepts accepts p.nullable

theorem argument_of_misfit (misfit : ¬ p.Fits v) : p.ty.argument p.nullable v = .error (p.refusal v) := by
  cases v with
  | none =>
    have always : p.nullable = false := Bool.eq_false_iff.mpr misfit
    simp [Ty.argument, always, Ty.required, refusal, Except.map]
  | some o =>
    have rejects : p.ty.accepts o = false := by
      rw [Bool.eq_false_iff]
      exact fun accepts => misfit (Ty.accepts_iff.mp accepts)
    cases nullable : p.nullable <;>
      simp [Ty.argument, Ty.optional, Ty.required, Ty.convert, rejects, refusal, Except.map]

def AllFit (params : List Param) (args : List (Option Obj)) : Prop :=
  ∀ (i : Nat) p v, params[i]? = some p → args[i]? = some v → p.Fits v

/-- The error refuses the leftmost argument that does not fit the parameter of its position. -/
def FirstRefusal (params : List Param) (args : List (Option Obj)) (e : InvokeError) : Prop :=
  ∃ (i : Nat) (p : Param) (v : Option Obj), params[i]? = some p ∧ args[i]? = some v ∧ ¬ p.Fits v ∧
    e = p.refusal v ∧ AllFit (params.take i) args

theorem AllFit.cons (first : p.Fits v) (rest : AllFit params args) : AllFit (p :: params) (v :: args) := by
  rintro (_ | i) q w param arg
  · cases param
    cases arg
    exact first
  · exact rest i q w param arg

theorem FirstRefusal.cons (first : p.Fits v) (rest : FirstRefusal params args e) :
    FirstRefusal (p :: params) (v :: args) e := by
  obtain ⟨i, q, w, param, arg, misfit, refused, before⟩ := rest
  exact ⟨i + 1, q, w, param, arg, misfit, refused, by simpa using before.cons first⟩

theorem FirstRefusal.head (misfit : ¬ p.Fits v) : FirstRefusal (p :: params) (v :: args) (p.refusal v) :=
  ⟨0, p, v, rfl, rfl, misfit, rfl, by simp [AllFit]⟩

theorem AllFit.not_firstRefusal (fit : AllFit params args) : ¬ FirstRefusal params args e := by
  rintro ⟨i, p, v, param, arg, misfit, _⟩
  exact misfit (fit i p v param arg)

end Param

namespace Constructor

variable {c : Constructor} {params : List Param} {args : List (Option Obj)}

/-- Arguments as many as parameters are passed on if all of them fit, and else the first that does not is
refused. -/
theorem checkArgs_cases (length : args.length = params.length) :
    Param.AllFit params args ∧ checkArgs params args = .ok args ∨
      ∃ e, Param.FirstRefusal params args e ∧ checkArgs params args = .error e := by
  induction params generalizing args with
  | nil =>
    cases List.eq_nil_of_length_eq_zero length
    exact .inl ⟨by simp [Param.AllFit], rfl⟩
  | cons p params ih =>
    cases args with
    | nil => cases length
    | cons v args =>
      rw [checkArgs]
      by_cases first : p.Fits v
      · rw [Param.argument_of_fits first]
        rcases ih (Nat.succ.inj length) with ⟨fit, checked⟩ | ⟨e, refusal, checked⟩
        · exact .inl ⟨fit.cons first, by rw [checked]; rfl⟩
        · exact .inr ⟨e, refusal.cons first, by rw [checked]; rfl⟩
      · rw [Param.argument_of_misfit first]
        exact .inr ⟨p.refusal v, .head first, rfl⟩

/-- The constructor takes the arguments: there are as many as parameters, and each fits its parameter. -/
structure Takes (c : Constructor) (args : List (Option Obj)) : Prop where
  count : args.length = c.params.length
  fit : Param.AllFit c.params args

def Calls (c : Constructor) (function : List (Option Obj) → Obj) : Prop :=
  ∀ args, c.Takes args → c.build args = .ok (function args)

theorem invoke_of_takes {function : List (Option Obj) → Obj} (calls : c.Calls function)
    (takes : c.Takes args) : c.invoke args = .ok (function args) := by
  rcases checkArgs_cases takes.count with ⟨_, checked⟩ | ⟨e, refusal, _⟩
  · simp [invoke, takes.count, checked, calls args takes, bind, Except.bind]
  · exact absurd refusal takes.fit.not_firstRefusal

theorem invoke_of_count (other : args.length ≠ c.params.length) :
    c.invoke args = .error (.argumentCount c.params.length args.length) := by
  simp [invoke, other, bind, Except.bind, throw, throwThe, MonadExceptOf.throw]

theorem invoke_of_refusal (count : args.length = c.params.length) (refused : ¬ c.Takes args) :
    ∃ e, Param.FirstRefusal c.params args e ∧ c.invoke args = .error e := by
  rcases checkArgs_cases count with ⟨fit, _⟩ | ⟨e, refusal, checked⟩
  · exact absurd ⟨count, fit⟩ refused
  · exact ⟨e, refusal, by simp [invoke, count, checked, bind, Except.bind]⟩

theorem calls_of_builds (builds : ∀ args, c.Takes args → ∃ o, c.build args = .ok o) :
    ∃ function, c.Calls function := by
  refine ⟨fun args => (c.build args).toOption.getD default, ?_⟩
  intro args takes
  obtain ⟨o, built⟩ := builds args takes
  simp only [built]
  rfl

end Constructor

namespace ObjectFactory

variable {s : Schema} {type : String} {bean : BeanType} {types : List Ty} {args : List (Option Obj)}

theorem constructor?_eq_some_iff (found : s.bean? type = some bean) {c : Constructor} :
    s.constructor? (.bean type) types = some c ↔
      FirstIn (fun c => c.paramTypes = types) bean.lineage.own.constructors c := by
  simp only [Schema.constructor?, Schema.lineage?, found, Option.map_some, Option.bind_some]
  exact find?_eq_some_iff_firstIn fun _ => beq_iff_eq

theorem create_of_given (given : ¬(types = [] ∧ args = [])) :
    (standard s).create (.bean type) types args = (s.instantiateWith (.bean type) types args).mapError
      (.instantiationFailed type (describeTypes types) (describeArgs s.layouts args)) := by
  have some : (types.isEmpty && args.isEmpty) = false := by
    rw [Bool.eq_false_iff, ne_eq, Bool.and_eq_true, List.isEmpty_iff, List.isEmpty_iff]
    exact given
  simp only [standard, some, Bool.false_eq_true, if_false]
  rfl

theorem create_of_selected (found : s.bean? type = some bean) (given : ¬(types = [] ∧ args = []))
    {c : Constructor} (first : FirstIn (fun c => c.paramTypes = types) bean.lineage.own.constructors c) :
    (standard s).create (.bean type) types args = ((c.invoke args).mapError .constructor).mapError
      (.instantiationFailed type (describeTypes types) (describeArgs s.layouts args)) := by
  rw [create_of_given given, Schema.instantiateWith, (constructor?_eq_some_iff found).mpr first]

theorem create_of_takes (found : s.bean? type = some bean) (given : ¬(types = [] ∧ args = []))
    {c : Constructor} (first : FirstIn (fun c => c.paramTypes = types) bean.lineage.own.constructors c)
    {function : List (Option Obj) → Obj} (calls : c.Calls function) (takes : c.Takes args) :
    (standard s).create (.bean type) types args = .ok (function args) := by
  rw [create_of_selected found given first, c.invoke_of_takes calls takes]
  rfl

theorem create_of_count (found : s.bean? type = some bean) (given : ¬(types = [] ∧ args = []))
    {c : Constructor} (first : FirstIn (fun c => c.paramTypes = types) bean.lineage.own.constructors c)
    (other : args.length ≠ c.params.length) :
    (standard s).create (.bean type) types args = .error
      (.instantiationFailed type (describeTypes types) (describeArgs s.layouts args)
        (.constructor (.argumentCount c.params.length args.length))) := by
  rw [create_of_selected found given first, c.invoke_of_count other]
  rfl

theorem create_of_refusal (found : s.bean? type = some bean) (given : ¬(types = [] ∧ args = []))
    {c : Constructor} (first : FirstIn (fun c => c.paramTypes = types) bean.lineage.own.constructors c)
    (count : args.length = c.params.length) (refused : ¬ c.Takes args) :
    ∃ e, Param.FirstRefusal c.params args e ∧ (standard s).create (.bean type) types args = .error
      (.instantiationFailed type (describeTypes types) (describeArgs s.layouts args) (.constructor e)) := by
  obtain ⟨e, refusal, invoked⟩ := c.invoke_of_refusal count refused
  refine ⟨e, refusal, ?_⟩
  rw [create_of_selected found given first, invoked]
  rfl

theorem create_of_unselected (found : s.bean? type = some bean) (given : ¬(types = [] ∧ args = []))
    (absent : ¬ ∃ c, FirstIn (fun c => c.paramTypes = types) bean.lineage.own.constructors c) :
    (standard s).create (.bean type) types args = .error
      (.instantiationFailed type (describeTypes types) (describeArgs s.layouts args)
        .noMatchingConstructor) := by
  have unfound : s.constructor? (.bean type) types = none := by
    rw [Option.eq_none_iff_forall_ne_some]
    exact fun c same => absent ⟨c, (constructor?_eq_some_iff found).mp same⟩
  rw [create_of_given given, Schema.instantiateWith, unfound]
  rfl

/-- Where the constructors of a bean type call functions, an object is made of arguments just when the first
constructor with their types takes them, and then it is the object that the function makes of them. -/
theorem create_cases (found : s.bean? type = some bean)
    (generated : ∀ c ∈ bean.lineage.own.constructors, ∃ function, c.Calls function)
    (given : ¬(types = [] ∧ args = [])) :
    let created := (standard s).create (.bean type) types args
    let failed := AccessError.instantiationFailed type (describeTypes types) (describeArgs s.layouts args)
    let Selected := FirstIn (fun c => c.paramTypes = types) bean.lineage.own.constructors
    ((∃ o, created = .ok o) ↔ ∃ c, Selected c ∧ c.Takes args) ∧
    (∀ c, Selected c →
      (∀ function, c.Calls function → c.Takes args → created = .ok (function args)) ∧
      (args.length ≠ c.params.length →
        created = .error (failed (.constructor (.argumentCount c.params.length args.length)))) ∧
      (args.length = c.params.length → ¬ c.Takes args →
        ∃ e, Param.FirstRefusal c.params args e ∧ created = .error (failed (.constructor e)))) ∧
    ((∀ c ∈ bean.lineage.own.constructors, c.paramTypes ≠ types) →
      created = .error (failed .noMatchingConstructor)) := by
  intro created failed Selected
  refine ⟨⟨?_, ?_⟩, fun c first => ⟨?_, ?_, ?_⟩, ?_⟩
  · -- Whatever stands in the way of an object is an error of its own.
    rintro ⟨o, ok⟩
    by_cases any : ∃ c, Selected c
    · obtain ⟨c, first⟩ := any
      by_cases takes : c.Takes args
      · exact ⟨c, first, takes⟩
      · by_cases count : args.length = c.params.length
        · obtain ⟨e, _, error⟩ := create_of_refusal found given first count takes
          cases ok.symm.trans error
        · cases ok.symm.trans (create_of_count found given first count)
    · cases ok.symm.trans (create_of_unselected found given any)
  · rintro ⟨c, first, takes⟩
    obtain ⟨function, calls⟩ := generated c first.mem
    exact ⟨function args, create_of_takes found given first calls takes⟩
  · intro function calls takes
    exact create_of_takes found given first calls takes
  · exact create_of_count found given first
  · exact create_of_refusal found given first
  · intro absent
    exact create_of_unselected found given fun ⟨c, first⟩ => absent c first.mem first.accepted

end ObjectFactory

namespace Sample

open SlotDecl (always maybe)

def accountDecl : BeanDecl :=
  ⟨"fx::Account", "Account", [always "owner" .str, always "balance" (.int .i64), maybe "tag" .str], false,
    false, true⟩

def bankAccount : BeanType :=
  ⟨accountDecl.layout, .single (accountDecl.toClass [] accountConstructors), none, none⟩

def bank : Schema where
  bean? type := if type = "fx::Account" then some bankAccount else none

theorem fits_of_takes {name : String} {p q : Param} {build : List (Option Obj) → Except InvokeError Obj}
    {args : List (Option Obj)} (takes : (Constructor.mk name [p, q] build).Takes args) :
    ∃ v w, args = [v, w] ∧ p.Fits v ∧ q.Fits w := by
  have count := takes.count
  rcases args with _ | ⟨v, _ | ⟨w, _ | _⟩⟩ <;> cases count
  exact ⟨v, w, rfl, takes.fit 0 p v rfl rfl, takes.fit 1 q w rfl rfl⟩

theorem some_of_fits {t : Ty} {v : Option Obj} (fits : Param.Fits ⟨t, false⟩ v) :
    ∃ o, v = some o ∧ t.accepts o = true := by
  cases v with
  | none => cases fits
  | some o => exact ⟨o, rfl, Ty.accepts_iff.mpr fits⟩

theorem accountConstructors_call : ∀ c ∈ accountConstructors, ∃ function, c.Calls function := by
  intro c member
  refine Constructor.calls_of_builds fun args takes => ?_
  simp only [accountConstructors, List.mem_cons, List.not_mem_nil, or_false] at member
  rcases member with rfl | rfl | rfl | rfl | rfl | rfl | rfl
  · exact ⟨_, rfl⟩
  · obtain ⟨owner, v, rfl, _, fits⟩ := fits_of_takes takes
    obtain ⟨balance, rfl, _⟩ := some_of_fits fits
    exact ⟨_, rfl⟩
  · obtain ⟨owner, tag, rfl, _, _⟩ := fits_of_takes takes
    exact ⟨_, rfl⟩
  · exact ⟨_, rfl⟩
  · obtain ⟨owner, balance, rfl, _, _⟩ := fits_of_takes takes
    exact ⟨_, rfl⟩
  · obtain ⟨v, rfl⟩ := List.length_eq_one_iff.mp takes.count
    obtain ⟨value, rfl, _⟩ := some_of_fits (takes.fit 0 _ v rfl rfl)
    exact ⟨_, rfl⟩
  · obtain ⟨v, w, rfl, fits, fits'⟩ := fits_of_takes takes
    obtain ⟨list, rfl, accepts⟩ := some_of_fits fits
    obtain ⟨home, rfl, _⟩ := some_of_fits fits'
    cases list with
    | list => exact ⟨_, rfl⟩
    | _ => simp [Ty.accepts, Obj.kind] at accepts

end Sample

open Sample in
/-- Of two constructors that take a text and a number the first one opens the account; without the number
it is refused, and nothing makes an account of a flag. -/
theorem ObjectFactory.create_cases_account :
    let args := [some (.str "Ann"), some (.int .i64 5)]
    (∀ c ∈ accountConstructors, ∃ function, c.Calls function) ∧
    (∃ o, (standard bank).create (.bean "fx::Account") [.str, .int .i64] args = .ok o) ∧
    (∃ c e, c ∈ accountConstructors ∧ c.name = "open" ∧
      Param.FirstRefusal c.params [some (.str "Ann"), none] e ∧
      (standard bank).create (.bean "fx::Account") [.str, .int .i64] [some (.str "Ann"), none] =
        .error (.instantiationFailed "fx::Account" (describeTypes [.str, .int .i64])
          (describeArgs bank.layouts [some (.str "Ann"), none]) (.constructor e))) ∧
    (standard bank).create (.bean "fx::Account") [.bool] [some (.bool true)] =
      .error (.instantiationFailed "fx::Account" (describeTypes [.bool])
        (describeArgs bank.layouts [some (.bool true)]) .noMatchingConstructor) := by
  intro args
  have calls := accountConstructors_call
  have found : bank.bean? "fx::Account" = some bankAccount := rfl
  have given {t : Ty} {types : List Ty} {args : List (Option Obj)} : ¬(t :: types = [] ∧ args = []) := nofun
  let opening := accountConstructors[1]
  have first : FirstIn (fun c => c.paramTypes = [.str, .int .i64]) accountConstructors opening :=
    ⟨[accountConstructors[0]], accountConstructors.drop 2, rfl, rfl,
      by simp [accountConstructors, Constructor.paramTypes]⟩
  have text : Param.Fits ⟨.str, false⟩ (some (.str "Ann")) := Ty.accepts_iff.mp rfl
  have number : Param.Fits ⟨.int .i64, false⟩ (some (.int .i64 5)) := Ty.accepts_iff.mp rfl
  have takes : opening.Takes args := ⟨rfl, .cons text (.cons number (by simp [Param.AllFit]))⟩
  have refuses : ¬ opening.Takes [some (.str "Ann"), none] := by
    intro takes
    cases takes.fit 1 ⟨.int .i64, false⟩ none rfl rfl
  refine ⟨calls, ?_, ?_, ?_⟩
  · exact (create_cases found calls given).1.mpr ⟨opening, first, takes⟩
  · obtain ⟨e, refusal, failed⟩ := ((create_cases found calls given).2.1 opening first).2.2 rfl refuses
    exact ⟨opening, e, first.mem, rfl, refusal, failed⟩
  · refine (create_cases found calls given).2.2 ?_
    intro c member
    have types : accountConstructors.all (fun c => c.paramTypes != [.bool]) = true := by decide
    simpa using List.all_eq_true.mp types c member

end ObjectGraph
