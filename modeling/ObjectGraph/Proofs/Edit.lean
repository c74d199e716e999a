import ObjectGraph.Navigator
import ObjectGraph.Proofs.Place

/-! Edits run: what an action on an object answers and what it leaves behind.

An action answers with a result or an error, and leaves an object in both cases. Acting on a lent
part answers as the action on the part does and leaves the whole with the part put back.
-/

set_option autoImplicit false
namespace ObjectGraph
namespace Edit

variable {ε δ α β : Type}

def outcome (edit : Edit ε α) (o : Obj) : Except ε α :=
  match edit o with
  | .ok a _ => .ok a
  | .error e _ => .error e

/-- What the action leaves of an object, after a failure too. -/
def after (edit : Edit ε α) (o : Obj) : Obj :=
  match edit o with
  | .ok _ o' => o'
  | .error _ o' => o'

section Apply
variable (o : Obj)

@[simp] theorem pure_apply (a : α) : (pure a : Edit ε α) o = .ok a o := rfl

@[simp] theorem throw_apply (e : ε) : (throw e : Edit ε α) o = .error e o := rfl

@[simp] theorem get_apply : (get : Edit ε Obj) o = .ok o o := rfl

@[simp] theorem set_apply (new : Obj) : (set new : Edit ε PUnit) o = .ok ⟨⟩ new := rfl

theorem bind_apply (edit : Edit ε α) (next : α → Edit ε β) : (edit >>= next) o =
    match edit o with
    | .ok a o' => next a o'
    | .error e o' => .error e o' := by
  simp only [bind, EStateM.bind]
  cases edit o <;> rfl

@[simp] theorem ofExcept_ok_apply (a : α) : (ofExcept (.ok a) : Edit ε α) o = .ok a o := rfl

@[simp] theorem ofExcept_error_apply (e : ε) : (ofExcept (.error e) : Edit ε α) o = .error e o := rfl

theorem mapError_apply (f : ε → δ) (edit : Edit ε α) : edit.mapError f o =
    match edit o with
    | .ok a o' => .ok a o'
    | .error e o' => .error (f e) o' := rfl

theorem inside_apply (place : Place) (part : Obj) (edit : Edit ε α) : inside place part edit o =
    match edit part with
    | .ok a part' => .ok a (o.replaceAt place part')
    | .error e part' => .error e (o.replaceAt place part') := rfl

end Apply

variable {o : Obj}

theorem lent_of_at? {place : Place} {part : Obj} (found : o.at? place = some part)
    (edit missing : Edit ε α) : lent place edit missing o = inside place part edit o := by
  simp only [lent, bind_apply, get_apply, found]

theorem outcome_lent {place : Place} {part : Obj} (found : o.at? place = some part)
    (edit missing : Edit ε α) : (lent place edit missing).outcome o = edit.outcome part := by
  simp only [outcome, lent_of_at? found, inside_apply]
  cases edit part <;> rfl

theorem after_lent {place : Place} {part : Obj} (found : o.at? place = some part)
    (edit missing : Edit ε α) :
    (lent place edit missing).after o = o.replaceAt place (edit.after part) := by
  simp only [after, lent_of_at? found, inside_apply]
  cases edit part <;> rfl

theorem inside_append {place : Place} {part : Obj} (found : o.at? place = some part) (below : Place)
    (inner : Obj) (edit : Edit ε α) :
    inside (place ++ below) inner edit o = inside place part (inside below inner edit) o := by
  simp only [inside_apply]
  cases edit inner <;> simp only [Obj.replaceAt_append found]

theorem lent_ok {place : Place} {part o' : Obj} {a : α} {edit missing : Edit ε α}
    (found : o.at? place = some part) : lent place edit missing o = .ok a o' ↔
      ∃ part', edit part = .ok a part' ∧ o.replaceAt place part' = o' := by
  rw [lent_of_at? found, inside_apply]
  cases edit part <;> simp [and_assoc]

@[simp] theorem lent_nil (edit missing : Edit ε α) : lent [] edit missing = edit := by
  funext o
  rw [lent_of_at? rfl, inside_apply]
  cases edit o <;> rfl

def onward (next : Edit ε Unit) : Option Place → Edit ε Unit
  | none => return ()
  | some place => lent place next (return ())

/-- What is done inside a part goes on there as it does in the whole. -/
theorem inside_onward {part : Obj} {base : Place} (held : o.at? base = some part)
    (first : Edit ε (Option Place)) (next : Edit ε Unit) :
    inside base part (first >>= onward next) o =
      (inside base part (do return (← first).map (base ++ ·)) >>= onward next) o := by
  simp only [inside_apply, bind_apply]
  rcases first part with ⟨place, part'⟩ | ⟨e, part'⟩
  · cases place with
    | none => rfl
    | some place =>
      have put := Obj.at?_replaceAt_self part' held
      simp only [pure_apply, Option.map_some, onward, lent, bind_apply, get_apply,
        Obj.at?_replaceAt_append part' held]
      cases inner : part'.at? place with
      | none => rfl
      | some child =>
        simp only [inside_append put, inside_apply]
        cases next child <;> simp only [Obj.replaceAt_replaceAt _ _ held]
  · rfl

end Edit

namespace Navigator

variable {n : Navigator} {o : Obj}

theorem obj?_withObj (found : n.obj? = some o) (o' : Obj) : (n.withObj o').obj? = some o' := by
  cases n <;> first | rfl | cases found

theorem changeable?_cases (found : n.obj? = some o) :
    n.changeable? = none ∨ n.changeable? = some o := by
  cases n with
  | absent => cases found
  | readOnly => exact .inl rfl
  | writable | owned => exact .inr found

theorem changeable?_withObj (changeable : n.changeable? = some o) (o' : Obj) :
    (n.withObj o').changeable? = some o' := by
  cases n <;> first | rfl | cases changeable

theorem obj?_of_changeable (changeable : n.changeable? = some o) : n.obj? = some o := by
  cases n <;> first | exact changeable | cases changeable

theorem withObj_self (found : n.obj? = some o) : n.withObj o = n := by
  cases n <;> cases found <;> rfl

@[simp] theorem withObj_withObj (n : Navigator) (o o' : Obj) :
    (n.withObj o).withObj o' = n.withObj o' := by
  cases n <;> rfl

section Runs
variable {α : Type} {operation : String} {action : Edit AccessError α} {a : α} {o' : Obj}

theorem edit_of_fixed (fixed : n.changeable? = none) (operation : String) (action : Edit AccessError α) :
    n.edit operation action = (n, .error (.unsupported n.typeName operation)) := by
  simp only [edit, fixed]

theorem edit_of_changeable (changeable : n.changeable? = some o) (operation : String)
    (action : Edit AccessError α) :
    n.edit operation action = (n.withObj (action.after o), action.outcome o) := by
  simp only [edit, changeable, Edit.after, Edit.outcome]
  cases action o <;> rfl

/-- An action changes the object of a navigator as it does, or is refused and changes nothing. -/
theorem edit_cases (found : n.obj? = some o) (operation : String) (action : Edit AccessError α) :
    n.edit operation action = (n, .error (.unsupported n.typeName operation)) ∨
      n.edit operation action = (n.withObj (action.after o), action.outcome o) := by
  rcases changeable?_cases found with fixed | changeable
  · exact .inl (edit_of_fixed fixed operation action)
  · exact .inr (edit_of_changeable changeable operation action)

theorem changeable_of_edit (found : n.obj? = some o)
    (succeeded : (n.edit operation action).2 = .ok a) :
    n.changeable? = some o ∧ ∃ o', action o = .ok a o' := by
  rcases changeable?_cases found with fixed | changeable
  · rw [edit_of_fixed fixed] at succeeded
    cases succeeded
  · refine ⟨changeable, ?_⟩
    simp only [edit, changeable] at succeeded
    cases ran : action o with
    | error => rw [ran] at succeeded; cases succeeded
    | ok _ o' => rw [ran] at succeeded; cases succeeded; exact ⟨o', rfl⟩

theorem edit_of_ok (changeable : n.changeable? = some o) (ran : action o = .ok a o') :
    n.edit operation action = (n.withObj o', .ok a) := by
  simp only [edit, changeable, ran]

theorem obj?_edit {P : Obj → Prop} (found : n.obj? = some o) (operation : String) (before : P o)
    (after : P (action.after o)) :
    ∃ o', (n.edit operation action).1.obj? = some o' ∧ P o' := by
  rcases edit_cases found operation action with refused | ran
  · exact ⟨o, by rw [refused, found], before⟩
  · exact ⟨_, by rw [ran, obj?_withObj found], after⟩

end Runs

end Navigator

end ObjectGraph
