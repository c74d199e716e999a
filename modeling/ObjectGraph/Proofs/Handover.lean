import ObjectGraph.Boxed
import ObjectGraph.Navigator
import ObjectGraph.Proofs.Typing

/-! Objects handed over in boxes stay what they are.

A slot takes a box exactly if the object inside conforms to the slot's type, and both the box that it
makes of it and the box that it gives back hold that object. It does not matter in what boxes the object
comes, or whether it is lent or given away.
-/

set_option autoImplicit false
namespace ObjectGraph
namespace Boxed

inductive Of : Ty → Boxed → Prop where
  | bare (o : Obj) : Of o.ty (.bare o)
  | object (inner : Boxed) : Of .any (.object inner)
  | list (list : ListView) : Of (.shaped .list) (.list list)
  | map (map : MapView) : Of (.shaped .map) (.map map)
  | set (set : SetView) : Of (.shaped .set) (.set set)

/-- The answer to a box that was offered to a slot of the type: a box of the slot with the object, or
a box with the object that is given back. -/
inductive Handed (t : Ty) (b : Boxed) : Except Boxed Boxed → Prop where
  | taken {made : Boxed} : t.Conforms b.content → made.Of t → made.content = b.content → Handed t b (.ok made)
  | refused {back : Boxed} : ¬ t.Conforms b.content → back.content = b.content → Handed t b (.error back)

@[simp] theorem content_copy (b : Boxed) : b.copy.content = b.content := by
  induction b with
  | object inner ih => exact ih
  | _ => rfl

@[simp] theorem obj_opened (b : Boxed) : b.opened.obj = b.content := by
  induction b with
  | bare o => exact Obj.obj_view o
  | object inner ih => exact ih
  | _ => rfl

@[simp] theorem content_closed (v : View) : v.closed.content = v.obj :=
  rfl

theorem isOpen_ty (o : Obj) : o.ty.isOpen = false := by
  cases o <;> rfl

theorem Of.conforms {t : Ty} {b : Boxed} (of : b.Of t) : t.Conforms b.content := by
  cases of with
  | bare o => exact .exact o
  | object inner => exact .any _
  | list list => exact .list _ _ _
  | map map => exact .map _ _ _ _
  | set set => exact .set _ _ _

theorem of_boxedAs? {shape : Shape} {v : View} {made : Boxed} (boxed : v.boxedAs? shape = some made) :
    made.Of (.shaped shape) ∧ made.content = v.obj := by
  unfold View.boxedAs? at boxed
  split at boxed
  · cases boxed
    exact ⟨.list _, rfl⟩
  · cases boxed
    exact ⟨.map _, rfl⟩
  · cases boxed
    exact ⟨.set _, rfl⟩
  · cases boxed

theorem not_conforms_of_boxedAs? {shape : Shape} {v : View} (unboxed : v.boxedAs? shape = none) :
    ¬ (Ty.shaped shape).Conforms v.obj := by
  intro conforms
  rw [← Ty.accepts_iff] at conforms
  cases shape <;> cases v <;> cases unboxed <;> cases conforms

variable {t : Ty} {b : Boxed}

theorem downcast_handed (concrete : t.isOpen = false) : b.Handed t ((b.downcast t).map .bare) := by
  unfold downcast isOf
  by_cases same : b.content.ty = t
  · rw [if_pos (beq_iff_eq.2 same)]
    cases same
    exact .taken (.exact _) (.bare _) rfl
  · rw [if_neg (mt beq_iff_eq.1 same)]
    exact .refused (fun conforms => same (conforms.ty_eq concrete)) rfl

theorem receive_handed (t : Ty) (b : Boxed) : b.Handed t (t.receive b) := by
  -- The three ways of taking a box: as it is, by its kind, and out of its boxes.
  unfold Ty.receive
  split
  next => exact .taken (.any _) (.object b) rfl
  next shape =>
    split
    next made boxed =>
      obtain ⟨of, content⟩ := of_boxedAs? boxed
      rw [obj_opened] at content
      exact .taken (content ▸ of.conforms) of content
    next unboxed =>
      have unfit := not_conforms_of_boxedAs? unboxed
      rw [obj_opened] at unfit
      exact .refused unfit (by simp)
  next concrete notAny notShaped =>
    refine downcast_handed ?_
    cases t with
    | any => exact absurd rfl notAny
    | shaped shape => exact absurd rfl (notShaped shape)
    | _ => rfl

theorem receiveLent_eq (t : Ty) (b : Boxed) : t.receiveLent b = t.receive b.copy := by
  unfold Ty.receiveLent
  by_cases same : b.content.ty = t
  · have taken : b.copy.downcast t = .ok b.content := by
      unfold downcast isOf
      rw [content_copy, if_pos (beq_iff_eq.2 same)]
    rw [isOf, if_pos (beq_iff_eq.2 same)]
    cases t with
    | any => cases isOpen_ty b.content ▸ congrArg Ty.isOpen same
    | shaped shape => cases isOpen_ty b.content ▸ congrArg Ty.isOpen same
    | _ => exact (congrArg (Except.map Boxed.bare) taken).symm
  · rw [isOf, if_neg (mt beq_iff_eq.1 same)]

/-- Seen without the boxes, the answer is the one that a slot of the type gives to the object inside. -/
theorem Handed.eq_convert {answer : Except Boxed Boxed} (handed : b.Handed t answer) :
    (answer.map content).mapError content = t.convert b.content := by
  unfold Ty.convert
  cases handed with
  | taken conforms _ same =>
    rw [if_pos (Ty.accepts_iff.2 conforms), ← same]
    rfl
  | refused unfit same =>
    rw [if_neg (mt Ty.accepts_iff.1 unfit), ← same]
    rfl

theorem take_handed (v : Value) (t : Ty) : (bare v.obj).Handed t (v.take t) := by
  unfold Value.take
  split
  · exact receive_handed t _
  · rw [receiveLent_eq]
    exact receive_handed t (bare v.obj)

theorem readAs_of_read {n : Navigator} {ctx : Context} {path : String} {v : Value}
    (read : n.read ctx (.ofString path) = .ok (some v)) :
    (t.Conforms v.obj → n.readAs ctx path t = .ok (some v.obj)) ∧
    (¬ t.Conforms v.obj → n.readAs ctx path t =
      .error (.incompatibleValue path n.typeName (.incompatible t.name v.obj.typeName))) := by
  have handed := take_handed v t
  cases answer : v.take t with
  | ok made =>
    rw [answer] at handed
    cases handed with
    | taken conforms _ same =>
      refine ⟨fun _ => ?_, fun unfit => absurd conforms unfit⟩
      simp only [Navigator.readAs, read, answer, same, bind, Except.bind]
      rfl
  | error back =>
    rw [answer] at handed
    cases handed with
    | refused unfit same =>
      refine ⟨fun conforms => absurd conforms unfit, fun _ => ?_⟩
      simp only [Navigator.readAs, read, answer, same, bind, Except.bind]
      rfl

/-- An object that is handed over, in whatever boxes, is taken exactly by the slots that it conforms to,
and is the same object afterwards, whether it was taken or given back. Opening an object and closing it
changes nothing either, and lent objects are answered as their copies are, so a typed read gives what is
read or names both types. -/
theorem handed_over (t : Ty) (b : Boxed) :
    ((∃ made, t.receive b = .ok made) ↔ t.Conforms b.content) ∧
    (∀ made, t.receive b = .ok made → made.Of t ∧ made.content = b.content) ∧
    (∀ back, t.receive b = .error back → back.content = b.content) ∧
    ((t.receive b).map content).mapError content = t.convert b.content ∧
    b.opened.closed.content = b.content ∧
    (b.copy.content = b.content ∧ t.receiveLent b = t.receive b.copy ∧
      ∀ o, (Value.shared o).take t = (Value.detached o).take t) ∧
    ∀ (n : Navigator) (ctx : Context) (path : String) (v : Value),
      n.read ctx (.ofString path) = .ok (some v) →
        (t.Conforms v.obj → n.readAs ctx path t = .ok (some v.obj)) ∧
        (¬ t.Conforms v.obj → n.readAs ctx path t =
          .error (.incompatibleValue path n.typeName (.incompatible t.name v.obj.typeName))) := by
  have handed := receive_handed t b
  have lent : ∀ o, (Value.shared o).take t = (Value.detached o).take t := fun o => receiveLent_eq t (bare o)
  refine ⟨?_, ?_, ?_, handed.eq_convert, by simp, ⟨content_copy b, receiveLent_eq t b, lent⟩,
    fun _ _ _ _ => readAs_of_read⟩
  · -- Each part is read off the answer that a slot of the type gives.
    generalize t.receive b = answer at handed
    cases handed with
    | taken conforms => exact ⟨fun _ => conforms, fun _ => ⟨_, rfl⟩⟩
    | refused unfit => exact ⟨nofun, fun conforms => absurd conforms unfit⟩
  · intro made taken
    rw [taken] at handed
    cases handed with
    | taken _ of same => exact ⟨of, same⟩
  · intro back refused
    rw [refused] at handed
    cases handed with
    | refused _ same => exact same

end Boxed
end ObjectGraph
