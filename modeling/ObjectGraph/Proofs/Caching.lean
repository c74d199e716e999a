import Mathlib.Data.List.Dedup
import ObjectGraph.Context
import ObjectGraph.Reflector

/-! What a cache of descriptors hands out.

A cache that nothing but look-ups has filled keeps one descriptor for each type that was asked for, the
one that is made for the type without any cache, under a number that it gave to no other. So it hands
out what it would make anew, and the same one for the same type only.
-/

set_option autoImplicit false
namespace ObjectGraph
namespace Reflector

def types (r : Reflector) : List Ty :=
  r.cache.map Prod.fst

/-- One descriptor for each type, as it is made for the type, under a number that was given out. -/
structure Consistent (s : Schema) (r : Reflector) : Prop where
  built : ∀ e ∈ r.cache, e.2.descriptor = r.build s e.1
  numbered : ∀ e ∈ r.cache, e.2.number < r.made
  types_nodup : r.types.Nodup

structure Extends (r r' : Reflector) (asked : List Ty) : Prop where
  namer : r'.namer = r.namer
  kept : r.cache ⊆ r'.cache
  types : ∀ t, t ∈ r'.types ↔ t ∈ r.types ∨ t ∈ asked

theorem Extends.refl (r : Reflector) : Extends r r [] where
  namer := rfl
  kept := List.Subset.refl _
  types _ := by simp

theorem Extends.trans {r r' r'' : Reflector} {asked more : List Ty} (first : Extends r r' asked)
    (second : Extends r' r'' more) : Extends r r'' (asked ++ more) where
  namer := second.namer.trans first.namer
  kept := List.Subset.trans first.kept second.kept
  types t := by rw [second.types, first.types, List.mem_append, or_assoc]

theorem consistent_withNamer (s : Schema) (namer : PropertyNamer) :
    Consistent s (withNamer namer) where
  built := List.forall_mem_nil _
  numbered := List.forall_mem_nil _
  types_nodup := List.nodup_nil

section Lookups
variable {s : Schema} {r : Reflector} {t : Ty} {d : SharedDescriptor}

theorem mem_of_find? (found : r.find? t = some d) : (t, d) ∈ r.cache := by
  obtain ⟨front, back, split, _⟩ := List.lookup_eq_some_iff.1 found
  rw [split]
  exact List.mem_append_right _ List.mem_cons_self

theorem not_mem_types (absent : r.find? t = none) : t ∉ r.types := by
  intro member
  obtain ⟨e, inside, rfl⟩ := List.mem_map.1 member
  simpa using List.lookup_eq_none_iff.1 absent e inside

/-- A look-up finds the descriptor of the type, or adds one under the next number. -/
theorem forType_cases (s : Schema) (r : Reflector) (t : Ty) :
    (∃ d, (t, d) ∈ r.cache ∧ r.forType s t = (r, d)) ∨
    t ∉ r.types ∧ r.forType s t =
      ({ r with made := r.made + 1, cache := (t, ⟨r.made, r.build s t⟩) :: r.cache },
        ⟨r.made, r.build s t⟩) := by
  cases found : r.find? t with
  | some d =>
    refine .inl ⟨d, mem_of_find? found, ?_⟩
    simp only [forType, found]
  | none =>
    refine .inr ⟨not_mem_types found, ?_⟩
    simp only [forType, keep, found]

theorem mem_forType (s : Schema) (r : Reflector) (t : Ty) :
    (t, (r.forType s t).2) ∈ (r.forType s t).1.cache := by
  rcases forType_cases s r t with ⟨d, member, looked⟩ | ⟨_, looked⟩
  · rwa [looked]
  · rw [looked]
    exact List.mem_cons_self

theorem extends_forType (s : Schema) (r : Reflector) (t : Ty) : Extends r (r.forType s t).1 [t] := by
  rcases forType_cases s r t with ⟨d, member, looked⟩ | ⟨absent, looked⟩
  · rw [looked]
    refine ⟨rfl, List.Subset.refl _, fun u => (or_iff_left_of_imp fun asked => ?_).symm⟩
    rw [List.mem_singleton.1 asked]
    exact List.mem_map_of_mem member
  · rw [looked]
    refine ⟨rfl, List.subset_cons_self _ _, fun u => ?_⟩
    simp [types, or_comm]

theorem Consistent.forType (consistent : Consistent s r) (t : Ty) :
    Consistent s (r.forType s t).1 := by
  rcases forType_cases s r t with ⟨d, member, looked⟩ | ⟨absent, looked⟩
  · rwa [looked]
  · rw [looked]
    refine ⟨?_, ?_, List.nodup_cons.2 ⟨absent, consistent.types_nodup⟩⟩
    · rintro e (_ | ⟨_, member⟩)
      · rfl
      · exact consistent.built e member
    · rintro e (_ | ⟨_, member⟩)
      · exact Nat.lt_succ_self _
      · exact Nat.lt_succ_of_lt (consistent.numbered e member)

theorem Consistent.unique (consistent : Consistent s r) {d e : SharedDescriptor}
    (first : (t, d) ∈ r.cache) (second : (t, e) ∈ r.cache) : d = e := by
  have same := List.inj_on_of_nodup_map consistent.types_nodup first second rfl
  exact congrArg Prod.snd same

theorem Consistent.descriptor_forType (consistent : Consistent s r) (t : Ty) :
    (r.forType s t).2.descriptor = .build r.namer t (s.lineage? t) := by
  have built := (consistent.forType t).built _ (mem_forType s r t)
  rwa [build, (extends_forType s r t).namer] at built

/-- The descriptor that access to an object goes by is the one that the cache hands out. -/
theorem Consistent.descriptor_forObject {ctx : Context} (consistent : Consistent ctx.schema r)
    (namer : r.namer = ctx.namer) (o : Obj) :
    (r.forObject ctx.schema o).2.descriptor = ctx.descriptorOf o := by
  rw [forObject, consistent.descriptor_forType, namer]
  rfl

end Lookups

/-- Look-ups one after the other: the cache that they leave, and what each of them was handed. -/
def forTypes (s : Schema) (r : Reflector) : List Ty → Reflector × List SharedDescriptor
  | [] => (r, [])
  | t :: ts =>
    let (r, d) := r.forType s t
    let (r, ds) := forTypes s r ts
    (r, d :: ds)

section Runs
variable {s : Schema} {r : Reflector}

theorem forTypes_concat (s : Schema) (r : Reflector) (ts : List Ty) (t : Ty) :
    r.forTypes s (ts ++ [t]) =
      (((r.forTypes s ts).1.forType s t).1,
        (r.forTypes s ts).2 ++ [((r.forTypes s ts).1.forType s t).2]) := by
  induction ts generalizing r with
  | nil => rfl
  | cons u ts ih => simp only [List.cons_append, forTypes, ih]

theorem length_forTypes (s : Schema) (r : Reflector) (ts : List Ty) :
    (r.forTypes s ts).2.length = ts.length := by
  induction ts generalizing r with
  | nil => rfl
  | cons t ts ih => simp only [forTypes, List.length_cons, ih]

theorem extends_forTypes (s : Schema) (r : Reflector) (ts : List Ty) :
    Extends r (r.forTypes s ts).1 ts := by
  induction ts generalizing r with
  | nil => exact .refl r
  | cons t ts ih => exact (extends_forType s r t).trans (ih _)

theorem Consistent.forTypes (consistent : Consistent s r) (ts : List Ty) :
    Consistent s (r.forTypes s ts).1 := by
  induction ts generalizing r with
  | nil => exact consistent
  | cons t ts ih => exact ih (consistent.forType t)

theorem mem_forTypes (s : Schema) (r : Reflector) (ts : List Ty) :
    ts.zip (r.forTypes s ts).2 ⊆ (r.forTypes s ts).1.cache := by
  induction ts generalizing r with
  | nil => exact List.nil_subset _
  | cons t ts ih =>
    rintro e (_ | ⟨_, member⟩)
    · exact (extends_forTypes s _ ts).kept (mem_forType s r t)
    · exact ih _ member

end Runs

def lookedUp (s : Schema) (namer : PropertyNamer) (ts : List Ty) : Reflector × List SharedDescriptor :=
  (withNamer namer).forTypes s ts

/-- The descriptor is what a look-up has to be handed after others: what the first one of the same type
was handed, if there was any, or else one that none of them was handed. It says what is made of the type
under the namer. -/
structure Serves (s : Schema) (namer : PropertyNamer) (earlier : List Ty) (t : Ty)
    (d : SharedDescriptor) : Prop where
  recorded : (lookedUp s namer (earlier ++ [t])).2 = (lookedUp s namer earlier).2 ++ [d]
  again : ∀ i, earlier.idxOf? t = some i → (lookedUp s namer earlier).2[i]? = some d
  anew : t ∉ earlier → ∀ e ∈ (lookedUp s namer earlier).2, e.number ≠ d.number
  built : d.descriptor = .build namer t (s.lineage? t)

section Transparency
variable (s : Schema) (namer : PropertyNamer) (ts : List Ty)

theorem consistent_lookedUp : Consistent s (lookedUp s namer ts).1 :=
  (consistent_withNamer s namer).forTypes ts

theorem mem_types_lookedUp (t : Ty) : t ∈ (lookedUp s namer ts).1.types ↔ t ∈ ts := by
  rw [lookedUp, (extends_forTypes s _ ts).types]
  exact or_iff_right List.not_mem_nil

theorem size_lookedUp : (lookedUp s namer ts).1.size = ts.dedup.length := by
  have perm : (lookedUp s namer ts).1.types.Perm ts.dedup := by
    apply (List.perm_ext_iff_of_nodup (consistent_lookedUp s namer ts).types_nodup ts.nodup_dedup).2
    intro t
    rw [mem_types_lookedUp, List.mem_dedup]
  rw [← perm.length_eq, types, List.length_map, size]

theorem isEmpty_lookedUp : (lookedUp s namer ts).1.isEmpty = true ↔ ts = [] := by
  rw [isEmpty, size_lookedUp, beq_iff_eq, List.length_eq_zero_iff, List.dedup_eq_nil]

theorem cached_of_handed {i : Nat} {d : SharedDescriptor}
    (handed : (lookedUp s namer ts).2[i]? = some d) :
    ∃ t, ts[i]? = some t ∧ (t, d) ∈ (lookedUp s namer ts).1.cache := by
  have bound : i < ts.length := by
    rw [← length_forTypes s (withNamer namer) ts]
    exact (List.getElem?_eq_some_iff.1 handed).1
  refine ⟨ts[i], List.getElem?_eq_getElem bound, mem_forTypes s _ ts ?_⟩
  apply List.mem_of_getElem?
  exact List.getElem?_zip_eq_some.2 ⟨List.getElem?_eq_getElem bound, handed⟩

theorem serves_forType (t : Ty) : Serves s namer ts t ((lookedUp s namer ts).1.forType s t).2 where
  recorded := by
    rw [lookedUp, forTypes_concat]
    rfl
  again i first := by
    obtain ⟨bound, same, _⟩ := List.idxOf?_eq_some_iff.1 first
    have handed := List.getElem?_eq_getElem ((length_forTypes s (withNamer namer) ts).symm ▸ bound)
    obtain ⟨u, asked, member⟩ := cached_of_handed s namer ts handed
    obtain rfl : u = t := Option.some.inj (asked.symm.trans (List.getElem?_eq_some_iff.2 ⟨bound, same⟩))
    -- The cache still holds what was handed then, and holds one descriptor of the type only.
    have kept := (extends_forType s (lookedUp s namer ts).1 u).kept member
    have consistent := (consistent_lookedUp s namer ts).forType u
    exact handed.trans (congrArg some (consistent.unique kept (mem_forType s _ u)))
  anew unasked e member := by
    obtain ⟨i, handed⟩ := List.mem_iff_getElem?.1 member
    obtain ⟨u, _, cached⟩ := cached_of_handed s namer ts handed
    have older := (consistent_lookedUp s namer ts).numbered _ cached
    rcases forType_cases s (lookedUp s namer ts).1 t with ⟨d, found, _⟩ | ⟨_, looked⟩
    · have known : t ∈ (lookedUp s namer ts).1.types := List.mem_map_of_mem found
      exact absurd ((mem_types_lookedUp s namer ts t).1 known) unasked
    · rw [looked]
      exact Nat.ne_of_lt older
  built := by
    rw [(consistent_lookedUp s namer ts).descriptor_forType, lookedUp, (extends_forTypes s _ ts).namer]
    rfl

/-- The cache is transparent: whatever was looked up before, a look-up is handed the descriptor of the
first one of its type or a new one, which says what is made of the type under the namer. The cache
holds one descriptor for each type that was looked up. -/
theorem transparent (t : Ty) :
    Serves s namer ts t ((lookedUp s namer ts).1.forType s t).2 ∧
      (lookedUp s namer ts).1.size = ts.dedup.length ∧
      ((lookedUp s namer ts).1.isEmpty = true ↔ ts = []) :=
  ⟨serves_forType s namer ts t, size_lookedUp s namer ts, isEmpty_lookedUp s namer ts⟩

example : (lookedUp s namer [.str, .bool, .str]).2.map SharedDescriptor.number = [0, 1, 0] := rfl

end Transparency

end Reflector

end ObjectGraph
