import ObjectGraph.Naming

/-! The property that accessors share by their names.

Getters, truth getters and setters of a property differ in the word that their names start with. What
follows the word, behind an underscore or at once, names the property, and names it as it stands unless
its first character is lowered to something else.
-/

set_option autoImplicit false
namespace ObjectGraph.Naming

def starts : List String :=
  ["get", "set", "is"]

variable {start method : String} {c : Char} {cs rest : List Char}

theorem afterPrefix_start (known : start ∈ starts) (cs : List Char) :
    afterPrefix (start.toList ++ cs) = some cs := by
  simp only [starts, List.mem_cons, List.not_mem_nil, or_false] at known
  rcases known with rfl | rfl | rfl <;> rfl

theorem property_start (known : start ∈ starts) (s : String) : PropertyNamer.bean.property (start ++ s) =
    .ok (String.ofList (decapitalize (dropUnderscore s.toList))) := by
  simp only [PropertyNamer.property, PropertyNamer.bean, methodToProperty, String.toList_append,
    afterPrefix_start known, Option.map_some]

theorem dropUnderscore_of_head (other : cs.head? ≠ some '_') : dropUnderscore cs = cs := by
  unfold dropUnderscore
  split
  · exact absurd rfl other
  · rfl

theorem dropUnderscore_underscore (s : String) : dropUnderscore ("_" ++ s).toList = s.toList := by
  rw [String.toList_append]
  rfl

/-- Of a full lowercase form with the rest behind it, only that of one character can leave the text as it
is. -/
theorem lowercase_append_eq_iff : Text.lowercase c ++ rest = c :: rest ↔ Text.lowercase c = [c] := by
  rw [← List.singleton_append, List.append_left_inj]

/-- A name stays as it is if its second character is uppercase or its first one is its own full lowercase
form, and only then. -/
theorem decapitalize_eq_self_iff : decapitalize (c :: rest) = c :: rest ↔
    (∃ d, rest.head? = some d ∧ Text.isUppercase d = true) ∨ Text.lowercase c = [c] := by
  cases rest with
  | nil => simp [decapitalize]
  | cons d more =>
    simp only [decapitalize, List.head?_cons, Option.some.injEq, exists_eq_left']
    by_cases upper : Text.isUppercase d = true
    · rw [if_pos upper]
      simp [upper]
    · rw [if_neg upper, lowercase_append_eq_iff]
      simp [upper]

theorem exists_of_extendsPrefix {name : String} (longer : extendsPrefix start.toList name = true) :
    ∃ s, name = start ++ s := by
  rw [extendsPrefix, Bool.and_eq_true, List.isPrefixOf_iff_prefix] at longer
  obtain ⟨cs, split⟩ := longer.1
  refine ⟨String.ofList cs, ?_⟩
  rw [← String.toList_inj, String.toList_append, String.toList_ofList, split]

theorem exists_start (accessor : isGetter method = true ∨ isSetter method = true) :
    ∃ start ∈ starts, ∃ s, method = start ++ s := by
  rw [isGetter, Bool.or_eq_true, or_assoc] at accessor
  rcases accessor with get | is | set
  · exact ⟨"get", by decide, exists_of_extendsPrefix get⟩
  · exact ⟨"is", by decide, exists_of_extendsPrefix is⟩
  · exact ⟨"set", by decide, exists_of_extendsPrefix set⟩

/-- Accessors meet in one property. Their names may start with any of the words, and where what follows
starts with no underscore one may stand before it. Every accessor names a property. Behind a word and an
underscore a name stays as it is exactly if its second character is uppercase or its first one is its own
full lowercase form, so all accessors of a field in snake case name that field. -/
theorem accessors_meet :
    (∀ s, ∀ start ∈ starts, ∀ other ∈ starts,
      PropertyNamer.bean.property (start ++ s) = PropertyNamer.bean.property (other ++ s)) ∧
    (∀ s, s.toList.head? ≠ some '_' → ∀ start ∈ starts,
      PropertyNamer.bean.property (start ++ ("_" ++ s)) = PropertyNamer.bean.property (start ++ s)) ∧
    (∀ method, PropertyNamer.bean.isGetter method = true ∨ PropertyNamer.bean.isSetter method = true →
      ∃ name, PropertyNamer.bean.property method = .ok name) ∧
    ∀ field c rest, field.toList = c :: rest → ∀ start ∈ starts,
      (PropertyNamer.bean.property (start ++ ("_" ++ field)) = .ok field ↔
        (∃ d, rest.head? = some d ∧ Text.isUppercase d = true) ∨ Text.lowercase c = [c]) := by
  refine ⟨?_, ?_, ?_, ?_⟩
  · intro s start known other knownOther
    rw [property_start known, property_start knownOther]
  · intro s plain start known
    rw [property_start known, property_start known, dropUnderscore_underscore,
      dropUnderscore_of_head plain]
  · intro method accessor
    obtain ⟨start, known, s, rfl⟩ := exists_start accessor
    exact ⟨_, property_start known s⟩
  · intro field c rest spelled start known
    rw [property_start known, dropUnderscore_underscore, Except.ok.injEq, ← String.toList_inj,
      String.toList_ofList, spelled]
    exact decapitalize_eq_self_iff

/-- The getter, the truth getter and the setter of a field in snake case name the field. A field in
Pascal case is named otherwise, but for an acronym. -/
theorem accessors_meet_snake :
    (∀ start ∈ starts, PropertyNamer.bean.property (start ++ ("_" ++ "home_town")) = .ok "home_town") ∧
    PropertyNamer.bean.property ("get" ++ ("_" ++ "Town")) ≠ .ok "Town" ∧
    PropertyNamer.bean.property ("set" ++ ("_" ++ "URL")) = .ok "URL" ∧
    PropertyNamer.bean.property ("is" ++ ("_" ++ "İ")) ≠ .ok "İ" ∧
    PropertyNamer.bean.property ("is" ++ ("_" ++ "open")) = PropertyNamer.bean.property ("set" ++ "open") ∧
    ∃ name, PropertyNamer.bean.property "is_" = .ok name := by
  obtain ⟨same, underscore, named, kept⟩ := accessors_meet
  refine ⟨?_, ?_, ?_, ?_, ?_, ?_⟩
  · intro start known
    exact (kept "home_town" 'h' _ rfl start known).2 (.inr (by decide))
  · intro whole
    rcases (kept "Town" 'T' _ rfl "get" (by decide)).1 whole with ⟨_, ⟨⟩, upper⟩ | lower
    · exact absurd upper (by decide)
    · exact absurd lower (by decide)
  · exact (kept "URL" 'U' _ rfl "set" (by decide)).2 (.inl ⟨'R', rfl, by decide⟩)
  · intro whole
    rcases (kept "İ" 'İ' _ rfl "is" (by decide)).1 whole with ⟨_, ⟨⟩, _⟩ | lower
    exact absurd lower (by decide)
  · rw [underscore "open" (by decide) "is" (by decide)]
    exact same "open" "is" (by decide) "set" (by decide)
  · exact named "is_" (.inl (by decide))

end ObjectGraph.Naming
