import ObjectGraph.Manifest
import ObjectGraph.Proofs.DocumentLines
import ObjectGraph.Proofs.PlainNames

/-! Where packages are found, by the lines of a manifest.

The path of a package depends on which keys the lines of the manifest write in the two tables of
dependencies, not on how they write them: by the header of the table, by keys that are paths, or by headers
of the tables in it. Only a table that is a value on a line of its own is passed over, with all its keys.
-/

set_option autoImplicit false
namespace ObjectGraph

def Document.writtenLines? (text : String) : Option (List Statement) :=
  (statements? text).map (lines [])

theorem Document.holds_of_ofText? {text : String} {written : List Statement} {document : Document}
    (read : writtenLines? text = some written) (built : ofText? text = some document) (name : String) :
    Holds written name (document.get? name) := by
  obtain ⟨statements, found, rfl⟩ := Option.map_eq_some_iff.1 read
  obtain ⟨_, found', built⟩ := Option.bind_eq_some_iff.1 built
  cases found.symm.trans found'
  exact holds_of_ofStatements? built name

namespace Manifest

open Declaration (ItemPath IsPlainName)
open Document (WrittenOut Writes Holds)

/-- The path that a list of dependencies leads to: that of the package under its own name if it is listed,
and else, if it is of the family and the common package is listed, the one through that. -/
inductive LeadsTo (listed : String → Prop) (name : String) : ItemPath → Prop where
  | own : listed name → LeadsTo listed name ⟨true, [⟨name, ""⟩]⟩
  | common {rest : String} : ¬ listed name → name = "vc_" ++ rest → listed "vc_graph" →
    LeadsTo listed name ⟨true, [⟨"vc_graph", ""⟩, ⟨rest, ""⟩]⟩

/-- The path of a package: the one that the main dependencies lead to, or those for development, or the
package's own name. -/
inductive Resolves (listed : String → String → Prop) (name : String) : ItemPath → Prop where
  | main {path : ItemPath} : LeadsTo (listed "dependencies") name path → Resolves listed name path
  | development {path : ItemPath} : (∀ other, ¬ LeadsTo (listed "dependencies") name other) →
    LeadsTo (listed "dev-dependencies") name path → Resolves listed name path
  | neither : (∀ other, ¬ LeadsTo (listed "dependencies") name other) →
    (∀ other, ¬ LeadsTo (listed "dev-dependencies") name other) →
    Resolves listed name ⟨true, [⟨name, ""⟩]⟩

variable {listed listed' : String → Prop} {tables tables' : String → String → Prop} {name : String}
  {path other : ItemPath}

theorem LeadsTo.unique (leads : LeadsTo listed name path) (leads' : LeadsTo listed name other) :
    path = other := by
  cases leads with
  | own here =>
    cases leads' with
    | own => rfl
    | common absent => exact absurd here absent
  | common absent same =>
    cases leads' with
    | own here => exact absurd here absent
    | common _ same' =>
      subst same
      rw [String.append_right_inj] at same'
      rw [same']

theorem Resolves.unique (resolves : Resolves tables name path) (resolves' : Resolves tables name other) :
    path = other := by
  cases resolves with
  | main leads =>
    cases resolves' with
    | main leads' => exact leads.unique leads'
    | development none => exact absurd leads (none _)
    | neither none => exact absurd leads (none _)
  | development none leads =>
    cases resolves' with
    | main leads' => exact absurd leads' (none _)
    | development _ leads' => exact leads.unique leads'
    | neither _ none' => exact absurd leads (none' _)
  | neither none none' =>
    cases resolves' with
    | main leads => exact absurd leads (none _)
    | development _ leads => exact absurd leads (none' _)
    | neither => rfl

theorem LeadsTo.congr (leads : LeadsTo listed name path) (same : ∀ key, listed key ↔ listed' key) :
    LeadsTo listed' name path := by
  cases leads with
  | own here => exact .own ((same _).1 here)
  | common absent family here => exact .common (mt (same _).2 absent) family ((same _).1 here)

theorem not_leadsTo_congr (none : ∀ other, ¬ LeadsTo listed name other)
    (same : ∀ key, listed key ↔ listed' key) (other : ItemPath) : ¬ LeadsTo listed' name other :=
  fun leads => none other (leads.congr fun key => (same key).symm)

theorem Resolves.congr (resolves : Resolves tables name path)
    (same : ∀ table ∈ dependencyTables, ∀ key, tables table key ↔ tables' table key) :
    Resolves tables' name path := by
  have main := same "dependencies" List.mem_cons_self
  have development := same "dev-dependencies" (List.mem_cons_of_mem _ List.mem_cons_self)
  cases resolves with
  | main leads => exact .main (leads.congr main)
  | development none leads => exact .development (not_leadsTo_congr none main) (leads.congr development)
  | neither none none' => exact .neither (not_leadsTo_congr none main) (not_leadsTo_congr none' development)

theorem familyName?_eq_some_iff {rest : String} : familyName? name = some rest ↔ name = "vc_" ++ rest := by
  have split : name = "vc_" ++ rest ↔ name.toList = familyStart.toList ++ rest.toList := by
    rw [← String.toList_inj, String.toList_append]
    rfl
  unfold familyName?
  rw [split]
  constructor
  · intro found
    obtain ⟨ahead, ⟨⟩⟩ := Option.ite_none_right_eq_some.1 found
    obtain ⟨others, same⟩ := List.isPrefixOf_iff_prefix.1 ahead
    rw [← same, String.toList_ofList]
    rfl
  · intro same
    rw [same, if_pos (List.isPrefixOf_iff_prefix.2 (List.prefix_append _ _))]
    exact congrArg some (String.ofList_toList)

theorem ownPath_eq (plain : IsPlainName name) : ownPath name = .ok ⟨true, [⟨name, ""⟩]⟩ := by
  rw [ownPath, Manifest.path, plain.ofText?_absolute]

theorem commonPath_eq {rest : String} (plain : IsPlainName rest) :
    commonPath rest = .ok ⟨true, [⟨"vc_graph", ""⟩, ⟨rest, ""⟩]⟩ := by
  rw [commonPath, segment, plain.ofText?]
  rfl

section Found
variable {keys : List String} (plain : IsPlainName name)
  (family : ∀ rest, name = "vc_" ++ rest → IsPlainName rest)
include plain family

theorem pathIn?_cases (same : ∀ key, key ∈ keys ↔ listed key) :
    (∃ path, LeadsTo listed name path ∧ pathIn? keys name = some (.ok path)) ∨
    (∀ path, ¬ LeadsTo listed name path) ∧ pathIn? keys name = none := by
  unfold pathIn?
  by_cases here : listed name
  · rw [if_pos (List.contains_iff_mem.2 ((same _).2 here)), ownPath_eq plain]
    exact .inl ⟨_, .own here, rfl⟩
  rw [if_neg (mt List.contains_iff_mem.1 (mt (same _).1 here))]
  by_cases common : listed commonPackage
  · rw [if_pos (List.contains_iff_mem.2 ((same _).2 common))]
    cases found : familyName? name with
    | some rest =>
      have split := familyName?_eq_some_iff.1 found
      exact .inl ⟨_, .common here split common, congrArg some (commonPath_eq (family rest split))⟩
    | none =>
      refine .inr ⟨?_, rfl⟩
      rintro _ (here' | ⟨_, split, _⟩)
      · exact here here'
      · rw [familyName?_eq_some_iff.2 split] at found
        cases found
  · rw [if_neg (mt List.contains_iff_mem.1 (mt (same _).1 common))]
    refine .inr ⟨?_, rfl⟩
    rintro _ (here' | ⟨_, _, common'⟩)
    · exact here here'
    · exact common common'

end Found

/-- What the lines of a manifest list: a key that a line writes in a table that is written out. -/
def Lists (written : List Statement) (table key : String) : Prop :=
  WrittenOut written table ∧ Writes written table key

section Written
variable {document : Document} {written : List Statement}

theorem lead_cases (holds : ∀ name, Holds written name (document.get? name)) (plain : IsPlainName name)
    (family : ∀ rest, name = "vc_" ++ rest → IsPlainName rest) (table : String) :
    (∃ path, LeadsTo (Lists written table) name path ∧
      ((⟨document⟩ : Manifest).keys? table).bind (pathIn? · name) = some (.ok path)) ∨
    (∀ path, ¬ LeadsTo (Lists written table) name path) ∧
      ((⟨document⟩ : Manifest).keys? table).bind (pathIn? · name) = none := by
  have held := holds table
  unfold keys?
  generalize document.get? table = entry at held
  -- Nothing that is no table lists a key, and without keys nothing is led to.
  have unseen (none : ∀ key, ¬ Lists written table key) path : ¬ LeadsTo (Lists written table) name path := by
    rintro (here | ⟨_, _, common⟩)
    · exact none _ here
    · exact none _ common
  cases held with
  | absent absent =>
    have none key : ¬ Lists written table key := fun ⟨_, line, member, ahead⟩ =>
      absent line member (Document.head?_of_ahead ahead)
    exact .inr ⟨unseen none, rfl⟩
  | value member => exact .inr ⟨unseen fun _ lists => lists.1.noValue member, rfl⟩
  | tables _ member => exact .inr ⟨unseen fun _ lists => lists.1.noList member, rfl⟩
  | table origin out keys =>
    exact pathIn?_cases plain family fun key => (keys key).trans (and_iff_right out).symm

theorem findSome?_filterMap {α β γ : Type} (f : α → Option β) (g : β → Option γ) (inputs : List α) :
    (inputs.filterMap f).findSome? g = inputs.findSome? fun input => (f input).bind g := by
  induction inputs with
  | nil => rfl
  | cons input inputs ih =>
    cases found : f input with
    | none => simp [found, ih]
    | some made => simp [found, ih, List.findSome?_cons]

theorem packagePath_eq (manifest : Manifest) : manifest.packagePath name =
    (((manifest.keys? "dependencies").bind (pathIn? · name)).or
      ((manifest.keys? "dev-dependencies").bind (pathIn? · name))).getD (ownPath name) := by
  unfold packagePath
  rw [findSome?_filterMap, dependencyTables, List.findSome?_cons, List.findSome?_cons, List.findSome?_nil]
  cases (manifest.keys? "dependencies").bind (pathIn? · name) with
  | some path => rfl
  | none => cases (manifest.keys? "dev-dependencies").bind (pathIn? · name) <;> rfl

/-- Every manifest leads to one path. -/
theorem exists_resolves (holds : ∀ name, Holds written name (document.get? name)) (plain : IsPlainName name)
    (family : ∀ rest, name = "vc_" ++ rest → IsPlainName rest) :
    ∃ path, (⟨document⟩ : Manifest).packagePath name = .ok path ∧ Resolves (Lists written) name path := by
  rw [packagePath_eq]
  rcases lead_cases holds plain family "dependencies" with ⟨path, leads, found⟩ | ⟨none, unfound⟩
  · rw [found]
    exact ⟨path, rfl, .main leads⟩
  rw [unfound]
  rcases lead_cases holds plain family "dev-dependencies" with ⟨path, leads, found⟩ | ⟨none', unfound⟩
  · rw [found]
    exact ⟨path, rfl, .development none leads⟩
  · rw [unfound]
    exact ⟨_, ownPath_eq plain, .neither none none'⟩

theorem packagePath_eq_ok_iff (holds : ∀ name, Holds written name (document.get? name))
    (plain : IsPlainName name) (family : ∀ rest, name = "vc_" ++ rest → IsPlainName rest) :
    (⟨document⟩ : Manifest).packagePath name = .ok path ↔ Resolves (Lists written) name path := by
  obtain ⟨found, ok, resolves⟩ := exists_resolves holds plain family
  rw [ok, Except.ok.injEq]
  constructor
  · rintro rfl
    exact resolves
  · exact resolves.unique

end Written

/-- Every manifest leads to one path from a package, which is found by the keys that its lines write in the
two tables of dependencies, however they write them. Where a table is a value or a list of tables nothing
in it counts, and manifests that list the same keys lead to the same paths. -/
theorem packagePath_follows {text : String} {written : List Statement} {document : Document}
    (read : Document.writtenLines? text = some written) (built : Document.ofText? text = some document)
    {name : String} (plain : IsPlainName name) (family : ∀ rest, name = "vc_" ++ rest → IsPlainName rest) :
    (∃ path, (⟨document⟩ : Manifest).packagePath name = .ok path) ∧
    ((∀ table ∈ dependencyTables, WrittenOut written table) → ∀ path,
      (⟨document⟩ : Manifest).packagePath name = .ok path ↔ Resolves (Writes written) name path) ∧
    (∀ path, (⟨document⟩ : Manifest).packagePath name = .ok path ↔ Resolves (Lists written) name path) ∧
    ∀ (text' : String) (written' : List Statement) (document' : Document),
      Document.writtenLines? text' = some written' → Document.ofText? text' = some document' →
      (∀ table ∈ dependencyTables, ∀ key, Lists written table key ↔ Lists written' table key) →
      (⟨document⟩ : Manifest).packagePath name = (⟨document'⟩ : Manifest).packagePath name := by
  have holds := Document.holds_of_ofText? read built
  obtain ⟨found, ok, resolves⟩ := exists_resolves holds plain family
  refine ⟨⟨found, ok⟩, ?_, fun path => packagePath_eq_ok_iff holds plain family, ?_⟩
  · intro out path
    have same : ∀ table ∈ dependencyTables, ∀ key, Lists written table key ↔ Writes written table key :=
      fun table member key => and_iff_right (out table member)
    rw [packagePath_eq_ok_iff holds plain family]
    exact ⟨fun resolves => resolves.congr same,
      fun resolves => resolves.congr fun table member key => (same table member key).symm⟩
  · intro text' written' document' read' built' same
    rw [ok]
    have holds' := Document.holds_of_ofText? read' built'
    exact ((packagePath_eq_ok_iff holds' plain family).2 (resolves.congr same)).symm

/-- The path of a package of the family where the common package is a dependency. -/
theorem packagePath_follows_common : ∃ document : Document,
    Document.ofText? "[dependencies]\nvc_graph = \"1\"\n" = some document ∧
      (⟨document⟩ : Manifest).packagePath "vc_meta" = .ok ⟨true, [⟨"vc_graph", ""⟩, ⟨"meta", ""⟩]⟩ := by
  have read : Document.writtenLines? "[dependencies]\nvc_graph = \"1\"\n" =
      some [.header ["dependencies"], .entry ["dependencies", "vc_graph"]] := by
    decide +kernel
  obtain ⟨document, built⟩ :
      ∃ document, Document.ofText? "[dependencies]\nvc_graph = \"1\"\n" = some document :=
    Option.isSome_iff_exists.1 (by decide +kernel)
  have plain : IsPlainName "vc_meta" := ⟨by decide, by decide⟩
  have family : ∀ rest, "vc_meta" = "vc_" ++ rest → IsPlainName rest := by
    intro rest split
    have same : "meta" = rest := (String.append_right_inj "vc_").1 split
    exact same ▸ ⟨by decide, by decide⟩
  obtain ⟨-, -, follows, -⟩ := packagePath_follows read built plain family
  have common : Lists [.header ["dependencies"], .entry ["dependencies", "vc_graph"]] "dependencies"
      "vc_graph" :=
    ⟨⟨by decide, by decide⟩, _, List.mem_cons_of_mem _ List.mem_cons_self, List.prefix_rfl⟩
  have unlisted : ¬ Lists [.header ["dependencies"], .entry ["dependencies", "vc_graph"]] "dependencies"
      "vc_meta" := by
    simp [Lists, Writes]
  exact ⟨document, built, (follows _).2 (.main (.common unlisted rfl common))⟩

/-- A table of dependencies that is a value on one line is passed over: its key leads to another path than
the same key in the same table with a header. -/
theorem inline_table_passed_over :
    (Manifest.ofSections? [⟨"dependencies", .inlineTable, ["vc_graph"]⟩]).map
        (fun manifest => (manifest.packagePath "vc_meta").toOption) =
      some (some ⟨true, [⟨"vc_meta", ""⟩]⟩) ∧
    (Manifest.ofSections? [⟨"dependencies", .table, ["vc_graph"]⟩]).map
        (fun manifest => (manifest.packagePath "vc_meta").toOption) =
      some (some ⟨true, [⟨"vc_graph", ""⟩, ⟨"meta", ""⟩]⟩) := by
  decide +kernel

end Manifest
end ObjectGraph
