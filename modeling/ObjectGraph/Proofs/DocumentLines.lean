import Mathlib.Data.List.Basic
import ObjectGraph.Document

/-! Documents hold what their lines write.

A line writes at a path: a header at its own, an entry at the path of its key below the table that is open.
Which entries a document has, and which keys a table in it has, is read off the paths of its lines, in
whatever form and order they stand.
-/

set_option autoImplicit false
namespace ObjectGraph

namespace Statement

def path : Statement → List String
  | header path => path
  | listHeader path => path
  | entry path => path

def under (above : List String) : Statement → Statement
  | header path => header (above ++ path)
  | listHeader path => listHeader (above ++ path)
  | entry path => entry (above ++ path)

@[simp] theorem path_header (path : List String) : (header path).path = path := rfl

@[simp] theorem path_listHeader (path : List String) : (listHeader path).path = path := rfl

@[simp] theorem path_entry (path : List String) : (entry path).path = path := rfl

@[simp] theorem path_under (above : List String) (line : Statement) :
    (line.under above).path = above ++ line.path := by
  cases line <;> rfl

@[simp] theorem under_under (above below : List String) (line : Statement) :
    (line.under below).under above = line.under (above ++ below) := by
  cases line <;> simp [under]

@[simp] theorem under_nil (line : Statement) : line.under [] = line := by
  cases line <;> rfl

end Statement

namespace Document

/-- The lines of a document, with all of the path that each one writes at. The first entries belong to
the table that is open. -/
def lines : List String → List Statement → List Statement
  | _, [] => []
  | _, .header path :: rest => .header path :: lines path rest
  | _, .listHeader path :: rest => .listHeader path :: lines path rest
  | opened, .entry key :: rest => .entry (opened ++ key) :: lines opened rest

def keys (document : Document) : List String :=
  document.map Prod.fst

theorem mem_keys_put {name key : String} {entry : DocumentEntry} {document : Document} :
    key ∈ (document.put name entry).keys ↔ key = name ∨ key ∈ document.keys := by
  fun_induction put name entry document with
  | case1 => simp [keys]
  | case2 => simp [keys]
  | case3 other old rest _ ih =>
    have ih : key ∈ keys (put name entry rest) ↔ key = name ∨ key ∈ keys rest := ih
    simp only [keys, List.map_cons, List.mem_cons] at ih ⊢
    rw [ih]
    exact or_left_comm

mutual

inductive Becomes : Statement → Option DocumentEntry → DocumentEntry → Prop where
  | value {name : String} : Becomes (.entry [name]) none .value
  | opens {name : String} : Becomes (.header [name]) none (.table .header [])
  | declares {name : String} (inner : Document) :
    Becomes (.header [name]) (some (.table .holder inner)) (.table .header inner)
  | lists {name : String} : Becomes (.listHeader [name]) none (.tables [[]])
  | listsMore {name : String} (tables : List Document) :
    Becomes (.listHeader [name]) (some (.tables tables)) (.tables (tables ++ [[]]))
  | creates {name : String} {line : Statement} {inner : Document} (origin : TableOrigin) :
    Extends line [] inner → Becomes (line.under [name]) none (.table origin inner)
  | within {name : String} {line : Statement} {inner after : Document} (origin : TableOrigin) :
    Extends line inner after →
    Becomes (line.under [name]) (some (.table origin inner)) (.table origin after)
  | withinLast {name : String} {line : Statement} {tables : List Document} {last after : Document} :
    tables.getLast? = some last → Extends line last after →
    Becomes (line.under [name]) (some (.tables tables)) (.tables (tables.dropLast ++ [after]))

inductive Extends : Statement → Document → Document → Prop where
  | put {line : Statement} {name : String} {document : Document} {old : Option DocumentEntry}
    {entry : DocumentEntry} : line.path.head? = some name → document.get? name = old →
    Becomes line old entry → Extends line document (document.put name entry)

end

section ChangeAt
variable {isKey : Bool} {change : TableOrigin → Document → Option Document} {line : Statement}

theorem extends_of_changeAt
    (each : ∀ {origin : TableOrigin} {document after : Document},
      change origin document = some after → Extends line document after)
    {origin : TableOrigin} {path : List String} {document after : Document}
    (changed : changeAt isKey change origin path document = some after) :
    Extends (line.under path) document after := by
  -- The change itself is made where the path ends; above it only the tables on the way are put back.
  induction path generalizing origin document after with
  | nil =>
    rw [Statement.under_nil]
    exact each changed
  | cons name path ih =>
    have starts : ((line.under path).under [name]).path.head? = some name := by
      rw [Statement.path_under]
      rfl
    rw [show name :: path = [name] ++ path from rfl, ← Statement.under_under]
    unfold changeAt at changed
    split at changed
    next absent =>
      obtain ⟨inner, made, rfl⟩ := Option.map_eq_some_iff.1 changed
      exact .put starts absent (.creates _ (ih made))
    next => cases changed
    next found =>
      split at changed
      · cases changed
      · obtain ⟨inner, made, rfl⟩ := Option.map_eq_some_iff.1 changed
        exact .put starts found (.within _ (ih made))
    next found =>
      obtain ⟨last, isLast, changed⟩ := Option.bind_eq_some_iff.1 changed
      obtain ⟨inner, made, rfl⟩ := Option.map_eq_some_iff.1 changed
      exact .put starts found (.withinLast isLast (ih made))

end ChangeAt

theorem extends_of_openTable {name : String} {origin : TableOrigin} {document after : Document}
    (opened : openTable name origin document = some after) : Extends (.header [name]) document after := by
  unfold openTable at opened
  split at opened
  next absent => cases opened; exact .put rfl absent .opens
  next found => cases opened; exact .put rfl found (.declares _)
  next => cases opened

theorem extends_of_openListed {name : String} {origin : TableOrigin} {document after : Document}
    (opened : openListed name origin document = some after) :
    Extends (.listHeader [name]) document after := by
  unfold openListed at opened
  split at opened
  next absent => cases opened; exact .put rfl absent .lists
  next found => cases opened; exact .put rfl found (.listsMore _)
  next => cases opened

theorem extends_of_addValue {isPath : Bool} {name : String} {origin : TableOrigin} {document after : Document}
    (added : addValue isPath name origin document = some after) : Extends (.entry [name]) document after := by
  unfold addValue at added
  split at added
  next free =>
    cases added
    rw [Bool.and_eq_true, Option.isNone_iff_eq_none] at free
    exact .put rfl free.2 .value
  next => cases added

theorem extends_of_addEntry {key : List String} {origin : TableOrigin} {document after : Document}
    (added : addEntry key origin document = some after) : Extends (.entry key) document after := by
  obtain ⟨name, last, changed⟩ := Option.bind_eq_some_iff.1 added
  have extended := extends_of_changeAt extends_of_addValue changed
  rwa [Statement.under, List.dropLast_append_getLast? name last] at extended

theorem step_cases {document after : Document} {opened opened' : List String} {statement : Statement}
    (stepped : step (document, opened) statement = some (after, opened')) :
    ∃ line, (∀ rest, lines opened (statement :: rest) = line :: lines opened' rest) ∧
      Extends line document after := by
  cases statement with
  | header path =>
    obtain ⟨name, last, stepped⟩ := Option.bind_eq_some_iff.1 stepped
    obtain ⟨_, changed, ⟨⟩⟩ := Option.map_eq_some_iff.1 stepped
    have extended := extends_of_changeAt extends_of_openTable changed
    rw [Statement.under, List.dropLast_append_getLast? name last] at extended
    exact ⟨_, fun _ => rfl, extended⟩
  | listHeader path =>
    obtain ⟨name, last, stepped⟩ := Option.bind_eq_some_iff.1 stepped
    obtain ⟨_, changed, ⟨⟩⟩ := Option.map_eq_some_iff.1 stepped
    have extended := extends_of_changeAt extends_of_openListed changed
    rw [Statement.under, List.dropLast_append_getLast? name last] at extended
    exact ⟨_, fun _ => rfl, extended⟩
  | entry key =>
    obtain ⟨_, changed, ⟨⟩⟩ := Option.map_eq_some_iff.1 stepped
    exact ⟨_, fun _ => rfl, extends_of_changeAt extends_of_addEntry changed⟩

/-! What the lines of a document have made of it -/

variable {line : Statement} {document after : Document} {written : List Statement} {name : String}

theorem Extends.mem_keys_iff (extended : Extends line document after) (key : String) :
    key ∈ after.keys ↔ line.path.head? = some key ∨ key ∈ document.keys := by
  cases extended with
  | put starts => rw [mem_keys_put, starts, Option.some.injEq, eq_comm]

theorem Extends.path_ne_nil (extended : Extends line document after) : line.path ≠ [] := by
  cases extended with
  | put starts =>
    intro none
    rw [none] at starts
    cases starts

/-- The lines make a table of the name, if anything: no value and no list of tables. -/
structure WrittenOut (written : List Statement) (name : String) : Prop where
  noValue : .entry [name] ∉ written
  noList : .listHeader [name] ∉ written

/-- One of the lines writes at the key in the table, or below it. -/
def Writes (written : List Statement) (name key : String) : Prop :=
  ∃ line ∈ written, [name, key] <+: line.path

/-- What a document with these lines has under a name: nothing if no line writes there, a value or a list
of tables if a line makes it one, and else a table with the keys that lines write at in it. -/
inductive Holds (written : List Statement) (name : String) : Option DocumentEntry → Prop where
  | absent : (∀ line ∈ written, line.path.head? ≠ some name) → Holds written name none
  | value : .entry [name] ∈ written → Holds written name (some .value)
  | tables (tables : List Document) : .listHeader [name] ∈ written →
    Holds written name (some (.tables tables))
  | table {inner : Document} (origin : TableOrigin) : WrittenOut written name →
    (∀ key, key ∈ inner.keys ↔ Writes written name key) → Holds written name (some (.table origin inner))

theorem singleton_prefix_iff {key : String} {path : List String} :
    [key] <+: path ↔ path.head? = some key := by
  cases path <;> simp [eq_comm]

theorem head?_of_ahead {key : String} (ahead : [name, key] <+: line.path) : line.path.head? = some name := by
  obtain ⟨rest, same⟩ := ahead
  rw [← same]
  rfl

theorem writes_append {key : String} :
    Writes (written ++ [line]) name key ↔ Writes written name key ∨ [name, key] <+: line.path := by
  simp only [Writes, List.mem_append, List.mem_singleton, or_and_right, exists_or, exists_eq_left]

theorem WrittenOut.append (out : WrittenOut written name) (noValue : line ≠ .entry [name])
    (noList : line ≠ .listHeader [name]) : WrittenOut (written ++ [line]) name := by
  constructor
  · rw [List.mem_append, List.mem_singleton, not_or]
    exact ⟨out.noValue, noValue.symm⟩
  · rw [List.mem_append, List.mem_singleton, not_or]
    exact ⟨out.noList, noList.symm⟩

theorem writtenOut_of_absent (absent : ∀ line ∈ written, line.path.head? ≠ some name) :
    WrittenOut written name :=
  ⟨fun member => absent _ member rfl, fun member => absent _ member rfl⟩

theorem mem_keys_nil_iff (absent : ∀ line ∈ written, line.path.head? ≠ some name) (key : String) :
    key ∈ keys [] ↔ Writes written name key :=
  ⟨nofun, fun ⟨line, member, ahead⟩ => absurd (head?_of_ahead ahead) (absent line member)⟩

theorem Holds.other {entry : Option DocumentEntry} (holds : Holds written name entry)
    (other : line.path.head? ≠ some name) : Holds (written ++ [line]) name entry := by
  cases holds with
  | absent absent => exact .absent (List.forall_mem_append.2 ⟨absent, List.forall_mem_singleton.2 other⟩)
  | value member => exact .value (List.mem_append_left _ member)
  | tables _ member => exact .tables _ (List.mem_append_left _ member)
  | table origin out keys =>
    have noValue : line ≠ .entry [name] := fun same => other (by rw [same]; rfl)
    have noList : line ≠ .listHeader [name] := fun same => other (by rw [same]; rfl)
    refine .table origin (out.append noValue noList) fun key => ?_
    rw [writes_append, keys, or_iff_left (mt head?_of_ahead other)]

theorem Holds.below {inner after : Document} (out : WrittenOut written name)
    (keys : ∀ key, key ∈ inner.keys ↔ Writes written name key) (extended : Extends line inner after)
    (origin : TableOrigin) : Holds (written ++ [line.under [name]]) name (some (.table origin after)) := by
  have notLast : (line.under [name]).path ≠ [name] := by
    rw [Statement.path_under]
    exact fun same => extended.path_ne_nil (List.append_cancel_left (same.trans (List.append_nil _).symm))
  refine .table origin (out.append ?_ ?_) fun key => ?_
  · exact fun same => notLast (by rw [same]; rfl)
  · exact fun same => notLast (by rw [same]; rfl)
  · rw [extended.mem_keys_iff, keys, writes_append, or_comm, Statement.path_under, List.singleton_append,
      List.cons_prefix_cons, singleton_prefix_iff]
    simp

theorem Holds.header {inner : Document} (out : WrittenOut written name)
    (keys : ∀ key, key ∈ inner.keys ↔ Writes written name key) :
    Holds (written ++ [.header [name]]) name (some (.table .header inner)) := by
  refine .table .header (out.append nofun nofun) fun key => ?_
  rw [keys, writes_append, Statement.path_header, or_iff_left (by simp)]

theorem Holds.becomes {old : Option DocumentEntry} {entry : DocumentEntry} (holds : Holds written name old)
    (starts : line.path.head? = some name) (becomes : Becomes line old entry) :
    Holds (written ++ [line]) name (some entry) := by
  cases becomes with
  | value =>
    cases starts
    exact .value List.mem_concat_self
  | opens =>
    cases starts
    cases holds with
    | absent absent => exact .header (writtenOut_of_absent absent) (mem_keys_nil_iff absent)
  | declares =>
    cases starts
    cases holds with
    | table _ out keys => exact .header out keys
  | lists =>
    cases starts
    exact .tables _ List.mem_concat_self
  | listsMore =>
    cases starts
    exact .tables _ List.mem_concat_self
  | creates origin below =>
    rw [Statement.path_under] at starts
    cases starts
    cases holds with
    | absent absent =>
      exact .below (writtenOut_of_absent absent) (mem_keys_nil_iff absent) below origin
  | within origin below =>
    rw [Statement.path_under] at starts
    cases starts
    cases holds with
    | table _ out keys => exact .below out keys below origin
  | withinLast =>
    cases holds with
    | tables _ member => exact .tables _ (List.mem_append_left _ member)

/-- A line of a document keeps what is held under every name in step with the lines. -/
theorem Holds.extend (holds : Holds written name (document.get? name))
    (extended : Extends line document after) : Holds (written ++ [line]) name (after.get? name) := by
  cases extended with
  | @put _ first _ _ _ starts found becomes =>
    by_cases same : name = first
    · subst same
      rw [found] at holds
      rw [get?_put_self]
      exact holds.becomes starts becomes
    · rw [get?_put_of_ne _ _ same]
      exact holds.other fun here => same (Option.some.inj (here.symm.trans starts))

/-- Every document that statements build holds what their lines write. -/
theorem holds_of_foldlM {statements : List Statement} {opened opened' : List String}
    (built : statements.foldlM step (document, opened) = some (after, opened'))
    (holds : Holds written name (document.get? name)) :
    Holds (written ++ lines opened statements) name (after.get? name) := by
  -- The lines so far are part of the induction: each statement adds its own behind them.
  induction statements generalizing document opened written with
  | nil =>
    cases built
    rwa [lines, List.append_nil]
  | cons statement statements ih =>
    rw [List.foldlM_cons] at built
    obtain ⟨⟨next, opened⟩, stepped, built⟩ := Option.bind_eq_some_iff.1 built
    obtain ⟨line, split, extended⟩ := step_cases stepped
    rw [split, List.append_cons]
    exact ih built (holds.extend extended)

theorem holds_of_ofStatements? {statements : List Statement}
    (built : ofStatements? statements = some document) (name : String) :
    Holds (lines [] statements) name (document.get? name) := by
  obtain ⟨⟨after, opened⟩, folded, rfl⟩ := Option.map_eq_some_iff.1 built
  have start : Holds [] name (get? name []) := .absent nofun
  exact holds_of_foldlM folded start

end Document
end ObjectGraph
