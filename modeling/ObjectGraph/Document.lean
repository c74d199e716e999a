/-!
Documents of named entries in tables. A document is built by statements: a header opens a table,
and the entries after it belong to that table. A key may be a path, whose tables come to be with
the first entry in them. A table is declared once: a second header for it, or an entry put into it
from outside, makes the document invalid.
-/

set_option autoImplicit false
namespace ObjectGraph

/-- How a table came to be: by a header of its own, as the holder of a table with a header, or as
the holder of an entry whose key is a path. -/
inductive TableOrigin where
  | header
  | holder
  | path
deriving DecidableEq, Repr

/-- An entry: a value, about which nothing is asked, a table, or a list of tables. -/
inductive DocumentEntry where
  | value
  | table (origin : TableOrigin) (entries : List (String × DocumentEntry))
  | tables (tables : List (List (String × DocumentEntry)))
deriving Repr

/-- A document: its entries by name, in the order in which they came to be. -/
abbrev Document := List (String × DocumentEntry)

inductive Statement where
  | header (path : List String)
  | listHeader (path : List String)
  | entry (path : List String)
deriving DecidableEq, Repr

namespace Document

def get? (name : String) : Document → Option DocumentEntry
  | [] => none
  | (n, entry) :: rest => if n = name then some entry else get? name rest

def put (name : String) (entry : DocumentEntry) : Document → Document
  | [] => [(name, entry)]
  | (n, old) :: rest => if n = name then (name, entry) :: rest else (n, old) :: put name entry rest

@[simp] theorem get?_put_self (name : String) (entry : DocumentEntry) (document : Document) :
    get? name (put name entry document) = some entry := by
  fun_induction put name entry document <;> simp_all [get?]

theorem get?_put_of_ne (entry : DocumentEntry) (document : Document) {name other : String}
    (h : other ≠ name) : get? other (put name entry document) = get? other document := by
  fun_induction put name entry document with
  | case1 => simp [get?, h.symm]
  | case2 => simp [get?, h.symm]
  | case3 n old rest hn ih => simp only [get?, ih]

/-- Changes the table at a path, whose tables come to be where they are missing. Of a list of tables
the last one is meant. The path of a key does not lead into a table that has a header. -/
def changeAt (isKey : Bool) (change : TableOrigin → Document → Option Document) :
    TableOrigin → List String → Document → Option Document
  | origin, [], document => change origin document
  | _, name :: path, document =>
    match document.get? name with
    | none =>
      let origin : TableOrigin := if isKey then .path else .holder
      (changeAt isKey change origin path []).map fun inner =>
        document.put name (.table origin inner)
    | some .value => none
    | some (.table origin inner) =>
      if isKey && origin = .header then none
      else
        (changeAt isKey change origin path inner).map fun inner =>
          document.put name (.table origin inner)
    | some (.tables tables) =>
      tables.getLast?.bind fun last =>
        (changeAt isKey change .header path last).map fun inner =>
          document.put name (.tables (tables.dropLast ++ [inner]))

/-- Adds a value to a table under a name that it does not have yet. The table came to be by a path
just if the value's key is one. -/
def addValue (isPath : Bool) (name : String) (origin : TableOrigin) (table : Document) :
    Option Document :=
  if (origin = .path) = isPath && (table.get? name).isNone then some (table.put name .value)
  else none

/-- Adds the value of a key to a table that came to be in this way. -/
def addEntry (key : List String) (origin : TableOrigin) (table : Document) : Option Document :=
  key.getLast?.bind fun name =>
    changeAt true (addValue (key.length != 1) name) origin key.dropLast table

/-- Opens a table by its header: a new one, or one that only held others so far. -/
def openTable (name : String) (_ : TableOrigin) (holder : Document) : Option Document :=
  match holder.get? name with
  | none => some (holder.put name (.table .header []))
  | some (.table .holder inner) => some (holder.put name (.table .header inner))
  | some _ => none

def openListed (name : String) (_ : TableOrigin) (holder : Document) : Option Document :=
  match holder.get? name with
  | none => some (holder.put name (.tables [[]]))
  | some (.tables tables) => some (holder.put name (.tables (tables ++ [[]])))
  | some _ => none

/-- The document after a statement, and the path of the table that is open then. -/
def step (state : Document × List String) : Statement → Option (Document × List String)
  | .header path =>
    path.getLast?.bind fun name =>
      (changeAt false (openTable name) .header path.dropLast state.1).map (·, path)
  | .listHeader path =>
    path.getLast?.bind fun name =>
      (changeAt false (openListed name) .header path.dropLast state.1).map (·, path)
  | .entry key =>
    (changeAt false (addEntry key) .header state.2 state.1).map (·, state.2)

def ofStatements? (statements : List Statement) : Option Document :=
  (statements.foldlM step ([], [])).map (·.1)

end Document
end ObjectGraph
