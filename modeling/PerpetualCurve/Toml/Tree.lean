import PerpetualCurve.Toml.Value

/-!
# Tables under construction

The lines of a document add to tables in any order, under three rules. A value is given once. A
table has at most one header, and none if a dotted name brought it about. A dotted name gives a
value only to a table that dotted names brought about.
-/

namespace PerpetualCurve.Toml

/-- What brought a table about. -/
inductive Origin where
  /-- Its own header, or the document itself. -/
  | header
  /-- The header of a table within it. -/
  | path
  /-- A dotted name. -/
  | dotted
  deriving DecidableEq

/-- A table, a list of tables or a value of a document that is being read. -/
inductive Node where
  | value (value : Value)
  | table (origin : Origin) (entries : List (String × Node))
  /-- The tables with the same header in double brackets; the last one is open. -/
  | tables (elements : List (List (String × Node)))

/-- The entries of a table that is being read. -/
abbrev Entries := List (String × Node)

mutual

/-- The finished value of a node. -/
def Node.finish : Node → Value
  | .value given => given
  | .table _ entries => .table (finishTable entries)
  | .tables elements => .array (finishElements elements)

/-- The finished table with given entries. -/
def Node.finishTable : List (String × Node) → Table
  | [] => []
  | (name, node) :: entries => (name, node.finish) :: finishTable entries

/-- The finished tables of a list. -/
def Node.finishElements : List (List (String × Node)) → List Value
  | [] => []
  | entries :: elements => .table (finishTable entries) :: finishElements elements

end

/-- A value for the name `name` in the table that the names `path` lead to. -/
structure Assignment where
  path : List String
  name : String
  value : Value

namespace Entries

/-- The entries with another node at a name. -/
def put (name : String) (node : Node) : Entries → Entries
  | [] => [(name, node)]
  | (other, old) :: entries =>
    if other = name then (name, node) :: entries else (other, old) :: put name node entries

/-- The entries with a value at a name that is still free. -/
def add? (name : String) (value : Value) (entries : Entries) : Option Entries :=
  match entries.lookup name with
  | none => some (entries ++ [(name, .value value)])
  | some _ => none

/-- The entries after an edit of the table at the end of a path. Tables that are missing on the way
come about, by a dotted name or by a path of a header. -/
def editAt (dotted : Bool) (edit : Origin → Entries → Option Entries) :
    (path : List String) → Origin → Entries → Option Entries
  | [], origin, entries => edit origin entries
  | name :: path, _, entries =>
    match entries.lookup name with
    | none =>
      let origin := if dotted then .dotted else .path
      (editAt dotted edit path origin []).map fun inner => entries ++ [(name, .table origin inner)]
    | some (.value _) => none
    | some (.table origin inner) =>
      if dotted ∧ origin = .header then none
      else
        (editAt dotted edit path origin inner).map fun inner =>
          put name (.table origin inner) entries
    | some (.tables elements) =>
      (editAt dotted edit path .header (elements.getLast?.getD [])).map fun inner =>
        put name (.tables (elements.dropLast ++ [inner])) entries

/-- The entries with a value at a dotted name. -/
def assign? (assignment : Assignment) (entries : Entries) : Option Entries :=
  let edit (origin : Origin) (inner : Entries) : Option Entries :=
    if assignment.path.isEmpty ∨ origin = .dotted then inner.add? assignment.name assignment.value
    else none
  entries.editAt true edit assignment.path .header

/-- The entries without those of a name. -/
def erase (name : String) (entries : Entries) : Entries := entries.filter (·.1 != name)

/-- The entries with a table opened by its header. A table stands where its header stands, also if a
path brought it about earlier. -/
def openTable? (path : List String) (name : String) (entries : Entries) : Option Entries :=
  let edit (_ : Origin) (inner : Entries) : Option Entries :=
    match inner.lookup name with
    | none => some (inner ++ [(name, .table .header [])])
    | some (.table .path entries) => some (inner.erase name ++ [(name, .table .header entries)])
    | some _ => none
  entries.editAt false edit path .header

/-- The entries with one more table opened by a header in double brackets. -/
def openElement? (path : List String) (name : String) (entries : Entries) : Option Entries :=
  let edit (_ : Origin) (inner : Entries) : Option Entries :=
    match inner.lookup name with
    | none => some (inner ++ [(name, .tables [[]])])
    | some (.tables elements) => some (inner.put name (.tables (elements ++ [[]])))
    | some _ => none
  entries.editAt false edit path .header

/-- The value of an inline table, given by its assignments in order. -/
def ofInline? (assignments : List Assignment) : Option Value :=
  (assignments.foldlM (fun entries assignment => assign? assignment entries) []).map
    fun entries => .table (Node.finishTable entries)

end Entries

/-- A line of a document that says something. -/
inductive Line where
  /-- A value for a dotted name. -/
  | assignment (assignment : Assignment)
  /-- The header of a table. -/
  | header (path : List String) (name : String)
  /-- The header, in double brackets, of one more table of a list. -/
  | elementHeader (path : List String) (name : String)

/-- The tables read so far, and the path of the one that is open. -/
structure Draft where
  entries : Entries
  current : List String

/-- One line further. -/
def Draft.add? (draft : Draft) : Line → Option Draft
  | .assignment given =>
    (draft.entries.editAt false (fun _ inner => inner.assign? given) draft.current .header).map
      fun entries => { draft with entries }
  | .header path name =>
    (draft.entries.openTable? path name).map fun entries => ⟨entries, path ++ [name]⟩
  | .elementHeader path name =>
    (draft.entries.openElement? path name).map fun entries => ⟨entries, path ++ [name]⟩

/-- The table that the lines of a document describe. -/
def tableOf? (lines : List Line) : Option Table :=
  (lines.foldlM Draft.add? ⟨[], []⟩).map fun draft => Node.finishTable draft.entries

end PerpetualCurve.Toml
