import SceneInspector.Toml.Basic

namespace SceneInspector.Toml

-- A document while it is read. A table is implicit while only its subtables have been named, and
-- dotted when a dotted key made it. Of a list of tables only the last can still change.
inductive Draft where
  | value (value : Toml)
  | table (implicit dotted : Bool) (entries : List (String × Draft))
  | tables (earlier : List Toml) (last : List (String × Draft))

structure Table where
  implicit : Bool := false
  dotted : Bool := false
  entries : List (String × Draft) := []

mutual
def Draft.frozen : Draft → Toml
  | .value value => value
  | .table _ _ entries => .table (frozenEntries entries)
  | .tables earlier last => .array (earlier ++ [.table (frozenEntries last)])
termination_by structural draft => draft
def frozenEntries : List (String × Draft) → List (String × Toml)
  | [] => []
  | (name, draft) :: rest => (name, draft.frozen) :: frozenEntries rest
termination_by structural entries => entries
end

namespace Table

def get? (table : Table) (name : String) : Option Draft := table.entries.lookup name

def set (table : Table) (name : String) (draft : Draft) : Table :=
  { table with
    entries := table.entries.filter (fun entry => entry.1 ≠ name) ++ [(name, draft)] }

def toDraft (table : Table) : Draft := .table table.implicit table.dotted table.entries

-- Changes the table at a path, making the tables on the way that are not there yet. A dotted key
-- does not reach into a table that a header or a value has defined.
def descend (dotted : Bool) (act : Table → Option Table) (path : List String) (table : Table) :
    Option Table :=
  match path with
  | [] => act table
  | name :: rest =>
    match table.get? name with
    | none => do
      pure (table.set name (← descend dotted act rest { implicit := true, dotted }).toDraft)
    | some (.value _) => none
    | some (.tables earlier last) => do
      pure (table.set name (.tables earlier (← descend dotted act rest { entries := last }).entries))
    | some (.table implicit wasDotted entries) =>
      if dotted && !implicit then none
      else do
        pure (table.set name (← descend dotted act rest ⟨implicit, wasDotted, entries⟩).toDraft)

def add (path : List String) (name : String) (value : Toml) (table : Table) : Option Table :=
  table.descend true (fun last =>
    if last.dotted = path.isEmpty then none
    else match last.get? name with
      | some _ => none
      | none => some (last.set name (.value value))) path

def openTable (path : List String) (name : String) (root : Table) : Option Table :=
  root.descend false (fun parent =>
    match parent.get? name with
    | none => some (parent.set name (.table false false []))
    | some (.table true false entries) => some (parent.set name (.table false false entries))
    | some _ => none) path

def openNext (path : List String) (name : String) (root : Table) : Option Table :=
  root.descend false (fun parent =>
    match parent.get? name with
    | none => some (parent.set name (.tables [] []))
    | some (.tables earlier last) =>
      some (parent.set name (.tables (earlier ++ [.table (frozenEntries last)]) []))
    | some _ => none) path

end SceneInspector.Toml.Table
