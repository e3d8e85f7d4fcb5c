import TruckDepot.Toml

/-!
# TOML documents under construction

A document is filled key by key, and what a later line may still add to a table depends on how the
table came to be. `Table` and `Node` keep that; `Table.toToml` drops it once the document is
complete.

* A table of the document's own header or of an inline table is *declared*: a header may not name it
  again, and no dotted key may reach into it from outside.
* A table that only stood on the way to a header is *opened*: its own header may still come, once.
* A table that only stood on the way to a key is *dotted*: further dotted keys may add to it, and no
  header may.
-/

namespace TruckDepot.Toml

/-- How a table came to be. -/
inductive Origin where
  /-- It was written as a table. -/
  | declared
  /-- A header named a table inside of it. -/
  | opened
  /-- A dotted key named a value inside of it. -/
  | dotted
  deriving DecidableEq, Repr

/-- A table under construction, its entries of a given kind. -/
structure Table (ν : Type) where
  /-- How it came to be. -/
  origin : Origin
  /-- Its entries in the order in which they were added. -/
  entries : List (String × ν)
  deriving Repr

/-- A dotted key: the names on the way to a table, and a name in that table. -/
structure Key where
  /-- The way to the table, outermost name first. -/
  path : List String
  /-- The name in the table. -/
  name : String
  deriving DecidableEq, Repr

/-- What a key of a document under construction leads to. -/
inductive Node where
  /-- A value. -/
  | value (value : Toml)
  /-- A table. -/
  | table (table : Table Node)
  /-- An array of tables, whose newest table may still grow. -/
  | tables (newest : Table Node) (older : List (Table Node))

/-! ### One table -/

namespace Table

variable {ν : Type}

/-- A table without entries. -/
def empty (origin : Origin) : Table ν :=
  ⟨origin, []⟩

/-- What a key leads to. -/
def get? (t : Table ν) (key : String) : Option ν :=
  t.entries.lookup key

/-- The table with a key that leads to the given value, in the place of the key's old value if there
is one. -/
def put (t : Table ν) (key : String) (value : ν) : Table ν :=
  if t.entries.any (·.1 == key) then
    { t with entries := t.entries.map fun e => if e.1 == key then (key, value) else e }
  else { t with entries := t.entries ++ [(key, value)] }

/-- Changes the table that a path leads to. A key that is missing on the way gets a new table, and
an array of tables leads to its newest. A path of a dotted key enters no table that was declared.
-/
def within (dotted : Bool) (change : Table Node → Option (Table Node)) :
    List String → Table Node → Option (Table Node)
  | [], t => change t
  | key :: path, t =>
    match t.get? key with
    | none =>
      (within dotted change path (empty (if dotted then .dotted else .opened))).map fun child =>
        t.put key (.table child)
    | some (.value _) => none
    | some (.table child) =>
      if dotted && child.origin = .declared then none
      else (within dotted change path child).map fun child => t.put key (.table child)
    | some (.tables newest older) =>
      (within dotted change path newest).map fun newest => t.put key (.tables newest older)

/-- Gives a value to a key that has none yet. Behind a path, the table must be one that only dotted
keys have made; without a path it must be any other. -/
def assign (t : Table Node) (key : Key) (value : Toml) : Option (Table Node) :=
  t.within true (fun target =>
    if decide (target.origin = .dotted) == key.path.isEmpty || (target.get? key.name).isSome then
      none
    else some (target.put key.name (.value value))) key.path

/-- Declares a table that is new, or was only opened so far. -/
def declare (t : Table Node) (name : String) : Option (Table Node) :=
  match t.get? name with
  | none => some (t.put name (.table (empty .declared)))
  | some (.table child) =>
    if child.origin = .opened then some (t.put name (.table { child with origin := .declared }))
    else none
  | _ => none

/-- Adds a table to an array of tables, which may be new. -/
def extend (t : Table Node) (name : String) : Option (Table Node) :=
  match t.get? name with
  | none => some (t.put name (.tables (empty .declared) []))
  | some (.tables newest older) => some (t.put name (.tables (empty .declared) (newest :: older)))
  | _ => none

end Table

/-! ### What is built in the end -/

mutual

/-- The value that a node stands for. -/
def Node.toToml : Node → Toml
  | .value value => value
  | .table t => Table.toToml t
  | .tables newest older => .array (Node.olderToToml older [Table.toToml newest])

/-- The table as a value. -/
def Table.toToml : Table Node → Toml
  | ⟨_, entries⟩ => .table (Node.entriesToToml entries)

/-- The entries of a table as values. -/
def Node.entriesToToml : List (String × Node) → List (String × Toml)
  | [] => []
  | (key, node) :: rest => (key, node.toToml) :: Node.entriesToToml rest

/-- The older tables of an array, last one first, in front of the newer ones. -/
def Node.olderToToml : List (Table Node) → List Toml → List Toml
  | [], newer => newer
  | t :: older, newer => Node.olderToToml older (Table.toToml t :: newer)

end

/-! ### The document -/

/-- A document under construction. -/
structure Document where
  /-- All that it holds so far. -/
  root : Table Node
  /-- The way to the table that the last header named. -/
  home : List String

namespace Document

/-- A document without content. -/
def empty : Document :=
  ⟨.empty .declared, []⟩

/-- Gives a value to a key below the last header. -/
def assign (d : Document) (key : Key) (value : Toml) : Option Document :=
  (d.root.within false (·.assign key value) d.home).map fun root => { d with root }

/-- Takes the header of a table. -/
def openTable (d : Document) (key : Key) : Option Document :=
  (d.root.within false (·.declare key.name) key.path).map (⟨·, key.path ++ [key.name]⟩)

/-- Takes the header of a table in an array of tables. -/
def openElement (d : Document) (key : Key) : Option Document :=
  (d.root.within false (·.extend key.name) key.path).map (⟨·, key.path ++ [key.name]⟩)

/-- The document as a value. -/
def toToml (d : Document) : Toml :=
  d.root.toToml

end Document

end TruckDepot.Toml
