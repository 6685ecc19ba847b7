import ApiGateway.Toml.Basic

/-! # Building TOML tables

A table comes about in one of four ways, which decide how it may be added to later: by a header of
its own, by a header of a table inside it, by a dotted key, or as one value. A key is never defined
twice.
-/

namespace ApiGateway.Toml

inductive TableKind
  | header
  | implied
  | dotted
  deriving DecidableEq, Repr

/-- What a key of an unfinished document holds. Of an array of tables the last one is open. -/
inductive Node
  | value (value : Toml)
  | table (kind : TableKind) (entries : List (Text × Node))
  | tables (items : List (List (Text × Node)))
  deriving Repr

abbrev Entries := List (Text × Node)

namespace Entries

def get? (key : Text) (entries : Entries) : Option Node :=
  (entries.find? (·.1 = key)).map (·.2)

/-- Gives a key a node, in its place if it has one and at the end if not. -/
def put (key : Text) (node : Node) : Entries → Entries
  | [] => [(key, node)]
  | (k, n) :: rest => if k = key then (k, node) :: rest else (k, n) :: put key node rest

def erase (key : Text) (entries : Entries) : Entries := entries.filter (·.1 ≠ key)

def updateLast (f : Entries → Option Entries) : List Entries → Option (List Entries)
  | [] => none
  | [last] => (f last).map fun e => [e]
  | first :: rest => (updateLast f rest).map (first :: ·)

/-- Changes the table that a path of headers leads to. Tables that are not there yet are implied;
a value is in the way. -/
def atHeader (f : Entries → Option Entries) : List Text → Entries → Option Entries
  | [], entries => f entries
  | key :: path, entries =>
    match entries.get? key with
    | none => do some (entries.put key (.table .implied (← atHeader f path [])))
    | some (.value _) => none
    | some (.table kind inner) => do
      some (entries.put key (.table kind (← atHeader f path inner)))
    | some (.tables items) => do
      some (entries.put key (.tables (← updateLast (atHeader f path) items)))

/-- Defines a key that is not defined yet. -/
def define (key : Text) (value : Toml) (entries : Entries) : Option Entries :=
  if (entries.get? key).isSome then none else some (entries ++ [(key, .value value)])

/-- Defines a key in the table that the dotted keys before it lead to. They must not lead into a
table with a header of its own, and the last one must lead to a dotted table. -/
def defineDotted (key : Text) (value : Toml) (kind : TableKind) :
    List Text → Entries → Option Entries
  | [], entries => if kind = .dotted then entries.define key value else none
  | k :: path, entries =>
    match entries.get? k with
    | none => do
      some (entries.put k (.table .dotted (← defineDotted key value .dotted path [])))
    | some (.value _) => none
    | some (.table .header _) => none
    | some (.table kind inner) => do
      some (entries.put k (.table kind (← defineDotted key value kind path inner)))
    | some (.tables items) => do
      some (entries.put k (.tables
        (← updateLast (defineDotted key value .header path) items)))

def addPair (path : List Text) (key : Text) (value : Toml) (entries : Entries) : Option Entries :=
  if path = [] then entries.define key value
  else entries.defineDotted key value .header path

/-- Opens a table with a header. One that was only implied moves to the end. -/
def openTable (key : Text) (entries : Entries) : Option Entries :=
  match entries.get? key with
  | none => some (entries ++ [(key, .table .header [])])
  | some (.table .implied inner) => some (entries.erase key ++ [(key, .table .header inner)])
  | some _ => none

/-- Opens the next table of an array of tables. -/
def openItem (key : Text) (entries : Entries) : Option Entries :=
  match entries.get? key with
  | none => some (entries ++ [(key, .tables [[]])])
  | some (.tables items) => some (entries.put key (.tables (items ++ [[]])))
  | some _ => none

end Entries

mutual

def Node.toml : Node → Toml
  | .value v => v
  | .table _ entries => .table (entryValues entries)
  | .tables items => .array (itemValues items)

def entryValues : List (Text × Node) → List (Text × Toml)
  | [] => []
  | (key, node) :: rest => (key, node.toml) :: entryValues rest

def itemValues : List (List (Text × Node)) → List Toml
  | [] => []
  | entries :: rest => .table (entryValues entries) :: itemValues rest

end

def tableOfPairs? (pairs : List (List Text × Text × Toml)) : Option Toml :=
  (pairs.foldlM (fun entries (path, key, value) => Entries.addPair path key value entries)
    ([] : Entries)).map fun entries => .table (entryValues entries)

end ApiGateway.Toml
