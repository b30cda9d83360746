import Testbed.Toml.Value

/-!
# Defining keys and tables

A document defines its keys one after another, and each key once. Tables come into being in three
ways: by a header of their own, by a longer header, or by a dotted key. `define` and `open?` say
which of these may meet in one place.
-/

namespace Testbed.Toml

/-- How a table has come into being. -/
inductive Origin where
  /-- By a header of its own. -/
  | header
  /-- By the header of a table in it. -/
  | outer
  /-- By a dotted key. -/
  | dotted
  deriving DecidableEq, Repr

/-- A dotted key may go on into a table of this origin, with `left` parts to come. The table that
the last part goes into is one of dotted keys. -/
def Origin.extends (left : Nat) : Origin → Bool
  | .dotted => true
  | .outer => 2 ≤ left
  | .header => false

/-- What is defined under a key so far. -/
inductive Node where
  /-- A value that is complete. -/
  | value (value : Value)
  | table (origin : Origin) (entries : List (String × Node))
  /-- An array of tables, the newest first. -/
  | tables (elements : List (List (String × Node)))

abbrev Entries := List (String × Node)

namespace Entries

/-- Puts a node in the place of the one under a key, or at the end. -/
def put (key : String) (node : Node) : Entries → Entries
  | [] => [(key, node)]
  | (k, n) :: rest => if k = key then (k, node) :: rest else (k, n) :: put key node rest

/-- Defines a key. A key of several parts goes on into tables, which come into being on the way. -/
def define (value : Value) : List String → Entries → Option Entries
  | [], _ => none
  | [key], entries =>
    if (entries.lookup key).isNone then some (put key (.value value) entries) else none
  | key :: path, entries =>
    match entries.lookup key with
    | none => do return put key (.table .dotted (← define value path [])) entries
    | some (.table origin inner) => do
      if Origin.extends path.length origin then
        return put key (.table origin (← define value path inner)) entries
      else none
    | some (.tables (newest :: older)) => do
      if 2 ≤ path.length then
        return put key (.tables ((← define value path newest) :: older)) entries
      else none
    | some _ => none

/-- Changes the table that a header names, which is the newest of an array of tables. Tables on the
way there come into being. -/
def atHeader (change : Entries → Option Entries) : List String → Entries → Option Entries
  | [], entries => change entries
  | key :: path, entries =>
    match entries.lookup key with
    | none => do return put key (.table .outer (← atHeader change path [])) entries
    | some (.table origin inner) => do
      return put key (.table origin (← atHeader change path inner)) entries
    | some (.tables (newest :: older)) => do
      return put key (.tables ((← atHeader change path newest) :: older)) entries
    | some _ => none

/-- Begins a table with a header of its own. -/
def openTable (key : String) (entries : Entries) : Option Entries :=
  match entries.lookup key with
  | none => some (put key (.table .header []) entries)
  | some (.table .outer inner) => some (put key (.table .header inner) entries)
  | some _ => none

/-- Begins the next table of an array of tables. -/
def openElement (key : String) (entries : Entries) : Option Entries :=
  match entries.lookup key with
  | none => some (put key (.tables [[]]) entries)
  | some (.tables elements) => some (put key (.tables ([] :: elements)) entries)
  | some _ => none

/-- Lets `change` begin something at the end of a path. -/
def openAt (change : String → Entries → Option Entries) (path : List String) (entries : Entries) :
    Option Entries :=
  match path.getLast? with
  | some key => atHeader (change key) path.dropLast entries
  | none => none

end Entries

/-- One statement of a document. -/
inductive Statement where
  | table (path : List String)
  | element (path : List String)
  | define (path : List String) (value : Value)

/-- A document as far as it has been read: what is defined, and the table that keys go into. -/
structure Definitions where
  entries : Entries := []
  header : List String := []

/-- What is defined after a statement, when it may stand there. -/
def Definitions.state? (d : Definitions) : Statement → Option Definitions
  | .table path => do return ⟨← Entries.openAt Entries.openTable path d.entries, path⟩
  | .element path => do return ⟨← Entries.openAt Entries.openElement path d.entries, path⟩
  | .define path value => do
    return { d with entries := ← Entries.atHeader (Entries.define value path) d.header d.entries }

mutual

/-- The value that a node stands for. -/
def Node.toValue : Node → Value
  | .value v => v
  | .table _ entries => .table (entriesValue entries)
  | .tables elements => .array (elementsValue elements).reverse

def entriesValue : List (String × Node) → List (String × Value)
  | [] => []
  | (key, node) :: rest => (key, node.toValue) :: entriesValue rest

def elementsValue : List (List (String × Node)) → List Value
  | [] => []
  | entries :: rest => .table (entriesValue entries) :: elementsValue rest

end

/-- The table that statements define in order. -/
def tableOf? (statements : List Statement) : Option Value := do
  let d ← statements.foldlM Definitions.state? {}
  return .table (entriesValue d.entries)

/-- The table that dotted keys define in order, as between braces. -/
def inlineTable? (entries : List (List String × Value)) : Option Value :=
  tableOf? (entries.map fun (path, value) => .define path value)

end Testbed.Toml
