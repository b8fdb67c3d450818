import RequestRouter.Toml.Value

/-!
# TOML tables under construction

A document names its tables in headers and in dotted keys. Each table remembers how it came to
be, because that decides whether a later line may add to it.
-/

namespace RequestRouter.Toml

inductive Origin where
  /-- Named by a header of its own. -/
  | header
  /-- Named on the way to a deeper table of a header. -/
  | implied
  /-- Named on the way to the end of a dotted key, perhaps after a header implied it. -/
  | dotted
deriving DecidableEq

/-- A value or a table that can still grow. -/
inductive Node where
  | leaf (v : Toml)
  | table (origin : Origin) (members : List (String × Node))
  /-- The tables of an array of tables, last one first. -/
  | tables (members : List (List (String × Node)))

abbrev Members := List (String × Node)

/-- The members with one member set, in the place of one of the same name. -/
def setMember (name : String) (node : Node) : Members → Members
  | [] => [(name, node)]
  | (n, x) :: rest => if n = name then (n, node) :: rest else (n, x) :: setMember name node rest

/-- Adds a value under a dotted key. The way there may lead through the last table of an array,
but neither through a table with a header of its own nor to the table of an array. The other
tables on the way count as named by the key from then on, so no header may open them later. -/
def addValue (v : Toml) : (key : List String) → Members → Option Members
  | [], _ => none
  | [name], ms =>
    match ms.lookup name with
    | some _ => none
    | none => some (setMember name (.leaf v) ms)
  | name :: next :: rest, ms =>
    match ms.lookup name with
    | none =>
      (addValue v (next :: rest) []).map fun inner => setMember name (.table .dotted inner) ms
    | some (.table origin inner) =>
      if origin = .header then none
      else
        (addValue v (next :: rest) inner).map fun inner =>
          setMember name (.table .dotted inner) ms
    | some (.tables (inner :: others)) =>
      if rest.isEmpty then none
      else
        (addValue v (next :: rest) inner).map fun inner =>
          setMember name (.tables (inner :: others)) ms
    | some _ => none

/-- Changes the table that the path leads to, along tables and the last tables of arrays. -/
def onTable (f : Members → Option Members) : (path : List String) → Members → Option Members
  | [], ms => f ms
  | name :: rest, ms =>
    match ms.lookup name with
    | none => (onTable f rest []).map fun inner => setMember name (.table .implied inner) ms
    | some (.table origin inner) =>
      (onTable f rest inner).map fun inner => setMember name (.table origin inner) ms
    | some (.tables (inner :: others)) =>
      (onTable f rest inner).map fun inner => setMember name (.tables (inner :: others)) ms
    | some _ => none

def openTable (name : String) (ms : Members) : Option Members :=
  match ms.lookup name with
  | none => some (setMember name (.table .header []) ms)
  | some (.table .implied inner) => some (setMember name (.table .header inner) ms)
  | some _ => none

/-- Opens one more table of the array `name` for a header. -/
def openNext (name : String) (ms : Members) : Option Members :=
  match ms.lookup name with
  | none => some (setMember name (.tables [[]]) ms)
  | some (.tables others) => some (setMember name (.tables ([] :: others)) ms)
  | some _ => none

mutual

def Node.value : Node → Toml
  | .leaf v => v
  | .table _ members => .table (valuesOf members)
  | .tables all => .array (tablesOf all).reverse

def valuesOf : List (String × Node) → List (String × Toml)
  | [] => []
  | (name, node) :: rest => (name, node.value) :: valuesOf rest

def tablesOf : List (List (String × Node)) → List Toml
  | [] => []
  | members :: rest => .table (valuesOf members) :: tablesOf rest

end

end RequestRouter.Toml
