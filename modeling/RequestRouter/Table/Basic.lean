import RequestRouter.Table.Join

/-!
# Tables

A table holds values under distinct names, in increasing order of the names. Records, schemas,
sets of mixins and extensions are tables. Every operation of two tables is one joint walk that
keeps, for each name, what `combine`'s argument makes of it.
-/

namespace RequestRouter

universe u v w

/-- Values under distinct names, by increasing name. -/
structure Table (α : Type u) where
  entries : List (Entry α)
  increasing : Increasing entries

namespace Table

variable {α : Type u} {β : Type v} {γ : Type w}

@[ext] theorem ext {a b : Table α} (h : a.entries = b.entries) : a = b := by
  cases a; cases b; cases h; rfl

def empty : Table α := ⟨[], List.Pairwise.nil⟩

instance : Inhabited (Table α) := ⟨empty⟩

instance [BEq α] : BEq (Table α) := ⟨fun a b => a.entries == b.entries⟩

instance [DecidableEq α] : DecidableEq (Table α) := fun a b =>
  decidable_of_iff (a.entries = b.entries) ⟨ext, fun h => h ▸ rfl⟩

def single (name : String) (value : α) : Table α :=
  ⟨[(name, value)], List.pairwise_singleton _ _⟩

def names (t : Table α) : List String :=
  Entry.names t.entries

def size (t : Table α) : Nat :=
  t.entries.length

def isEmpty (t : Table α) : Bool :=
  t.entries.isEmpty

/-- A halving search: at each step the middle entry, then the half that can hold the name. Its
first argument bounds the length of the list. -/
def search (name : String) : Nat → List (Entry α) → Option α
  | 0, _ => none
  | bound + 1, entries =>
    let middle := entries.length / 2
    match entries.drop middle with
    | [] => none
    | (n, value) :: upper =>
      if n = name then some value
      else if name < n then search name bound (entries.take middle)
      else search name bound upper

def get? (t : Table α) (name : String) : Option α :=
  search name t.entries.length t.entries

def contains (t : Table α) (name : String) : Bool :=
  (t.get? name).isSome

/-- The table of what `f` makes of each name of `a` and `b`. -/
def combine (f : Joined α β → Option γ) (a : Table α) (b : Table β) : Table γ where
  entries := (join a.entries b.entries).filterMap fun j => (f j).map (j.name, ·)
  increasing := by
    refine (join_increasing a.increasing b.increasing).filterMap _ ?_
    intro i j h x hx y hy
    obtain ⟨_, _, rfl⟩ := Option.map_eq_some_iff.1 hx
    obtain ⟨_, _, rfl⟩ := Option.map_eq_some_iff.1 hy
    exact h

/-- All names of both tables; on a shared name the value of `newer` wins. -/
def union (older newer : Table α) : Table α :=
  combine (fun
    | .left _ a => some a
    | .right _ b => some b
    | .both _ _ b => some b) older newer

/-- The entries of `a` whose name `b` has too. -/
def intersection (a : Table α) (b : Table β) : Table α :=
  combine (fun
    | .both _ x _ => some x
    | _ => none) a b

/-- The names that exactly one table has. -/
def difference (a b : Table α) : Table α :=
  combine (fun
    | .left _ x => some x
    | .right _ y => some y
    | .both _ _ _ => none) a b

def subtract (a : Table α) (b : Table β) : Table α :=
  combine (fun
    | .left _ x => some x
    | _ => none) a b

def insert (t : Table α) (name : String) (value : α) : Table α :=
  t.union (single name value)

/-- The table of the entries; the last of repeated names wins. -/
def ofList (entries : List (Entry α)) : Table α :=
  entries.foldl (fun t e => t.insert e.1 e.2) empty

/-- The table of entries with distinct names, else the least repeated name. -/
def ofDistinct (entries : List (Entry α)) : Except String (Table α) :=
  match h : Entry.firstRepeat (Entry.sorted entries) with
  | some name => .error name
  | none => .ok ⟨Entry.sorted entries,
      Entry.increasing_of_firstRepeat_eq_none (Entry.pairwise_sorted entries) h⟩

def map (f : α → β) (t : Table α) : Table β :=
  ⟨t.entries.map fun e => (e.1, f e.2), by
    unfold Increasing
    rw [List.pairwise_map]
    exact t.increasing⟩

def filter (p : Entry α → Bool) (t : Table α) : Table α :=
  ⟨t.entries.filter p, t.increasing.filter p⟩

end Table

end RequestRouter
