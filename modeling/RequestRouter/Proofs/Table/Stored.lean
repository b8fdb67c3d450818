import RequestRouter.Proofs.Table.Lookup

/-!
# Stored entries

What the operations of tables do to the lists of entries that are stored: a walk over two lists, a
fold that puts one pair after the other, a sort that refuses a repeated name. On plain lists nothing
is known about the order, and none of these functions looks at it. Each operation of tables stores
exactly what its plain function makes of what was stored.
-/

namespace RequestRouter

universe u v w

variable {α : Type u} {β : Type v} {γ : Type w}

inductive Operation where
  | union
  | intersection
  | difference
  | subtract
deriving Repr, DecidableEq

namespace Operation

def apply : Operation → Table α → Table α → Table α
  | .union => Table.union
  | .intersection => Table.intersection
  | .difference => Table.difference
  | .subtract => Table.subtract

end Operation

namespace Joined

def newer : Joined α α → Option α
  | .left _ x => some x
  | .right _ y => some y
  | .both _ _ y => some y

/-- The left value of a name that both sides have. -/
def shared : Joined α β → Option α
  | .both _ x _ => some x
  | _ => none

/-- The value of a name that one side has. -/
def lone : Joined α α → Option α
  | .left _ x => some x
  | .right _ y => some y
  | .both _ _ _ => none

def leftOnly : Joined α β → Option α
  | .left _ x => some x
  | _ => none

end Joined

def Operation.choose : Operation → Joined α α → Option α
  | .union => Joined.newer
  | .intersection => Joined.shared
  | .difference => Joined.lone
  | .subtract => Joined.leftOnly

namespace Entry

def merge (choose : Joined α β → Option γ) (as : List (Entry α)) (bs : List (Entry β)) :
    List (Entry γ) :=
  (join as bs).filterMap fun j => (choose j).map (j.name, ·)

def put (stored : List (Entry α)) (name : String) (value : α) : List (Entry α) :=
  merge Joined.newer stored [(name, value)]

def collect (entries : List (Entry α)) : List (Entry α) :=
  entries.foldl (fun stored e => put stored e.1 e.2) []

/-- The entries in the order of their names, if no name comes twice. -/
def arrange? (entries : List (Entry α)) : Option (List (Entry α)) :=
  if (firstRepeat (sorted entries)).isNone then some (sorted entries) else none

/-- A name beyond all others is put at the end. -/
theorem put_of_forall_lt {stored : List (Entry α)} {name : String} {value : α}
    (beyond : ∀ e ∈ stored, e.1 < name) : put stored name value = stored ++ [(name, value)] := by
  induction stored with
  | nil => rfl
  | cons e rest ih =>
    have before : e.1 < name := beyond e List.mem_cons_self
    have others := ih fun x member => beyond x (List.mem_cons_of_mem e member)
    rw [put, merge, join_cons_cons, if_pos before]
    exact congrArg (e :: ·) others

end Entry

namespace Table

theorem entries_apply (op : Operation) (a b : Table α) :
    (op.apply a b).entries = Entry.merge op.choose a.entries b.entries := by
  cases op <;> rfl

theorem entries_insert (t : Table α) (name : String) (value : α) :
    (t.insert name value).entries = Entry.put t.entries name value :=
  entries_apply .union t (single name value)

theorem entries_foldl_insert (entries : List (Entry α)) (t : Table α) :
    (entries.foldl (fun t e => t.insert e.1 e.2) t).entries =
      entries.foldl (fun stored e => Entry.put stored e.1 e.2) t.entries := by
  induction entries generalizing t with
  | nil => rfl
  | cons e rest ih => rw [List.foldl_cons, ih, entries_insert, List.foldl_cons]

theorem entries_ofList (entries : List (Entry α)) :
    (ofList entries).entries = Entry.collect entries :=
  entries_foldl_insert entries empty

theorem entries_ofDistinct (entries : List (Entry α)) :
    (ofDistinct entries).toOption.map Table.entries = Entry.arrange? entries := by
  unfold ofDistinct Entry.arrange?
  split
  · rename_i name repeated
    rw [if_neg (by simp [repeated])]
    rfl
  · rename_i distinct
    rw [if_pos (by simp [distinct])]
    rfl

end Table

end RequestRouter
