import RequestRouter.Proofs.Record.OnePass
import RequestRouter.Proofs.Text.ByteOrder
import RequestRouter.Request.Basic
import RequestRouter.Tree.Scope

/-!
# The order of stored names

Every operation that looks for a name relies on the order in which names are stored, and no
operation looks at that order before it stores a result. A recipe says which operations a record, a
schema or a set of mixins comes from; it can be followed on tables, or on plain lists that promise
nothing. Main statement: both ways store the same entries, by increasing name in the order of the
UTF-8 bytes, and the halving search finds exactly these entries.
-/

namespace RequestRouter

def Cookie.allPairs (h : Headers) : List (Entry Json) :=
  ((h.values "cookie").filter Http.isReadable).flatMap pairs

def Query.pairs (query : String) : List (Entry Json) :=
  let bs := match Utf8.encode query with
    | 0x3F :: rest => rest
    | bs => bs
  ((splitParts 0x26 bs).filter fun part => !part.isEmpty).map pair

/-- How a table comes about: the pairs that it is made of, and the operations that follow. -/
inductive Recipe : Type → Type 1 where
  | empty {α : Type} : Recipe α
  /-- A record of pairs with distinct names. -/
  | pairs (given : List (Entry Json)) : Recipe Json
  /-- The members of an object. -/
  | json (v : Json) : Recipe Json
  /-- A record of pairs, of which the last of each name stands. -/
  | collected (given : List (Entry Json)) : Recipe Json
  | captures (source path : String) : Recipe Json
  | cookies (headers : Headers) : Recipe Json
  | query (text : String) : Recipe Json
  | project (r : Recipe Json) (s : Recipe FieldKind) : Recipe Json
  | converted (r : Recipe Json) (s : Recipe FieldKind) (policy : ConversionPolicy) : Recipe Json
  | extras (r : Recipe Json) (s : Recipe FieldKind) (policy : ConversionPolicy) : Recipe Json
  | fields (given : List (Entry FieldKind)) : Recipe FieldKind
  | strings (names : List String) : Recipe FieldKind
  /-- The schema of a pattern. -/
  | params (source : String) : Recipe FieldKind
  /-- The schema of a record. -/
  | shape (r : Recipe Json) : Recipe FieldKind
  /-- The mixins that a request was given, one after the other. -/
  | mixins (request : Request) (id : RequestId) (given : List (Entry Record)) : Recipe Record
  | scopeMixins (given : List (Entry Schema)) : Recipe Schema
  | apply {α : Type} (op : Operation) (a b : Recipe α) : Recipe α
  /-- The table with one name set. -/
  | set {α : Type} (t : Recipe α) (name : String) (value : α) : Recipe α

namespace Recipe

variable {α : Type}

/-- The recipe followed on tables; `none` where an operation rejects its input. -/
def made {α : Type} : Recipe α → Option (Table α)
  | .empty => some .empty
  | .pairs given => (Record.ofPairs given).toOption
  | .json v => (Record.ofJson v).toOption
  | .collected given => some (.ofList given)
  | .captures source path =>
    (Pattern.compile source).toOption.bind fun p => (p.matchPrefix path).map PrefixMatch.captures
  | .cookies headers => some (Cookie.parse headers)
  | .query text => some (Query.parse text)
  | .project r s => do return Record.project (← r.made) (← s.made)
  | .converted r s policy => do
    ((Record.convert (← r.made) (← s.made) policy).map Conversion.record).toOption
  | .extras r s policy => do
    ((Record.convert (← r.made) (← s.made) policy).map Conversion.extras).toOption
  | .fields given => (Schema.ofFields given).toOption
  | .strings names => (Schema.strings names).toOption
  | .params source => (Pattern.compile source).toOption.map Pattern.schema
  | .shape r => r.made.map Record.schema
  | .mixins request id given =>
    some (given.foldl (fun s e => s.withMixin e.1 e.2) (RequestState.start request id)).mixins
  | .scopeMixins given => some (given.foldl (fun s e => s.withMixin e.1 e.2) Scope.root).mixins
  | .apply op a b => do return op.apply (← a.made) (← b.made)
  | .set t name value => t.made.map fun t => t.insert name value

/-- The recipe followed on stored lists, by functions that do not look at the order. -/
def stored {α : Type} : Recipe α → Option (List (Entry α))
  | .empty => some []
  | .pairs given => Entry.arrange? given
  | .json v => match v with
    | .object members => some (Entry.collect members)
    | _ => none
  | .collected given => some (Entry.collect given)
  | .captures source path => (Pattern.compile source).toOption.bind fun p =>
    (Pattern.findMatch p.tokens path.toList).map fun (found, _) =>
      Entry.collect (found.map fun (name, run) => (name, .string (String.ofList run)))
  | .cookies headers => some (Entry.collect (Cookie.allPairs headers))
  | .query text => some (Entry.collect (Query.pairs text))
  | .project r s => do return Entry.merge Joined.shared (← r.stored) (← s.stored)
  | .converted r s policy => do
    let r ← r.stored
    let s ← s.stored
    ((Tally.ofWalk policy (join s r)).map Tally.fields).toOption
  | .extras r s policy => do
    let r ← r.stored
    let s ← s.stored
    ((Tally.ofWalk policy (join s r)).map Tally.extras).toOption
  | .fields given => Entry.arrange? given
  | .strings names => Entry.arrange? (names.map (·, .string))
  | .params source => (Pattern.tokenize 0 0 source.toList).toOption.bind fun tokens =>
    Entry.arrange? ((Pattern.paramsOf tokens).map (·, .string))
  | .shape r => r.stored.map fun r => r.map fun e => (e.1, FieldKind.of e.2)
  | .mixins _ _ given => some (Entry.collect given)
  | .scopeMixins given => some (Entry.collect given)
  | .apply op a b => do return Entry.merge op.choose (← a.stored) (← b.stored)
  | .set t name value => t.stored.map fun t => Entry.put t name value

/-- The name that comes twice makes no difference to what is stored. -/
theorem stored_distinct (fault : String → RecordError) (given : List (Entry α)) :
    Entry.arrange? given = ((Table.ofDistinct given).mapError fault).toOption.map Table.entries := by
  rw [← Table.entries_ofDistinct]
  cases Table.ofDistinct given <;> rfl

theorem stored_params (source : String) :
    (params source).stored = (params source).made.map Table.entries := by
  simp only [stored, made, Pattern.compile]
  cases Pattern.tokenize 0 0 source.toList with
  | error fault => cases fault <;> rfl
  | ok tokens =>
    simp only [Except.toOption, Option.bind_some, ← Table.entries_ofDistinct]
    cases Table.ofDistinct ((Pattern.paramsOf tokens).map (·, FieldKind.string)) <;> rfl

theorem stored_captures (source path : String) :
    (captures source path).stored = (captures source path).made.map Table.entries := by
  simp only [stored, made, Pattern.matchPrefix]
  cases Pattern.compile source with
  | error _ => rfl
  | ok p =>
    simp only [Except.toOption, Option.bind_some]
    cases Pattern.findMatch p.tokens path.toList with
    | none => rfl
    | some found => exact congrArg some (Table.entries_ofList _).symm

/-- What two recipes are made into is stored as it is made. -/
theorem stored_both {β γ : Type} {x : Option (Table α)} {y : Option (Table β)}
    {make : Table α → Table β → Option (Table γ)}
    {store : List (Entry α) → List (Entry β) → Option (List (Entry γ))}
    (same : ∀ a b, store a.entries b.entries = (make a b).map Table.entries) :
    ((x.map Table.entries).bind fun a => (y.map Table.entries).bind (store a)) =
      (x.bind fun a => y.bind (make a)).map Table.entries := by
  cases x with
  | none => rfl
  | some a =>
    cases y with
    | none => rfl
    | some b => exact same a b

/-- A conversion is stored in one walk. -/
theorem stored_convert {β : Type} {output : Conversion → Table β} {taken : Tally → List (Entry β)}
    (same : ∀ c : Conversion, taken c.tally = (output c).entries) (policy : ConversionPolicy)
    (r : Record) (s : Schema) :
    ((Tally.ofWalk policy (join s.entries r.entries)).map taken).toOption =
      ((r.convert s policy).map output).toOption.map Table.entries := by
  rw [← Record.convert_eq_ofWalk]
  cases r.convert s policy with
  | error _ => rfl
  | ok c => exact congrArg some (same c)

/-- What is attached entry by entry to the table that something holds is put entry by entry. -/
theorem stored_attached {σ : Type} (held : σ → Table α) {attach : σ → Entry α → σ}
    (sets : ∀ s e, held (attach s e) = (held s).insert e.1 e.2) (given : List (Entry α)) (s : σ) :
    (held (given.foldl attach s)).entries =
      given.foldl (fun stored e => Entry.put stored e.1 e.2) (held s).entries := by
  rw [← Table.entries_foldl_insert, List.foldl_hom held fun s e => (sets s e).symm]

/-- On tables and on plain lists a recipe comes to the same. -/
theorem stored_eq (recipe : Recipe α) : recipe.stored = recipe.made.map Table.entries := by
  induction recipe with
  | empty => rfl
  | pairs given => exact stored_distinct .duplicateField given
  | json v =>
    cases v with
    | object members => exact congrArg some (Table.entries_ofList members).symm
    | null | bool _ | number _ | string _ | array _ => rfl
  | collected given => exact congrArg some (Table.entries_ofList given).symm
  | captures source path => exact stored_captures source path
  | cookies headers => exact congrArg some (Table.entries_ofList (Cookie.allPairs headers)).symm
  | query text => exact congrArg some (Table.entries_ofList (Query.pairs text)).symm
  | project r s ihr ihs =>
    rw [stored, made, ihr, ihs]
    exact stored_both fun _ _ => rfl
  | converted r s policy ihr ihs =>
    rw [stored, made, ihr, ihs]
    exact stored_both (stored_convert (fun _ => rfl) policy)
  | extras r s policy ihr ihs =>
    rw [stored, made, ihr, ihs]
    exact stored_both (stored_convert (fun _ => rfl) policy)
  | fields given => exact stored_distinct .duplicateField given
  | strings names => exact stored_distinct .duplicateField _
  | params source => exact stored_params source
  | shape r ih =>
    simp only [stored, made, ih]
    cases r.made <;> rfl
  | mixins request id given =>
    exact congrArg some (stored_attached RequestState.mixins (fun _ _ => rfl) given
      (RequestState.start request id)).symm
  | scopeMixins given =>
    exact congrArg some (stored_attached Scope.mixins (fun _ _ => rfl) given Scope.root).symm
  | apply op a b iha ihb =>
    rw [stored, made, iha, ihb]
    exact stored_both fun a b => congrArg some (Table.entries_apply op a b).symm
  | set t name value ih =>
    simp only [stored, made, ih]
    cases t.made with
    | none => rfl
    | some t => exact congrArg some (Table.entries_insert t name value).symm

end Recipe

namespace Table

variable {α : Type}

theorem names_bytes_increasing (t : Table α) :
    (Entry.names t.entries).Pairwise fun m n => Utf8.encode m < Utf8.encode n :=
  t.names_pairwise.imp Utf8.encode_lt

theorem contains_iff {t : Table α} {name : String} :
    t.contains name = true ↔ name ∈ Entry.names t.entries := by
  rw [contains, Option.isSome_iff_exists, Entry.mem_names]
  exact exists_congr fun value => get?_eq_some_iff

end Table

/-- A recipe that is followed on plain lists stores what it stores on tables, and rejects its input
where it does there. What it stores stands by strictly increasing name in the order of the UTF-8
bytes, and the search by halving finds a name exactly if it is stored, with the value that is
stored with it. -/
theorem Recipe.stored_increasing {α : Type} (recipe : Recipe α) :
    recipe.stored = recipe.made.map Table.entries ∧
      (∀ t, recipe.made = some t →
        (Entry.names t.entries).Pairwise (fun m n => Utf8.encode m < Utf8.encode n) ∧
        (∀ name value, t.get? name = some value ↔ (name, value) ∈ t.entries) ∧
        ∀ name, t.contains name = true ↔ name ∈ Entry.names t.entries) ∧
      ∀ (s : RequestState) name fields,
        s.mixin? name = some fields ↔ (name, fields) ∈ s.mixins.entries :=
  ⟨recipe.stored_eq, fun t _ => ⟨t.names_bytes_increasing, fun _ _ => Table.get?_eq_some_iff,
    fun _ => Table.contains_iff⟩, fun _ _ _ => Table.get?_eq_some_iff⟩

/-- Two cookies and a query, the query newer. UTF-16 would have the emoji before U+FFFD. -/
theorem Recipe.stored_increasing_cookies :
    let recipe : Recipe Json := .apply .union (.cookies [⟨"cookie", "z=1; b=2"⟩])
      (.query "?%EF%BF%BD=3&b=4&%F0%9F%98%80=5")
    ∃ t : Record, recipe.made = some t ∧ t.names = ["b", "z", "\uFFFD", "😀"] ∧
      (Entry.names t.entries).Pairwise (fun m n => Utf8.encode m < Utf8.encode n) ∧
      t.text? "b" = some "4" ∧
      (∀ name value, t.get? name = some value ↔ (name, value) ∈ t.entries) ∧
      ∀ name, t.contains name = true ↔ name ∈ Entry.names t.entries := by
  intro recipe
  have made : recipe.made = some (Table.union (Cookie.parse [⟨"cookie", "z=1; b=2"⟩])
      (Query.parse "?%EF%BF%BD=3&b=4&%F0%9F%98%80=5")) := rfl
  obtain ⟨order, found, contained⟩ := (Recipe.stored_increasing recipe).2.1 _ made
  exact ⟨_, made, by decide +kernel, order, by decide +kernel, found, contained⟩

end RequestRouter
