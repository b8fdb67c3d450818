import Mathlib.Tactic.MkIffOfInductiveProp
import RequestRouter.Http.Cookie
import RequestRouter.Proofs.Table.Distinct
import RequestRouter.Proofs.Text.Parts

/-!
# Written cookies

Cookies that are written in one header are read as they were written, the last of repeated names
winning. Several headers are read as one: the readable values are joined, the others contribute
nothing. Whatever the headers are, no name that is read is empty or has blanks around it.
-/

namespace RequestRouter

namespace Http

theorem isReadable_append (a b : String) :
    isReadable (a ++ b) = (isReadable a && isReadable b) := by
  simp only [isReadable, String.toList_append, List.all_append]

theorem isReadable_intercalate {sep : String} (between : isReadable sep = true)
    {values : List String} (readable : ∀ v ∈ values, isReadable v = true) :
    isReadable (sep.intercalate values) = true := by
  induction values with
  | nil => rfl
  | cons first rest ih =>
    obtain ⟨head, tail⟩ := List.forall_mem_cons.1 readable
    cases rest with
    | nil => rwa [String.intercalate_singleton]
    | cons second rest =>
      rw [String.intercalate_cons_cons, isReadable_append, isReadable_append, head, between,
        ih tail]
      rfl

end Http

namespace Cookie

/-- One cookie header with the values joined by semicolons. -/
def joined (values : List String) : Headers :=
  [⟨"cookie", ";".intercalate values⟩]

section Joining

/-- The cookies of joined values are those of the values, one after the other. -/
theorem pairs_intercalate (values : List String) :
    pairs (";".intercalate values) = values.flatMap pairs := by
  cases values with
  | nil =>
    rw [String.intercalate_nil]
    rfl
  | cons first rest =>
    have some : (first :: rest).map String.toList ≠ [] := by simp
    rw [pairs, String.toList_intercalate, show ";".toList = [';'] from rfl,
      splitParts_intercalate some, List.filterMap_flatMap, List.flatMap_map]
    rfl

theorem parse_joined {values : List String} (readable : ∀ v ∈ values, Http.isReadable v = true) :
    parse (joined values) = Table.ofList (values.flatMap pairs) := by
  have one : Http.isReadable (";".intercalate values) = true :=
    Http.isReadable_intercalate (by decide) readable
  have only : ((joined values).values "cookie").filter Http.isReadable =
      [";".intercalate values] := by
    have same : Http.lowerCase "cookie" = "cookie" := by decide
    simp [joined, Headers.values, same, one]
  rw [parse, only, List.flatMap_singleton, pairs_intercalate]

end Joining

section Names

theorem trimChars_of_trimmed {s : String} (trimmed : trimText s = s) :
    trimChars s.toList = s.toList := by
  rw [← toList_trimText, trimmed]

/-- A part that is a cookie has a name, and there are no blanks around it. -/
theorem named_of_pair? {part : List Char} {e : Entry Json} (h : pair? part = some e) :
    e.1 ≠ "" ∧ trimText e.1 = e.1 := by
  simp only [pair?] at h
  split at h
  · cases h
  · rename_i named
    cases h
    refine ⟨fun empty => named ?_, ?_⟩
    · rw [List.isEmpty_iff]
      exact String.ofList_eq_empty_iff.1 empty
    · rw [trimText, String.toList_ofList]
      exact congrArg String.ofList (trimBy_trimBy isBlank _)

theorem named_of_mem_parse {h : Headers} {name : String} (listed : name ∈ (parse h).names) :
    name ≠ "" ∧ trimText name = name := by
  obtain ⟨e, member, rfl⟩ := List.mem_map.1 (Table.mem_names_ofList.1 listed)
  obtain ⟨value, -, read⟩ := List.mem_flatMap.1 member
  obtain ⟨part, -, found⟩ := List.mem_filterMap.1 read
  exact named_of_pair? found

end Names

@[mk_iff]
structure IsName (name : String) : Prop where
  readable : Http.isReadable name = true
  nonempty : name ≠ ""
  trimmed : trimText name = name
  plain : ';' ∉ name.toList ∧ '=' ∉ name.toList

/-- A value that a cookie header can hold. It may be empty, and it may hold equals signs. -/
@[mk_iff]
structure IsValue (value : String) : Prop where
  readable : Http.isReadable value = true
  trimmed : trimText value = value
  plain : ';' ∉ value.toList

/-- What may stand before and after a cookie: spaces and tabs. -/
def IsPad (pad : String) : Prop :=
  ∀ c ∈ pad.toList, c = ' ' ∨ c = '\t'

instance : DecidablePred IsName := fun name =>
  decidable_of_iff _ (isName_iff name).symm

instance : DecidablePred IsValue := fun value =>
  decidable_of_iff _ (isValue_iff value).symm

instance : DecidablePred IsPad := fun pad =>
  List.decidableBAll (fun c => c = ' ' ∨ c = '\t') pad.toList

theorem IsPad.readable {pad : String} (h : IsPad pad) : Http.isReadable pad = true := by
  refine List.all_eq_true.2 fun c member => ?_
  rcases h c member with rfl | rfl <;> decide

theorem IsPad.blank {pad : String} (h : IsPad pad) : ∀ c ∈ pad.toList, isBlank c = true := by
  intro c member
  rcases h c member with rfl | rfl <;> decide

/-- A cookie as it is written, with what stands before and after it. -/
structure Written where
  before : String := ""
  name : String
  value : String
  after : String := ""

namespace Written

variable {c : Written}

def text (c : Written) : String :=
  c.before ++ c.name ++ "=" ++ c.value ++ c.after

def entry (c : Written) : Entry Json :=
  (c.name, .string c.value)

@[mk_iff]
structure Legal (c : Written) : Prop where
  name : IsName c.name
  value : IsValue c.value
  before : IsPad c.before
  after : IsPad c.after

instance : DecidablePred Legal := fun c =>
  decidable_of_iff _ (legal_iff c).symm

theorem toList_text (c : Written) : c.text.toList =
    c.before.toList ++ (c.name.toList ++ '=' :: c.value.toList) ++ c.after.toList := by
  simp [text]

theorem Legal.readable (legal : c.Legal) : Http.isReadable c.text = true := by
  have equals : Http.isReadable "=" = true := by decide
  simp only [text, Http.isReadable_append, legal.before.readable, legal.name.readable, equals,
    legal.value.readable, legal.after.readable, Bool.and_self]

theorem Legal.plain (legal : c.Legal) : ';' ∉ c.text.toList := by
  have before : ';' ∉ c.before.toList := fun member => absurd (legal.before _ member) (by decide)
  have after : ';' ∉ c.after.toList := fun member => absurd (legal.after _ member) (by decide)
  simp [toList_text, before, legal.name.plain, legal.value.plain, after]

theorem Legal.named (legal : c.Legal) : c.name.toList ≠ [] := fun empty =>
  legal.name.nonempty (String.toList_eq_nil_iff.1 empty)

/-- The blanks around a cookie are taken away, and nothing else. -/
theorem Legal.trimChars_text (legal : c.Legal) :
    trimChars c.text.toList = c.name.toList ++ '=' :: c.value.toList := by
  have around : trimChars c.text.toList = trimChars (c.name.toList ++ '=' :: c.value.toList) := by
    rw [toList_text]
    exact trimBy_append legal.before.blank legal.after.blank
  rw [around]
  obtain ⟨front, -⟩ := trimBy_eq_self_iff.1 (trimChars_of_trimmed legal.name.trimmed)
  obtain ⟨-, back⟩ := trimBy_eq_self_iff.1 (trimChars_of_trimmed legal.value.trimmed)
  refine trimBy_eq_self_iff.2 ⟨fun ch first => front ch ?_, fun ch last => ?_⟩
  · rwa [List.head?_append_of_ne_nil _ legal.named] at first
  · rw [List.getLast?_append_of_ne_nil _ (List.cons_ne_nil _ _), List.getLast?_cons] at last
    -- an empty value leaves the equals sign at the end
    cases ending : c.value.toList.getLast? with
    | none =>
      rw [ending] at last
      cases last
      decide
    | some final =>
      rw [ending] at last
      cases last
      exact back _ ending

theorem Legal.pairs_text (legal : c.Legal) : pairs c.text = [c.entry] := by
  have cut : cutFirst '=' (trimChars c.text.toList) = (c.name.toList, some c.value.toList) := by
    rw [legal.trimChars_text]
    exact cutFirst_append_cons legal.name.plain.2 c.value.toList
  have named : c.name.toList.isEmpty = false := List.isEmpty_eq_false_iff.2 legal.named
  have read : pair? c.text.toList = some c.entry := by
    simp only [pair?, cut, Option.getD_some, trimChars_of_trimmed legal.name.trimmed,
      trimChars_of_trimmed legal.value.trimmed, named, String.ofList_toList]
    rfl
  rw [pairs, splitParts_of_not_mem legal.plain, List.filterMap_cons_some read]
  rfl

end Written

/-- Cookies are read as they were written, and several headers are read as one. -/
theorem parse_written {cookies : List Written} (legal : ∀ c ∈ cookies, c.Legal) (h : Headers) :
    (parse (joined (cookies.map Written.text)) = Table.ofList (cookies.map Written.entry) ∧
      ∀ name, (parse (joined (cookies.map Written.text))).get? name =
        (cookies.map Written.entry).reverse.lookup name) ∧
    parse h = parse (joined ((h.values "cookie").filter Http.isReadable)) ∧
    ∀ name ∈ (parse h).names, name ≠ "" ∧ trimText name = name := by
  have readable : ∀ v ∈ cookies.map Written.text, Http.isReadable v = true :=
    List.forall_mem_map.2 fun c member => (legal c member).readable
  have entries : (cookies.map Written.text).flatMap pairs = cookies.map Written.entry := by
    rw [List.flatMap_map, List.map_eq_flatMap]
    exact List.flatMap_congr fun c member => (legal c member).pairs_text
  have one : parse (joined (cookies.map Written.text)) =
      Table.ofList (cookies.map Written.entry) := by
    rw [parse_joined readable, entries]
  refine ⟨⟨one, fun name => ?_⟩, ?_, fun name => named_of_mem_parse⟩
  · rw [one, Table.get?_ofList]
  · have kept : ∀ v ∈ (h.values "cookie").filter Http.isReadable, Http.isReadable v = true :=
      fun v member => (List.mem_filter.1 member).2
    rw [parse_joined kept, parse]

/-- A name that comes twice, equals signs in values, an empty value, spaces and tabs. -/
def hardCookies : List Written :=
  [{ name := "a", value := "=b" }, { before := " \t", name := "flag", value := "", after := "\t" },
    { before := " ", name := "a", value := "x y=" }]

theorem parse_written_hard :
    let h : Headers := [⟨"cookie", "a=1; ;=x"⟩, ⟨"cookie", "b=é"⟩, ⟨"cookie", "flag"⟩]
    let once := parse (joined ["a==b", " \tflag=\t", " a=x y="])
    once.get? "a" = some (.string "x y=") ∧ once.get? "flag" = some (.string "") ∧
      once.get? "" = none ∧ parse h = parse (joined ["a=1; ;=x", "flag"]) ∧
      ∀ name ∈ (parse h).names, name ≠ "" ∧ trimText name = name := by
  intro h once
  have legal : ∀ c ∈ hardCookies, c.Legal := by decide
  obtain ⟨⟨-, last⟩, headers, named⟩ := parse_written legal h
  exact ⟨last "a", last "flag", last "", headers, named⟩

end Cookie

end RequestRouter
