import RequestRouter.Proofs.Pattern.Compile
import RequestRouter.Proofs.Text.Utf8

/-!
# Greedy matching

A decomposition gives each parameter a text that its token admits, so that the tokens spell out
the start of a path. Matching finds a decomposition whenever there is one, and of all of them the
greatest: the first capture is as long as possible, then the second, and so on.
-/

namespace RequestRouter.Pattern

abbrev Assignment := String → List Char

def Token.spell (value : Assignment) : Token → List Char
  | .literal c => [c]
  | .segment name => value name
  | .rest name => value name

def Token.Admits (value : Assignment) : Token → Prop
  | .literal _ => True
  | .segment name => value name ≠ [] ∧ '/' ∉ value name
  | .rest name => value name ≠ [] ∧ '\n' ∉ value name

/-- The tokens with their parameters' texts in place. -/
def spell (value : Assignment) (ts : List Token) : List Char :=
  ts.flatMap (Token.spell value)

/-- The texts are admitted, and with them the tokens spell out the start of `cs`. -/
structure Decomposes (ts : List Token) (value : Assignment) (cs : List Char) : Prop where
  admits : ∀ t ∈ ts, t.Admits value
  spelled : spell value ts <+: cs

def lengths (value : Assignment) (ts : List Token) : List Nat :=
  (paramsOf ts).map fun name => (value name).length

/-- No other decomposition has a longer capture at the first place where the two differ. -/
structure Greatest (ts : List Token) (value : Assignment) (cs : List Char) : Prop
    extends Decomposes ts value cs where
  greatest : ∀ other, Decomposes ts other cs →
    (∀ name ∈ paramsOf ts, other name = value name) ∨ lengths other ts < lengths value ts

theorem Decomposes.nil {value : Assignment} {cs : List Char} : Decomposes [] value cs :=
  ⟨by simp, List.nil_prefix⟩

theorem decomposes_cons {t : Token} {ts : List Token} {value : Assignment} {cs : List Char} :
    Decomposes (t :: ts) value cs ↔
      t.Admits value ∧ ∃ left, t.spell value ++ left = cs ∧ Decomposes ts value left := by
  constructor
  · rintro ⟨admits, tail, spelled⟩
    refine ⟨admits t List.mem_cons_self, spell value ts ++ tail, ?_, ?_, List.prefix_append _ _⟩
    · simpa [spell] using spelled
    · exact fun u hu => admits u (List.mem_cons_of_mem t hu)
  · rintro ⟨first, left, rfl, others, tail, rfl⟩
    refine ⟨?_, tail, by simp [spell]⟩
    intro u hu
    rcases List.mem_cons.1 hu with rfl | hu
    · exact first
    · exact others u hu

/-- A run of `p`-characters at the start of `cs`, and what stands after it. -/
structure IsRun (p : Char → Bool) (run left cs : List Char) : Prop where
  nonempty : run ≠ []
  all : ∀ c ∈ run, p c = true
  append : run ++ left = cs

theorem isRun_cons {p : Char → Bool} {run left cs : List Char} {c : Char} :
    IsRun p run left (c :: cs) ↔ p c = true ∧
      (run = [c] ∧ left = cs ∨ ∃ more, run = c :: more ∧ IsRun p more left cs) := by
  constructor
  · rintro ⟨nonempty, all, append⟩
    cases run with
    | nil => exact absurd rfl nonempty
    | cons d more =>
      obtain ⟨rfl, rest⟩ := List.cons.inj append
      refine ⟨all d List.mem_cons_self, ?_⟩
      by_cases only : more = []
      · subst only
        exact Or.inl ⟨rfl, rest⟩
      · exact Or.inr ⟨more, rfl, only, fun x hx => all x (List.mem_cons_of_mem d hx), rest⟩
  · rintro ⟨hc, ⟨rfl, rfl⟩ | ⟨more, rfl, tail⟩⟩
    · exact ⟨by simp, by simpa using hc, rfl⟩
    · refine ⟨by simp, ?_, by simp [tail.append]⟩
      intro x hx
      rcases List.mem_cons.1 hx with rfl | hx
      · exact hc
      · exact tail.all x hx

theorem not_isRun_nil {p : Char → Bool} {run left : List Char} : ¬ IsRun p run left [] := by
  rintro ⟨nonempty, -, append⟩
  exact nonempty (List.append_eq_nil_iff.1 append).1

section LongestRun

variable {β : Type} {p : Char → Bool} {next : List Char → Option β}

/-- Without a result, what follows every run has none. -/
theorem longestRun_none {cs : List Char} (h : longestRun p next cs = none) {run left : List Char}
    (isRun : IsRun p run left cs) : next left = none := by
  induction cs generalizing run with
  | nil => exact absurd isRun not_isRun_nil
  | cons c cs ih =>
    obtain ⟨hc, shape⟩ := isRun_cons.1 isRun
    simp only [longestRun, extendRun, if_pos hc] at h
    cases further : longestRun p next cs with
    | some found => simp [further] at h
    | none =>
      have here : next cs = none := by simpa [further] using h
      rcases shape with ⟨rfl, rfl⟩ | ⟨more, rfl, tail⟩
      · exact here
      · exact ih further tail

/-- The result is that of a run, and what follows a longer run has none. -/
theorem longestRun_some {cs run : List Char} {b : β} (h : longestRun p next cs = some (run, b)) :
    ∃ left, IsRun p run left cs ∧ next left = some b ∧
      ∀ longer left', IsRun p longer left' cs → run.length < longer.length →
        next left' = none := by
  induction cs generalizing run with
  | nil => simp [longestRun] at h
  | cons c cs ih =>
    simp only [longestRun, extendRun] at h
    split at h
    · rename_i hc
      cases further : longestRun p next cs with
      | some found =>
        obtain ⟨more, b'⟩ := found
        rw [further] at h
        cases h
        obtain ⟨left, isRun, result, longest⟩ := ih further
        refine ⟨left, isRun_cons.2 ⟨hc, Or.inr ⟨more, rfl, isRun⟩⟩, result, ?_⟩
        intro longer left' isLonger less
        rcases (isRun_cons.1 isLonger).2 with ⟨rfl, rfl⟩ | ⟨more', rfl, tail⟩
        · simp at less
        · exact longest more' left' tail (by simpa using less)
      | none =>
        rw [further] at h
        obtain ⟨b', here, eq⟩ := Option.map_eq_some_iff.1 h
        cases eq
        refine ⟨cs, isRun_cons.2 ⟨hc, Or.inl ⟨rfl, rfl⟩⟩, here, ?_⟩
        intro longer left' isLonger less
        rcases (isRun_cons.1 isLonger).2 with ⟨rfl, rfl⟩ | ⟨more', rfl, tail⟩
        · simp at less
        · exact longestRun_none further tail
    · cases h

theorem longestRun_eq_none_iff {cs : List Char} :
    longestRun p next cs = none ↔ ∀ run left, IsRun p run left cs → next left = none := by
  constructor
  · exact fun none run left isRun => longestRun_none none isRun
  · intro fails
    cases found : longestRun p next cs with
    | none => rfl
    | some result =>
      obtain ⟨left, isRun, succeeds, -⟩ := longestRun_some found
      rw [fails _ _ isRun] at succeeds
      cases succeeds

/-- No other run is the longest of those after which `next` has a result. -/
theorem longestRun_eq_some_iff {cs run : List Char} {b : β} :
    longestRun p next cs = some (run, b) ↔
      ∃ left, IsRun p run left cs ∧ next left = some b ∧
        ∀ longer left', IsRun p longer left' cs → run.length < longer.length →
          next left' = none := by
  constructor
  · exact longestRun_some
  · rintro ⟨left, isRun, succeeds, longest⟩
    cases found : longestRun p next cs with
    | none =>
      rw [longestRun_none found isRun] at succeeds
      cases succeeds
    | some result =>
      obtain ⟨run', b'⟩ := result
      obtain ⟨left', isRun', succeeds', longest'⟩ := longestRun_some found
      have same : run'.length = run.length := by
        rcases Nat.lt_trichotomy run'.length run.length with shorter | equal | longer
        · rw [longest' run left isRun shorter] at succeeds
          cases succeeds
        · exact equal
        · rw [longest run' left' isRun' longer] at succeeds'
          cases succeeds'
      obtain ⟨rfl, rfl⟩ := List.append_inj (isRun'.append.trans isRun.append.symm) same
      rw [succeeds] at succeeds'
      cases succeeds'
      rfl

end LongestRun

/-- A token that captures runs of a class under a name. -/
inductive Token.Capturing : Token → String → (Char → Bool) → Prop
  | segment (name : String) : Token.Capturing (.segment name) name isSegmentChar
  | rest (name : String) : Token.Capturing (.rest name) name isRestChar

namespace Token.Capturing

variable {t : Token} {name : String} {p : Char → Bool}

theorem spell_eq (h : t.Capturing name p) (value : Assignment) : t.spell value = value name := by
  cases h <;> rfl

theorem admits_iff (h : t.Capturing name p) {value : Assignment} :
    t.Admits value ↔ value name ≠ [] ∧ ∀ c ∈ value name, p c = true := by
  cases h <;> simp [Admits, isSegmentChar, isRestChar] <;> grind

theorem paramsOf_cons (h : t.Capturing name p) (ts : List Token) :
    paramsOf (t :: ts) = name :: paramsOf ts := by
  cases h <;> rfl

theorem matchTokens_cons (h : t.Capturing name p) (ts : List Token) (cs : List Char) :
    matchTokens (t :: ts) cs = (longestRun p (matchTokens ts) cs).map (bindRun name) := by
  cases h <;> rfl

/-- A decomposition is a run for the token in front and a decomposition of what stands after. -/
theorem decomposes_iff (h : t.Capturing name p) {ts : List Token} {value : Assignment}
    {cs : List Char} : Decomposes (t :: ts) value cs ↔
      ∃ left, IsRun p (value name) left cs ∧ Decomposes ts value left := by
  rw [decomposes_cons, h.admits_iff, h.spell_eq]
  constructor
  · rintro ⟨⟨nonempty, all⟩, left, append, tail⟩
    exact ⟨left, ⟨nonempty, all, append⟩, tail⟩
  · rintro ⟨left, ⟨nonempty, all, append⟩, tail⟩
    exact ⟨⟨nonempty, all⟩, left, append, tail⟩

end Token.Capturing

theorem Token.literal_or_capturing (t : Token) :
    (∃ c, t = .literal c) ∨ ∃ name p, t.Capturing name p := by
  cases t with
  | literal c => exact Or.inl ⟨c, rfl⟩
  | segment name => exact Or.inr ⟨name, _, .segment name⟩
  | rest name => exact Or.inr ⟨name, _, .rest name⟩

theorem decomposes_literal {l : Char} {ts : List Token} {value : Assignment} {cs : List Char} :
    Decomposes (.literal l :: ts) value cs ↔ ∃ left, cs = l :: left ∧ Decomposes ts value left := by
  rw [decomposes_cons]
  simp [Token.Admits, Token.spell, eq_comm]

/-- What matches a literal starts with it. -/
theorem matchTokens_literal {l : Char} {ts : List Token} {left : List Char} :
    matchTokens (.literal l :: ts) (l :: left) = matchTokens ts left := by
  simp [matchTokens]

theorem matchTokens_literal_some {l : Char} {ts : List Token} {cs : List Char} {found : Found}
    (h : matchTokens (.literal l :: ts) cs = some found) :
    ∃ left, cs = l :: left ∧ matchTokens ts left = some found := by
  cases cs with
  | nil => cases h
  | cons c cs =>
    simp only [matchTokens] at h
    split at h
    · rename_i same
      exact ⟨cs, same ▸ rfl, h⟩
    · cases h

/-- Matching misses no decomposition. -/
theorem not_decomposes_of_matchTokens_none {ts : List Token} {cs : List Char}
    (h : matchTokens ts cs = none) (value : Assignment) : ¬ Decomposes ts value cs := by
  induction ts generalizing cs with
  | nil => cases h
  | cons t ts ih =>
    intro decomposes
    rcases t.literal_or_capturing with ⟨l, rfl⟩ | ⟨name, p, capturing⟩
    · obtain ⟨left, rfl, tail⟩ := decomposes_literal.1 decomposes
      rw [matchTokens_literal] at h
      exact ih h tail
    · obtain ⟨left, isRun, tail⟩ := capturing.decomposes_iff.1 decomposes
      rw [capturing.matchTokens_cons, Option.map_eq_none_iff] at h
      exact ih (longestRun_none h isRun) tail

/-- What the captures say of any texts that agree with them. -/
theorem matchTokens_sound {ts : List Token} {cs left : List Char} {captures : Captures}
    (h : matchTokens ts cs = some (captures, left)) :
    captures.map Prod.fst = paramsOf ts ∧
      ∀ value : Assignment, (∀ e ∈ captures, value e.1 = e.2) →
        (∀ t ∈ ts, t.Admits value) ∧ spell value ts ++ left = cs := by
  induction ts generalizing cs captures with
  | nil =>
    cases h
    exact ⟨rfl, fun value _ => ⟨by simp, rfl⟩⟩
  | cons t ts ih =>
    rcases t.literal_or_capturing with ⟨l, rfl⟩ | ⟨name, p, capturing⟩
    · obtain ⟨cs, rfl, found⟩ := matchTokens_literal_some h
      obtain ⟨names, sound⟩ := ih found
      refine ⟨names, fun value agrees => ?_⟩
      obtain ⟨admits, spelled⟩ := sound value agrees
      refine ⟨?_, by simpa [spell, Token.spell] using spelled⟩
      intro u hu
      rcases List.mem_cons.1 hu with rfl | hu
      · exact trivial
      · exact admits u hu
    · rw [capturing.matchTokens_cons] at h
      obtain ⟨⟨run, more, left'⟩, found, eq⟩ := Option.map_eq_some_iff.1 h
      cases eq
      obtain ⟨cs', isRun, tail, -⟩ := longestRun_some found
      obtain ⟨names, sound⟩ := ih tail
      refine ⟨by simp [names, capturing.paramsOf_cons], fun value agrees => ?_⟩
      have own : value name = run := agrees (name, run) List.mem_cons_self
      obtain ⟨admits, spelled⟩ := sound value fun e he => agrees e (List.mem_cons_of_mem _ he)
      constructor
      · intro u hu
        rcases List.mem_cons.1 hu with rfl | hu
        · exact capturing.admits_iff.2 (own ▸ ⟨isRun.nonempty, isRun.all⟩)
        · exact admits u hu
      · rw [← isRun.append, ← spelled]
        simp [spell, capturing.spell_eq, own]

/-- Every decomposition agrees with the captures or falls short of them. -/
theorem matchTokens_greatest {ts : List Token} {cs left : List Char} {captures : Captures}
    (h : matchTokens ts cs = some (captures, left)) {other : Assignment}
    (decomposes : Decomposes ts other cs) :
    (∀ e ∈ captures, other e.1 = e.2) ∨
      lengths other ts < captures.map fun e => e.2.length := by
  induction ts generalizing cs captures with
  | nil =>
    cases h
    exact Or.inl (by simp)
  | cons t ts ih =>
    rcases t.literal_or_capturing with ⟨l, rfl⟩ | ⟨name, p, capturing⟩
    · obtain ⟨cs, rfl, found⟩ := matchTokens_literal_some h
      obtain ⟨_, eq, tail⟩ := decomposes_literal.1 decomposes
      cases eq
      exact ih found tail
    · rw [capturing.matchTokens_cons] at h
      obtain ⟨⟨run, more, left'⟩, found, eq⟩ := Option.map_eq_some_iff.1 h
      cases eq
      obtain ⟨cs', isRun, result, longest⟩ := longestRun_some found
      obtain ⟨otherLeft, otherRun, tail⟩ := capturing.decomposes_iff.1 decomposes
      have notLonger : ¬ run.length < (other name).length := by
        intro longer
        have none := longest (other name) otherLeft otherRun longer
        exact not_decomposes_of_matchTokens_none none other tail
      have shape : lengths other (t :: ts) = (other name).length :: lengths other ts := by
        simp [lengths, capturing.paramsOf_cons]
      rw [shape]
      rcases Nat.lt_or_eq_of_le (Nat.not_lt.1 notLonger) with shorter | same
      · exact Or.inr (List.cons_lt_cons_iff.2 (Or.inl shorter))
      · obtain ⟨sameRun, sameLeft⟩ :=
          List.append_inj (otherRun.append.trans isRun.append.symm) same
        subst sameLeft
        rcases ih result tail with agrees | less
        · refine Or.inl fun e he => ?_
          rcases List.mem_cons.1 he with rfl | he
          · exact sameRun
          · exact agrees e he
        · exact Or.inr (List.cons_lt_cons_iff.2 (Or.inr ⟨same, less⟩))

def Captures.assignment (captures : Captures) : Assignment :=
  fun name => (captures.lookup name).getD []

theorem Captures.assignment_of_mem {captures : Captures} (distinct : (captures.map Prod.fst).Nodup)
    {name : String} {run : List Char} (h : (name, run) ∈ captures) :
    captures.assignment name = run := by
  rw [assignment, Entry.lookup_of_mem distinct h, Option.getD_some]

/-- The decomposition that matching finds. -/
theorem greatest_of_matchTokens {ts : List Token} {cs left : List Char} {captures : Captures}
    (distinct : (paramsOf ts).Nodup) (h : matchTokens ts cs = some (captures, left)) :
    Greatest ts captures.assignment cs ∧ spell captures.assignment ts ++ left = cs := by
  obtain ⟨names, sound⟩ := matchTokens_sound h
  have agrees : ∀ e ∈ captures, captures.assignment e.1 = e.2 :=
    fun e he => captures.assignment_of_mem (names ▸ distinct) he
  obtain ⟨admits, spelled⟩ := sound captures.assignment agrees
  have ownLengths : lengths captures.assignment ts = captures.map fun e => e.2.length := by
    rw [lengths, ← names, List.map_map]
    exact List.map_congr_left fun e he => congrArg List.length (agrees e he)
  refine ⟨⟨⟨admits, left, spelled⟩, fun other decomposes => ?_⟩, spelled⟩
  rw [ownLengths]
  refine (matchTokens_greatest h decomposes).imp_left fun same name listed => ?_
  obtain ⟨e, he, rfl⟩ := List.mem_map.1 (names ▸ listed)
  rw [same e he, agrees e he]

/-- A match holds the bytes and the texts of a decomposition. -/
structure Holds (p : Pattern) (path : String) (value : Assignment) (m : PrefixMatch) : Prop where
  consumed_eq : m.consumed = Utf8.length (spell value p.tokens)
  consumed_le : m.consumed ≤ path.utf8ByteSize
  /-- The match ends between two characters of the path. -/
  boundary : String.Pos.Raw.IsValid path ⟨m.consumed⟩
  names_eq : m.captures.names = p.schema.names
  texts : ∀ name ∈ p.params, m.captures.get? name = some (.string (String.ofList (value name)))

theorem matchPrefix_eq_none_iff {p : Pattern} {path : String} :
    p.matchPrefix path = none ↔ matchTokens p.tokens path.toList = none := by
  rw [matchPrefix, findMatch_eq, Option.map_eq_none_iff]

def Captures.record (captures : Captures) : Record :=
  Table.ofList (captures.map fun (name, run) => (name, .string (String.ofList run)))

theorem Captures.names_record {captures : Captures} {name : String} :
    name ∈ captures.record.names ↔ name ∈ captures.map Prod.fst := by
  rw [record, Table.mem_names_ofList, Entry.names, List.map_map]
  rfl

theorem Captures.get?_record {captures : Captures} (distinct : (captures.map Prod.fst).Nodup)
    {name : String} (listed : name ∈ captures.map Prod.fst) :
    captures.record.get? name = some (.string (String.ofList (captures.assignment name))) := by
  obtain ⟨⟨_, run⟩, he, rfl⟩ := List.mem_map.1 listed
  rw [captures.assignment_of_mem distinct he]
  apply Table.get?_ofList_of_mem
  · rw [Entry.names, List.map_map]
    exact distinct
  · exact List.mem_map.2 ⟨_, he, rfl⟩

theorem matchPrefix_some {source : String} {p : Pattern} (compiled : Compiled source p)
    {path : String} {m : PrefixMatch} (h : p.matchPrefix path = some m) :
    ∃ value, Greatest p.tokens value path.toList ∧ Holds p path value m := by
  rw [matchPrefix, findMatch_eq] at h
  obtain ⟨⟨captures, left⟩, found, rfl⟩ := Option.map_eq_some_iff.1 h
  obtain ⟨names, -⟩ := matchTokens_sound found
  have distinct : (captures.map Prod.fst).Nodup := names ▸ compiled.nodup
  obtain ⟨greatest, spelled⟩ := greatest_of_matchTokens compiled.nodup found
  have size : Utf8.length path.toList - Utf8.length left =
      Utf8.length (spell captures.assignment p.tokens) := by
    rw [← spelled, Utf8.length_append, Nat.add_sub_cancel]
  refine ⟨captures.assignment, greatest, size, ?_, ?_, ?_, ?_⟩
  · rw [← Utf8.length_toList]
    exact Nat.sub_le _ _
  · show String.Pos.Raw.IsValid path ⟨Utf8.length path.toList - Utf8.length left⟩
    rw [size]
    exact Utf8.isValid_length spelled
  · refine Table.names_eq_of_mem_iff fun name => ?_
    exact captures.names_record.trans (names ▸ compiled.mem_names.symm)
  · intro name listed
    exact captures.get?_record distinct (names ▸ listed)

/-- Matching is greedy. A path without a decomposition has no match; of any other the match is the
greatest decomposition, with the bytes of its text and one string field for each parameter. The
length of a match is found alike. -/
theorem matchPrefix_greedy {source : String} {p : Pattern} (h : compile source = .ok p)
    (path : String) :
    (p.tokens.flatMap Token.source = source.toList ∧ RestLast p.tokens ∧ p.params.Nodup) ∧
      (p.matchPrefix path = none ↔ ∀ value, ¬ Decomposes p.tokens value path.toList) ∧
      (∀ m, p.matchPrefix path = some m →
        ∃ value, Greatest p.tokens value path.toList ∧ Holds p path value m) ∧
      p.prefixLength path = (p.matchPrefix path).map PrefixMatch.consumed := by
  have compiled := compiled_of_compile h
  refine ⟨⟨compiled.spelled, compiled.restLast, compiled.nodup⟩, ?_, ?_, ?_⟩
  · constructor
    · intro none
      exact not_decomposes_of_matchTokens_none (matchPrefix_eq_none_iff.1 none)
    · intro none
      cases found : p.matchPrefix path with
      | none => rfl
      | some m =>
        obtain ⟨value, greatest, -⟩ := matchPrefix_some compiled found
        exact (none value greatest.toDecomposes).elim
  · exact fun m => matchPrefix_some compiled
  · rw [prefixLength, matchPrefix, Option.map_map]
    rfl

/-- A literal that occurs in a capture: the first point is given up, the second ends `a`. -/
theorem matchPrefix_greedy_backtracks : ∃ p, compile "/:a.:b/*c" = .ok p ∧
    ((p.matchPrefix "/x.y.é/q/r").map fun m =>
        (m.consumed, ["a", "b", "c"].map m.captures.text?)) =
      some (11, [some "x.y", some "é", some "q/r"]) ∧
    ∀ m, p.matchPrefix "/x.y.é/q/r" = some m →
      ∃ value, Greatest p.tokens value "/x.y.é/q/r".toList ∧ Holds p "/x.y.é/q/r" value m := by
  have compiled : compile "/:a.:b/*c" = .ok _ := rfl
  exact ⟨_, compiled, by decide +kernel, (matchPrefix_greedy compiled "/x.y.é/q/r").2.2.1⟩

end RequestRouter.Pattern
