import RequestRouter.Pattern.Expression
import RequestRouter.Proofs.Pattern.Grammar
import RequestRouter.Proofs.Text.Parts

/-!
# Reading an expression

An expression is read word by word: a character that is no operator stands for itself, an escaped
one for itself as well, and a named group of one of the two classes for a parameter. No word is the
start of another one, so that a text has at most one reading. Main statement: the expression of a
pattern has one, and this is the tokens of the pattern.
-/

namespace RequestRouter.Pattern

/-- The characters that stand for something else than themselves outside of a class. -/
def special : List Char :=
  ['\\', '.', '+', '*', '?', '(', ')', '|', '[', ']', '\x7b', '\x7d', '^', '$']

/-- The characters that stand for themselves after a backslash. A letter, a digit or an angle bracket
makes a class or an assertion with it, and what is not ASCII is never escaped. -/
def Escapable (c : Char) : Prop :=
  c.toNat < 128 ∧ c.isAlphanum = false ∧ c ≠ '<' ∧ c ≠ '>'

/-- The words of an expression that are read as a token. -/
inductive Word : Token → List Char → Prop
  | plain {c : Char} (h : c ∉ special) : Word (.literal c) [c]
  | escaped {c : Char} (h : Escapable c) : Word (.literal c) ['\\', c]
  | segment {name : String} (h : '>' ∉ name.toList) :
    Word (.segment name) ("(?P<" ++ name ++ ">[^/]+)").toList
  | rest {name : String} (h : '>' ∉ name.toList) :
    Word (.rest name) ("(?P<" ++ name ++ ">.+)").toList

/-- The text is read as the tokens, from the first to the last. -/
def Reads : List Char → List Token → Prop
  | cs, [] => cs = []
  | cs, t :: ts => ∃ word after, cs = word ++ after ∧ Word t word ∧ Reads after ts

/-- The token that the first word of a text can only be read as, and the text after it. -/
def firstToken? : List Char → Option (Token × List Char)
  | [] => none
  | '\\' :: c :: cs => some (.literal c, cs)
  | '(' :: '?' :: 'P' :: '<' :: cs =>
    match cutFirst '>' cs with
    | (name, some ('[' :: after)) => some (.segment (String.ofList name), after.drop 5)
    | (name, some after) => some (.rest (String.ofList name), after.drop 3)
    | (_, none) => none
  | c :: cs => some (.literal c, cs)

/-- A word is read in the same way whatever follows it, so it is not the start of another word. -/
theorem firstToken?_append {t : Token} {word : List Char} (h : Word t word) (after : List Char) :
    firstToken? (word ++ after) = some (t, after) := by
  cases h with
  | plain plain =>
    rename_i c
    have notEscape : c ≠ '\\' := fun same => plain (same ▸ by decide)
    have notGroup : c ≠ '(' := fun same => plain (same ▸ by decide)
    rw [List.singleton_append]
    unfold firstToken?
    split <;> simp_all
  | escaped _ => rfl
  | @segment name closed =>
    have split : ("(?P<" ++ name ++ ">[^/]+)").toList ++ after =
        '(' :: '?' :: 'P' :: '<' :: (name.toList ++ '>' :: '[' :: '^' :: '/' :: ']' :: '+' :: ')' ::
          after) := by
      simp
    rw [split, firstToken?, cutFirst_append_cons closed]
    simp
  | @rest name closed =>
    have split : ("(?P<" ++ name ++ ">.+)").toList ++ after =
        '(' :: '?' :: 'P' :: '<' :: (name.toList ++ '>' :: '.' :: '+' :: ')' :: after) := by
      simp
    rw [split, firstToken?, cutFirst_append_cons closed]
    simp

theorem Reads.unique {cs : List Char} {ts ts' : List Token} (h : Reads cs ts)
    (h' : Reads cs ts') : ts = ts' := by
  induction ts generalizing cs ts' with
  | nil =>
    obtain rfl : cs = [] := h
    cases ts' with
    | nil => rfl
    | cons t' ts' =>
      obtain ⟨word, after, split, reads, -⟩ := h'
      have first := firstToken?_append reads after
      rw [← split] at first
      cases first
  | cons t ts ih =>
    obtain ⟨word, after, rfl, reads, others⟩ := h
    have first := firstToken?_append reads after
    cases ts' with
    | nil =>
      rw [show word ++ after = [] from h'] at first
      cases first
    | cons t' ts' =>
      obtain ⟨word', after', split, reads', others'⟩ := h'
      rw [split, firstToken?_append reads' after'] at first
      cases first
      rw [ih others others']

theorem word_literal (c : Char) : Word (.literal c) (Token.literal c).expression := by
  have escapes : ∀ c ∈ operators, Escapable c := by simp [operators, Escapable]
  have covers : special ⊆ operators := by simp [special, operators]
  rw [Token.expression, escapeLiteral]
  by_cases operator : c ∈ operators
  · rw [if_pos (by simpa using operator)]
    exact .escaped (escapes c operator)
  · rw [if_neg (by simpa using operator)]
    exact .plain fun listed => operator (covers listed)

theorem word_expression {t : Token} (closed : ∀ name, t.param? = some name → '>' ∉ name.toList) :
    Word t t.expression := by
  cases t with
  | literal c => exact word_literal c
  | segment name =>
    have spelled : ("(?P<" ++ name ++ ">[^/]+)").toList = (Token.segment name).expression := by
      simp [Token.expression, group]
    exact spelled ▸ .segment (closed name rfl)
  | rest name =>
    have spelled : ("(?P<" ++ name ++ ">.+)").toList = (Token.rest name).expression := by
      simp [Token.expression, group]
    exact spelled ▸ .rest (closed name rfl)

theorem reads_flatMap_expression {ts : List Token}
    (closed : ∀ name ∈ paramsOf ts, '>' ∉ name.toList) : Reads (ts.flatMap Token.expression) ts := by
  induction ts with
  | nil => rfl
  | cons t ts ih =>
    have first : ∀ name, t.param? = some name → name ∈ paramsOf (t :: ts) :=
      fun name own => List.mem_filterMap.2 ⟨t, List.mem_cons_self, own⟩
    have others : ∀ name ∈ paramsOf ts, name ∈ paramsOf (t :: ts) :=
      (List.sublist_cons_self t ts).filterMap _ |>.subset
    refine ⟨t.expression, _, List.flatMap_cons, word_expression fun name own => ?_, ih ?_⟩
    · exact closed name (first name own)
    · exact fun name listed => closed name (others name listed)

/-- The names of a source's parameters end before a bracket. -/
theorem not_mem_of_mem_params {source : String} {p : Pattern} (compiled : compile source = .ok p)
    {name : String} (listed : name ∈ paramsOf p.tokens) : '>' ∉ name.toList := by
  obtain ⟨-, names⟩ := sound_of_tokenize (tokenize_of_compile compiled)
  rw [names] at listed
  obtain ⟨m, -, rfl⟩ := List.mem_map.1 listed
  intro bracket
  rw [String.toList_ofList] at bracket
  exact absurd (List.mem_takeWhile_imp bracket) (by decide)

/-- The expression of a source is a `^` and the words of its tokens in the order of the source, of
which only the last can be a `*name`. It can be read as these tokens and as no others: a literal is
not read as an operator, whatever text it stands in. So the expression tells the source. -/
theorem expression_decodes {source : String} {p : Pattern} (compiled : compile source = .ok p) :
    p.expression.toList = '^' :: p.tokens.flatMap Token.expression ∧
    p.tokens.flatMap Token.source = source.toList ∧ RestLast p.tokens ∧
    (∀ cs, p.expression.toList = '^' :: cs → ∀ ts, Reads cs ts ↔ ts = p.tokens) ∧
    ∀ source' p', compile source' = .ok p' → p'.expression = p.expression → source' = source := by
  have text {p : Pattern} : p.expression.toList = '^' :: p.tokens.flatMap Token.expression :=
    String.toList_ofList
  have reads {source : String} {p : Pattern} (compiled : compile source = .ok p) :
      Reads (p.tokens.flatMap Token.expression) p.tokens :=
    reads_flatMap_expression fun name listed => not_mem_of_mem_params compiled listed
  have spelled := (compiled_of_compile compiled).spelled
  refine ⟨text, spelled, (compiled_of_compile compiled).restLast, ?_, ?_⟩
  · intro cs split ts
    rw [text] at split
    obtain rfl := (List.cons.inj split).2
    constructor
    · exact fun other => other.unique (reads compiled)
    · rintro rfl
      exact reads compiled
  · intro source' p' compiled' same
    have words := congrArg String.toList same
    rw [text, text] at words
    have reading := reads compiled'
    rw [(List.cons.inj words).2] at reading
    have tokens : p'.tokens = p.tokens := reading.unique (reads compiled)
    have spelled' := (compiled_of_compile compiled').spelled
    rw [tokens, spelled] at spelled'
    exact (String.toList_inj.1 spelled').symm

/-- Literals that look like a group, a class and an escape, in front of two parameters. -/
theorem expression_decodes_lookalikes :
    ∃ p, compile "/(?P<x>[^/]+)\\d.:id*rest" = .ok p ∧
      p.expression = "^/\\(\\?P<x>\\[\\^/\\]\\+\\)\\\\d\\.(?P<id>[^/]+)(?P<rest>.+)" ∧
      ∃ cs, p.expression.toList = '^' :: cs ∧ Reads cs p.tokens ∧
        ∀ ts, Reads cs ts → paramsOf ts = ["id", "rest"] := by
  have compiled : compile "/(?P<x>[^/]+)\\d.:id*rest" = .ok ⟨_, _, _⟩ := rfl
  obtain ⟨text, -, -, decodes, -⟩ := expression_decodes compiled
  refine ⟨_, compiled, by decide +kernel, _, text, (decodes _ text _).2 rfl, fun ts reads => ?_⟩
  rw [(decodes _ text ts).1 reads]
  rfl

end RequestRouter.Pattern
