import Mathlib.Data.List.TakeWhile
import RequestRouter.Proofs.Pattern.Compile
import RequestRouter.Proofs.Text.Utf8

/-!
# The grammar of patterns

Every `:` and every `*` of a source starts a token, whose name is the longest run of name characters
after it. A source is a pattern if all of these tokens are sound and their names distinct. Otherwise
the leftmost unsound token is reported, and a repeated name only if there is none.
-/

namespace RequestRouter.Pattern

/-- A marker of a source, with the text before and after it. -/
structure Mark where
  before : List Char
  marker : Char
  after : List Char

/-- The marks of `before ++ cs` that stand in `cs`. -/
def marksFrom (before : List Char) : List Char → List Mark
  | [] => []
  | c :: cs =>
    if isMarker c then ⟨before, c, cs⟩ :: marksFrom (before ++ [c]) cs
    else marksFrom (before ++ [c]) cs

def marks (source : String) : List Mark :=
  marksFrom [] source.toList

namespace Mark

/-- The longest run of name characters after the marker. -/
def name (m : Mark) : List Char :=
  m.after.takeWhile isNameChar

/-- The byte of the source at which the marker stands. -/
def position (m : Mark) : Nat :=
  Utf8.length m.before

def Named (m : Mark) : Prop :=
  ∃ c rest, m.name = c :: rest ∧ c.isDigit = false

def EndsRest (m : Mark) : Prop :=
  m.marker = '*' → m.name = m.after

structure Sound (m : Mark) : Prop where
  named : m.Named
  endsRest : m.EndsRest

/-- The places where the token is cut out of the source: before and after its marker, and after its
name. -/
def cuts (m : Mark) : List Nat :=
  [m.position, m.position + 1, m.position + 1 + Utf8.length m.name]

def check (m : Mark) : Except TokenFault Unit :=
  if !isName m.name then .error (.badName m.position)
  else if m.marker = '*' ∧ m.name.length ≠ m.after.length then .error .restNotLast
  else .ok ()

theorem name_prefix (m : Mark) : m.name <+: m.after :=
  List.takeWhile_prefix isNameChar

theorem isName_iff {m : Mark} : isName m.name = true ↔ m.Named := by
  unfold Named isName
  cases m.name <;> simp

theorem check_of_not_named {m : Mark} (h : ¬ m.Named) : m.check = .error (.badName m.position) := by
  rw [← isName_iff, Bool.not_eq_true] at h
  simp [check, h]

theorem check_of_not_endsRest {m : Mark} (named : m.Named) (h : ¬ m.EndsRest) :
    m.check = .error .restNotLast := by
  obtain ⟨star, short⟩ := Classical.not_imp.1 h
  have differ : m.name.length ≠ m.after.length :=
    fun same => short (m.name_prefix.eq_of_length same)
  simp [check, isName_iff.2 named, star, differ]

theorem check_of_sound {m : Mark} (h : m.Sound) : m.check = .ok () := by
  have whole : ¬ (m.marker = '*' ∧ m.name.length ≠ m.after.length) := by
    rintro ⟨star, differ⟩
    exact differ (congrArg List.length (h.endsRest star))
  simp only [check, isName_iff.2 h.named, Bool.not_true, Bool.false_eq_true, if_false, if_neg whole]

theorem check_eq_ok_iff {m : Mark} : m.check = .ok () ↔ m.Sound := by
  constructor
  · intro passed
    by_cases named : m.Named
    · by_cases ends : m.EndsRest
      · exact ⟨named, ends⟩
      · rw [check_of_not_endsRest named ends] at passed
        cases passed
    · rw [check_of_not_named named] at passed
      cases passed
  · exact check_of_sound

end Mark

def markNames (source : String) : List String :=
  (marks source).map fun m => String.ofList m.name

theorem mem_marksFrom {before cs : List Char} {m : Mark} :
    m ∈ marksFrom before cs ↔ isMarker m.marker = true ∧
      ∃ between, m.before = before ++ between ∧ cs = between ++ m.marker :: m.after := by
  induction cs generalizing before with
  | nil => simp [marksFrom]
  | cons c cs ih =>
    have further : m ∈ marksFrom (before ++ [c]) cs ↔ isMarker m.marker = true ∧
        ∃ between, m.before = before ++ c :: between ∧
          c :: cs = c :: between ++ m.marker :: m.after := by
      simp [ih]
    constructor
    · intro listed
      have here : m = ⟨before, c, cs⟩ ∧ isMarker c = true ∨ m ∈ marksFrom (before ++ [c]) cs := by
        rw [marksFrom] at listed
        split at listed
        · rename_i marker
          exact (List.mem_cons.1 listed).imp_left fun same => ⟨same, marker⟩
        · exact Or.inr listed
      rcases here with ⟨rfl, marker⟩ | later
      · exact ⟨marker, [], by simp, rfl⟩
      · obtain ⟨marker, between, own, split⟩ := further.1 later
        exact ⟨marker, c :: between, own, split⟩
    · rintro ⟨marker, between, own, split⟩
      rw [marksFrom]
      cases between with
      | nil =>
        obtain ⟨rfl, rfl⟩ := List.cons.inj split
        have same : m = ⟨before, m.marker, m.after⟩ := by
          rw [List.append_nil] at own
          rw [← own]
        rw [if_pos marker]
        exact List.mem_cons.2 (Or.inl same)
      | cons d between =>
        obtain ⟨rfl, rest⟩ := List.cons.inj split
        have later := further.2 ⟨marker, between, own, by rw [rest]; rfl⟩
        split
        · exact List.mem_cons_of_mem _ later
        · exact later

/-- The marks of a source are its markers. -/
theorem mem_marks_iff {source : String} {m : Mark} :
    m ∈ marks source ↔ isMarker m.marker = true ∧
      m.before ++ m.marker :: m.after = source.toList := by
  rw [marks, mem_marksFrom]
  constructor
  · rintro ⟨marker, between, own, split⟩
    rw [List.nil_append] at own
    exact ⟨marker, by rw [own, split]⟩
  · rintro ⟨marker, split⟩
    exact ⟨marker, m.before, rfl, split.symm⟩

theorem marksFrom_cons {c : Char} (marker : isMarker c = true) (before cs : List Char) :
    marksFrom before (c :: cs) = ⟨before, c, cs⟩ :: marksFrom (before ++ [c]) cs := by
  rw [marksFrom, if_pos marker]

theorem marksFrom_cons_plain {c : Char} (plain : isMarker c = false) (before cs : List Char) :
    marksFrom before (c :: cs) = marksFrom (before ++ [c]) cs := by
  rw [marksFrom, plain, if_neg Bool.false_ne_true]

/-- Text without markers has no marks. -/
theorem marksFrom_of_plain {plain : List Char} (h : ∀ c ∈ plain, isMarker c = false)
    (before : List Char) : marksFrom before plain = [] := by
  induction plain generalizing before with
  | nil => rfl
  | cons c plain ih =>
    obtain ⟨first, others⟩ := List.forall_mem_cons.1 h
    rw [marksFrom_cons_plain first, ih others]

theorem not_isMarker_of_isNameChar {c : Char} (h : isNameChar c = true) : isMarker c = false := by
  by_contra marker
  rw [Bool.not_eq_false] at marker
  have either : c = ':' ∨ c = '*' := by simpa [isMarker] using marker
  rcases either with rfl | rfl
  · exact absurd h (by decide)
  · exact absurd h (by decide)

theorem not_isMarker_of_mem_takeWhile {cs : List Char} :
    ∀ c ∈ cs.takeWhile isNameChar, isMarker c = false :=
  fun _ listed => not_isMarker_of_isNameChar (List.mem_takeWhile_imp listed)

theorem utf8Size_of_isMarker {c : Char} (h : isMarker c = true) : c.utf8Size = 1 := by
  have either : c = ':' ∨ c = '*' := by simpa [isMarker] using h
  rcases either with rfl | rfl <;> rfl

/-- What the scan finds, from the marks alone. -/
def readMarks (ms : List Mark) : Except TokenFault (List String) :=
  (forM ms Mark.check).map fun _ => ms.map fun m => String.ofList m.name

theorem readMarks_cons_of_error {m : Mark} {fault : TokenFault} (h : m.check = .error fault)
    (ms : List Mark) : readMarks (m :: ms) = .error fault := by
  rw [readMarks, List.forM_cons, h]
  rfl

theorem readMarks_cons_of_ok {m : Mark} (h : m.check = .ok ()) (ms : List Mark) :
    readMarks (m :: ms) = (readMarks ms).map (String.ofList m.name :: ·) := by
  rw [readMarks, List.forM_cons, h, readMarks]
  cases walk : forM ms Mark.check with
  | error e => simp [Bind.bind, Except.bind, Except.map]
  | ok u => simp [Bind.bind, Except.bind, Except.map]

/-- The scan looks at the marks one after another. The characters that it skips are those of a name,
so it skips no mark. -/
theorem tokenize_eq_readMarks {skip offset : Nat} {before cs : List Char}
    (bytes : offset = Utf8.length before) (plain : ∀ c ∈ cs.take skip, isMarker c = false) :
    (tokenize skip offset cs).map paramsOf = readMarks (marksFrom before cs) := by
  fun_induction tokenize skip offset cs generalizing before with
  | case1 => rfl
  | case2 skip offset c cs ih =>
    obtain ⟨first, others⟩ := List.forall_mem_cons.1 plain
    rw [marksFrom_cons_plain first]
    exact ih (by simp [bytes, Nat.add_comm]) others
  | case3 offset c cs marker =>
    rename_i unnamed
    have bad : ¬ (Mark.mk before c cs).Named := by
      rw [← Mark.isName_iff]
      simpa [Mark.name] using unnamed
    rw [marksFrom_cons marker, readMarks_cons_of_error (Mark.check_of_not_named bad), Mark.position,
      ← bytes]
    rfl
  | case4 offset c cs marker name valid star =>
    rename_i whole
    have all : name = cs := (List.takeWhile_prefix isNameChar).eq_of_length whole
    have sound : (Mark.mk before c cs).Sound :=
      ⟨Mark.isName_iff.1 (by simpa [Mark.name] using valid), fun _ => all⟩
    have noMore : marksFrom (before ++ [c]) cs = [] := by
      refine marksFrom_of_plain (fun d listed => ?_) _
      exact not_isMarker_of_mem_takeWhile d (all.symm ▸ listed)
    rw [marksFrom_cons marker, readMarks_cons_of_ok (Mark.check_of_sound sound), noMore]
    rfl
  | case5 offset c cs marker name valid star =>
    rename_i short
    have named : (Mark.mk before c cs).Named := Mark.isName_iff.1 (by simpa [Mark.name] using valid)
    have bad : ¬ (Mark.mk before c cs).EndsRest := fun ends =>
      short (congrArg List.length (ends (by simpa using star)))
    rw [marksFrom_cons marker, readMarks_cons_of_error (Mark.check_of_not_endsRest named bad)]
    rfl
  | case6 offset c cs marker name valid star =>
    rename_i ih
    have sound : (Mark.mk before c cs).Sound :=
      ⟨Mark.isName_iff.1 (by simpa [Mark.name] using valid),
        fun same => absurd same (by simpa using star)⟩
    have skipped : ∀ d ∈ cs.take name.length, isMarker d = false := by
      rw [← List.prefix_iff_eq_take.1 (List.takeWhile_prefix isNameChar)]
      exact not_isMarker_of_mem_takeWhile
    have bytes' : offset + 1 = Utf8.length (before ++ [c]) := by
      simp [bytes, utf8Size_of_isMarker marker]
    have rest := ih bytes' skipped
    rw [marksFrom_cons marker, readMarks_cons_of_ok (Mark.check_of_sound sound), ← rest]
    cases tokenize name.length (offset + 1) cs <;> rfl
  | case7 offset c cs literal ih =>
    rw [marksFrom_cons_plain (Bool.eq_false_iff.2 literal), ← ih (by simp [bytes]) (by simp)]
    cases tokenize 0 (offset + c.utf8Size) cs <;> rfl

section Scan

variable {source : String}

theorem scan_eq_readMarks (source : String) :
    (tokenize 0 0 source.toList).map paramsOf = readMarks (marks source) :=
  tokenize_eq_readMarks rfl (by simp)

theorem exists_tokenize (sound : ∀ m ∈ marks source, m.Sound) :
    ∃ tokens, tokenize 0 0 source.toList = .ok tokens ∧ paramsOf tokens = markNames source := by
  have passed := except_forM_eq_ok_iff.2 fun m listed => Mark.check_of_sound (sound m listed)
  have scan := scan_eq_readMarks source
  rw [readMarks, passed] at scan
  exact except_map_eq_ok_iff.1 scan

/-- The scan stops at the first unsound mark. -/
theorem tokenize_eq_error {before after : List Mark} {m : Mark} {fault : TokenFault}
    (split : marks source = before ++ m :: after) (sound : ∀ earlier ∈ before, earlier.Sound)
    (bad : m.check = .error fault) : tokenize 0 0 source.toList = .error fault := by
  have stopped : forM (marks source) Mark.check = .error fault := by
    refine except_forM_eq_error_iff.2 ⟨before, m, after, split, fun earlier listed => ?_, bad⟩
    exact Mark.check_of_sound (sound earlier listed)
  have scan := scan_eq_readMarks source
  rw [readMarks, stopped] at scan
  exact except_map_eq_error_iff.1 scan

theorem sound_of_tokenize {tokens : List Token} (h : tokenize 0 0 source.toList = .ok tokens) :
    (∀ m ∈ marks source, m.Sound) ∧ paramsOf tokens = markNames source := by
  have scan := scan_eq_readMarks source
  rw [h] at scan
  obtain ⟨_, passed, names⟩ := except_map_eq_ok_iff.1 scan.symm
  exact ⟨fun m listed => Mark.check_eq_ok_iff.1 (except_forM_eq_ok_iff.1 passed m listed),
    names.symm⟩

/-- With all tokens sound, only a repeated name can be wrong. -/
theorem compile_eq_duplicateParam (sound : ∀ m ∈ marks source, m.Sound)
    (repeats : ¬ (markNames source).Nodup) :
    ∃ name, compile source = .error (.duplicateParam source name) ∧
      1 < (markNames source).count name ∧
      ∀ other, 1 < (markNames source).count other → name ≤ other := by
  obtain ⟨tokens, read, names⟩ := exists_tokenize sound
  have entries : Entry.names ((paramsOf tokens).map (·, FieldKind.string)) = markNames source := by
    simp [Entry.names, Function.comp_def, names]
  cases made : Table.ofDistinct ((paramsOf tokens).map (·, FieldKind.string)) with
  | error name =>
    obtain ⟨twice, least⟩ := Table.leastRepeat_of_ofDistinct made
    rw [entries] at twice least
    exact ⟨name, by simp only [compile, read, made], twice, least⟩
  | ok schema => exact absurd (entries ▸ Table.nodup_of_ofDistinct made) repeats

/-- A token is cut out between characters. -/
theorem isValid_of_mem_cuts {m : Mark} (listed : m ∈ marks source) {cut : Nat}
    (h : cut ∈ m.cuts) : String.Pos.Raw.IsValid source ⟨cut⟩ := by
  obtain ⟨marker, split⟩ := mem_marks_iff.1 listed
  obtain ⟨rest, after⟩ := m.name_prefix
  have past : m.position + 1 = Utf8.length (m.before ++ [m.marker]) := by
    simp [Mark.position, utf8Size_of_isMarker marker]
  have ended : m.position + 1 + Utf8.length m.name =
      Utf8.length (m.before ++ m.marker :: m.name) := by
    simp [Mark.position, utf8Size_of_isMarker marker, Nat.add_assoc]
  simp only [Mark.cuts, List.mem_cons, List.not_mem_nil, or_false] at h
  rcases h with rfl | rfl | rfl
  · exact Utf8.isValid_length split
  · rw [past]
    exact Utf8.isValid_length (b := m.after) (by simpa using split)
  · rw [ended]
    exact Utf8.isValid_length (b := rest) (by simp [after, split])

end Scan

/-- Compilation accepts exactly the grammar: every token of the source is sound and the names are
distinct. The parameters are then the names in the order of the source, a string field each.
Otherwise the leftmost unsound token is reported, for its name before what follows it; if all tokens
are sound, the least name that repeats. No source is ever cut inside of a character. -/
theorem compile_grammar (source : String) :
    ((∃ p, compile source = .ok p) ↔
      (∀ m ∈ marks source, m.Sound) ∧ (markNames source).Nodup) ∧
    (∀ p, compile source = .ok p → p.params = markNames source ∧
      ∀ name, p.schema.get? name = if name ∈ markNames source then some .string else none) ∧
    (∀ before m after, marks source = before ++ m :: after →
      (∀ earlier ∈ before, earlier.Sound) →
      (¬ m.Named → compile source = .error (.invalidName source m.position)) ∧
      (m.Named → ¬ m.EndsRest → compile source = .error (.restNotLast source))) ∧
    ((∀ m ∈ marks source, m.Sound) → ¬ (markNames source).Nodup →
      ∃ name, compile source = .error (.duplicateParam source name) ∧
        1 < (markNames source).count name ∧
        ∀ other, 1 < (markNames source).count other → name ≤ other) ∧
    ∀ m ∈ marks source, ∀ cut ∈ m.cuts, String.Pos.Raw.IsValid source ⟨cut⟩ := by
  have params {p : Pattern} (compiled : compile source = .ok p) :=
    sound_of_tokenize (tokenize_of_compile compiled)
  refine ⟨⟨?_, ?_⟩, ?_, ?_, compile_eq_duplicateParam, fun m listed cut h =>
    isValid_of_mem_cuts listed h⟩
  · rintro ⟨p, compiled⟩
    obtain ⟨sound, names⟩ := params compiled
    exact ⟨sound, names ▸ (compiled_of_compile compiled).nodup⟩
  · rintro ⟨sound, distinct⟩
    obtain ⟨tokens, read, names⟩ := exists_tokenize sound
    obtain ⟨p, compiled, -⟩ := exists_compile read (names.symm ▸ distinct)
    exact ⟨p, compiled⟩
  · intro p compiled
    obtain ⟨-, names⟩ := params compiled
    refine ⟨names, fun name => ?_⟩
    rw [← names]
    exact (compiled_of_compile compiled).get?_schema name
  · intro before m after split sound
    constructor
    · intro unnamed
      have stopped := tokenize_eq_error split sound (Mark.check_of_not_named unnamed)
      simp only [compile, stopped]
    · intro named followed
      have stopped := tokenize_eq_error split sound (Mark.check_of_not_endsRest named followed)
      simp only [compile, stopped]

/-- The first token is sound, the second has a bad name, and so has the last; the `*` has more text
after it. The character `é` takes two bytes. -/
theorem compile_grammar_first_fault :
    compile "/é:a:9*b:" = .error (.invalidName "/é:a:9*b:" 5) := by
  obtain ⟨-, -, first, -⟩ := compile_grammar "/é:a:9*b:"
  have split : marks "/é:a:9*b:" = [⟨['/', 'é'], ':', ['a', ':', '9', '*', 'b', ':']⟩] ++
      ⟨['/', 'é', ':', 'a'], ':', ['9', '*', 'b', ':']⟩ ::
        [⟨['/', 'é', ':', 'a', ':', '9'], '*', ['b', ':']⟩,
          ⟨['/', 'é', ':', 'a', ':', '9', '*', 'b'], ':', []⟩] := rfl
  have sound : ∀ earlier ∈ [Mark.mk ['/', 'é'] ':' ['a', ':', '9', '*', 'b', ':']],
      earlier.Sound := by
    rintro m listed
    obtain rfl := List.mem_singleton.1 listed
    exact ⟨⟨'a', [], rfl, rfl⟩, by simp [Mark.EndsRest]⟩
  have unnamed : ¬ (Mark.mk ['/', 'é', ':', 'a'] ':' ['9', '*', 'b', ':']).Named := by
    rintro ⟨c, rest, name, notDigit⟩
    obtain ⟨rfl, -⟩ := List.cons.inj (show ['9'] = c :: rest from name)
    exact absurd notDigit (by decide)
  exact (first _ _ _ split sound).1 unnamed

end RequestRouter.Pattern
