import RequestRouter.Proofs.Decimal.Numeral
import RequestRouter.Settings.Basic

/-!
# Overriding settings

What the variables of the environment make of the settings. A variable with a text that it can have
sets its field, and with any other text it leaves the field alone. The policies are an exception: a
text that names no policy makes them lenient.
-/

namespace RequestRouter

/-- The text is the policy's name, in letters of either case. No letter outside of ASCII has one of
the letters of the two names as its lower case. -/
def ConversionPolicy.NamedBy (text : String) (policy : ConversionPolicy) : Prop :=
  text.toList.map Char.toLower = policy.name.toList

/-- Between blanks, the text is a numeral, in base sixteen after `0x` and in base ten without; the
number has 64 bits. -/
def IsSize (text : String) (n : Nat) : Prop :=
  n < 2 ^ 64 ∧ (Decimal.Numeral 10 (trimChars text.toList) n ∨
    ∃ digits, trimChars text.toList = '0' :: 'x' :: digits ∧ Decimal.Numeral 16 digits n)

/-- The text has more than blanks, and the name is what stands between them, in lower case. -/
def NamesHeader (text name : String) : Prop :=
  trimText text ≠ "" ∧ name = Http.lowerCase (trimText text)

/-- A field that is its variable's value, where the variable is set to a text that has one, and
otherwise what it was. -/
structure Overridden {α : Type} (Value : String → α → Prop) (found : Option String)
    (own result : α) : Prop where
  taken : ∀ text v, found = some text → Value text v → result = v
  kept : (∀ text v, found = some text → ¬ Value text v) → result = own

/-- A reader that reads the texts which have a value, and reads them as that value, overrides. -/
theorem overridden_of_reader {α : Type} {Value : String → α → Prop} {read : String → Option α}
    (reads : ∀ text v, read text = some v ↔ Value text v) (found : Option String) (own : α) :
    Overridden Value found own ((found.bind read).getD own) := by
  constructor
  · rintro text v rfl value
    rw [Option.bind_some, (reads text v).2 value, Option.getD_some]
  · intro none
    cases bound : found.bind read with
    | none => rfl
    | some v =>
      obtain ⟨text, set, value⟩ := Option.bind_eq_some_iff.1 bound
      exact absurd ((reads text v).1 value) (none text v set)

theorem readSize?_eq_some_iff (text : String) (n : Nat) :
    readSize? text = some n ↔ IsSize text n := by
  unfold readSize? IsSize
  split
  · rename_i digits trimmed
    rw [Decimal.unsigned?_eq_some_iff, and_comm, trimmed]
    simp [Decimal.not_numeral_of_mark]
  · rename_i plain
    rw [Decimal.unsigned?_eq_some_iff, and_comm]
    refine and_congr_right fun _ => ⟨Or.inl, fun size => size.resolve_right ?_⟩
    rintro ⟨digits, trimmed, -⟩
    exact plain digits trimmed

theorem readHeader?_eq_some_iff (text name : String) :
    Settings.readHeader? text = some name ↔ NamesHeader text name := by
  show (if (trimText text).isEmpty then none else some _) = some name ↔ _
  rw [Option.ite_none_left_eq_some, String.isEmpty_iff, Option.some.injEq, eq_comm (b := name)]
  rfl

namespace ConversionPolicy

/-- The variable is set to a text that names no policy. -/
def Misspelt (found : Option String) : Prop :=
  ∃ text, found = some text ∧ ∀ policy, ¬ NamedBy text policy

theorem ofText_of_namedBy {text : String} {policy : ConversionPolicy} (h : NamedBy text policy) :
    ofText text = policy := by
  rw [ofText, show text.toList.map Char.toLower = _ from h]
  cases policy <;> rfl

theorem ofText_of_not_namedBy {text : String} (h : ¬ NamedBy text .strict) :
    ofText text = .lenient :=
  if_neg h

theorem kept_of_misspelt {found : Option String} {own result : ConversionPolicy}
    (h : Overridden NamedBy found own result) (wrong : Misspelt found) : result = own := by
  obtain ⟨text, rfl, nameless⟩ := wrong
  refine h.kept fun _ policy set named => ?_
  cases set
  exact nameless policy named

/-- What becomes of a policy whose variable has the text that is found, if any. -/
structure Follows (found : Option String) (own result : ConversionPolicy) : Prop where
  /-- The rule of overriding fails where a misspelt variable meets the strict policy only. -/
  overridden_iff : Overridden NamedBy found own result ↔ ¬ (Misspelt found ∧ own = .strict)
  /-- What is misspelt counts as lenient. -/
  lenient : Misspelt found → result = .lenient

theorem follows (found : Option String) (own : ConversionPolicy) :
    Follows found own ((found.map ofText).getD own) := by
  have misspelt : Misspelt found → (found.map ofText).getD own = .lenient := by
    rintro ⟨text, rfl, nameless⟩
    exact ofText_of_not_namedBy (nameless .strict)
  refine ⟨⟨?_, fun clear => ⟨?_, fun none => ?_⟩⟩, misspelt⟩
  · rintro overridden ⟨wrong, rfl⟩
    have kept := kept_of_misspelt overridden wrong
    rw [misspelt wrong] at kept
    cases kept
  · rintro text v rfl named
    exact ofText_of_namedBy named
  · cases found with
    | none => rfl
    | some text =>
      have wrong : Misspelt (some text) := ⟨text, rfl, fun policy => none text policy rfl⟩
      rw [misspelt wrong]
      cases own with
      | lenient => rfl
      | strict => exact absurd ⟨wrong, rfl⟩ clear

end ConversionPolicy

namespace Settings

/-- The limit on bodies and the header of request ids are taken from variables that hold a size or
a name, and kept otherwise. The policies too are taken from variables that hold the name of one, and
kept where the variable is not set; but a variable that names no policy makes its policy lenient,
which is not the policy that was kept if that is the strict one. -/
theorem override_by_variables (settings : Settings) (env : Environment) :
    Overridden IsSize (env "ROUTELOOM_MAX_BODY_BYTES") settings.maxBodyBytes
      (settings.override env).maxBodyBytes ∧
    Overridden NamesHeader (env "ROUTELOOM_REQUEST_ID_HEADER") settings.requestIdHeader
      (settings.override env).requestIdHeader ∧
    ConversionPolicy.Follows (env "ROUTELOOM_CONVERSION_POLICY") settings.conversionPolicy
      (settings.override env).conversionPolicy ∧
    ConversionPolicy.Follows (env "ROUTELOOM_BODY_POLICY") settings.bodyPolicy
      (settings.override env).bodyPolicy :=
  ⟨overridden_of_reader readSize?_eq_some_iff _ _, overridden_of_reader readHeader?_eq_some_iff _ _,
    ConversionPolicy.follows _ _, ConversionPolicy.follows _ _⟩

/-- A misspelt variable turns a strict policy lenient. -/
theorem misspelt_policy_not_ignored :
    let settings : Settings := { conversionPolicy := .strict }
    let env : Environment := fun name =>
      if name = "ROUTELOOM_CONVERSION_POLICY" then some "strcit" else none
    ConversionPolicy.Misspelt (env "ROUTELOOM_CONVERSION_POLICY") ∧
      (settings.override env).conversionPolicy = .lenient ∧
      ¬ Overridden ConversionPolicy.NamedBy (env "ROUTELOOM_CONVERSION_POLICY")
        settings.conversionPolicy (settings.override env).conversionPolicy := by
  intro settings env
  have misspelt : ConversionPolicy.Misspelt (env "ROUTELOOM_CONVERSION_POLICY") := by
    refine ⟨"strcit", rfl, fun policy => ?_⟩
    unfold ConversionPolicy.NamedBy
    cases policy <;> decide
  exact ⟨misspelt, rfl, fun overridden =>
    (ConversionPolicy.follows _ _).overridden_iff.1 overridden ⟨misspelt, rfl⟩⟩

end Settings

end RequestRouter
