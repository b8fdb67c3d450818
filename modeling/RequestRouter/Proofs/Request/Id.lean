import Mathlib.Data.Nat.Digits.Lemmas
import RequestRouter.Proofs.Except
import RequestRouter.Request.Id

/-!
# Texts of request ids

An id has 128 bits and its text 26 digits of five bits, so a text can hold two bits more than an id.
They stand in its first digit, and reading drops them. Main statement: the texts that are read as an
id are, up to letter case, its own one and those three whose first digit is worth 8, 16 or 24 more.
-/

namespace RequestRouter.RequestId

open Nat (ofDigits)

def upperCase (s : String) : String :=
  String.ofList (s.toList.map Char.toUpper)

@[simp] theorem toList_upperCase (s : String) :
    (upperCase s).toList = s.toList.map Char.toUpper :=
  String.toList_ofList

section Digits

variable {c : Char} {d e : Nat}

theorem digitChar_injective (small : d < 32) (small' : e < 32)
    (same : digitChar d = digitChar e) : d = e := by
  have distinct : ∀ d < 32, ∀ e < 32, digitChar d = digitChar e → d = e := by decide
  exact distinct d small e small' same

theorem digitValue?_eq_some_iff :
    digitValue? c = some d ↔ d < 32 ∧ c.toUpper = digitChar d := by
  have known : ∀ d < 32, digits.idxOf? (digitChar d) = some d := by decide
  constructor
  · intro read
    obtain ⟨small, found, -⟩ := List.idxOf?_eq_some_iff.1 read
    have bound : d < 32 := small
    refine ⟨bound, ?_⟩
    rw [digitChar, Nat.mod_eq_of_lt bound, ← found]
    exact List.getElem_eq_getD '0'
  · rintro ⟨small, same⟩
    rw [digitValue?, same]
    exact known d small

theorem utf8Size_of_digit (small : d < 32) (same : c.toUpper = digitChar d) : c.utf8Size = 1 := by
  by_cases lower : 'a'.val ≤ c.val ∧ c.val ≤ 'z'.val
  · exact Char.utf8Size_eq_one_iff.2 (UInt32.le_trans lower.2 (by decide))
  · have unchanged : c.toUpper = c := dif_neg lower
    have known : ∀ d < 32, (digitChar d).utf8Size = 1 := by decide
    rw [← unchanged, same]
    exact known d small

/-- The digits from 0 to 7 are written in one way each. -/
theorem le_seven_iff (small : d < 32) (same : c.toUpper = digitChar d) : c ≤ '7' ↔ d < 8 := by
  by_cases lower : 'a'.val ≤ c.val ∧ c.val ≤ 'z'.val
  · have above : ¬ c ≤ '7' := fun below =>
      absurd (UInt32.le_trans lower.1 below) (by decide)
    have capital : c.toUpper = _ := dif_pos lower
    have letter : 'A'.val ≤ (digitChar d).val := by
      rw [← same, capital]
      grind
    have known : ∀ d < 32, 'A'.val ≤ (digitChar d).val → ¬ d < 8 := by decide
    exact iff_of_false above (known d small letter)
  · have unchanged : c.toUpper = c := dif_neg lower
    have known : ∀ d < 32, digitChar d ≤ '7' ↔ d < 8 := by decide
    rw [← unchanged, same]
    exact known d small

end Digits

/-- Digits worth less than 32 each. -/
def Small (ds : List Nat) : Prop :=
  ∀ d ∈ ds, d < 32

/-- A text is read digit by digit, in either case. -/
theorem mapM_digitValue?_eq_some_iff {cs : List Char} {ds : List Nat} :
    cs.mapM digitValue? = some ds ↔ Small ds ∧ cs.map Char.toUpper = ds.map digitChar := by
  induction cs generalizing ds with
  | nil => cases ds <;> simp [Small]
  | cons c cs ih =>
    simp only [List.mapM_cons, Option.bind_eq_bind, Option.bind_eq_some_iff, Option.pure_def,
      Option.some.injEq, ih, digitValue?_eq_some_iff]
    constructor
    · rintro ⟨d, ⟨small, first⟩, rest, ⟨smallRest, others⟩, rfl⟩
      exact ⟨List.forall_mem_cons.2 ⟨small, smallRest⟩, congrArg₂ List.cons first others⟩
    · rintro ⟨small, same⟩
      cases ds with
      | nil => cases same
      | cons d rest =>
        obtain ⟨first, others⟩ := List.cons.inj same
        obtain ⟨smallFirst, smallRest⟩ := List.forall_mem_cons.1 small
        exact ⟨d, ⟨smallFirst, first⟩, rest, ⟨smallRest, others⟩, rfl⟩

theorem length_of_digits {cs : List Char} {ds : List Nat} (small : Small ds)
    (same : cs.map Char.toUpper = ds.map digitChar) : Utf8.length cs = ds.length := by
  induction cs generalizing ds with
  | nil =>
    cases ds with
    | nil => rfl
    | cons _ _ => cases same
  | cons c cs ih =>
    cases ds with
    | nil => cases same
    | cons d rest =>
      obtain ⟨first, others⟩ := List.cons.inj same
      obtain ⟨smallFirst, smallRest⟩ := List.forall_mem_cons.1 small
      rw [Utf8.length_cons, ih smallRest others, utf8Size_of_digit smallFirst first,
        List.length_cons, Nat.add_comm]

theorem foldl_eq_ofDigits (ds : List Nat) :
    ds.foldl (fun n d => n * 32 + d) 0 = ofDigits 32 ds.reverse := by
  induction ds using List.reverseRecOn with
  | nil => rfl
  | append_singleton ds d ih =>
    rw [List.foldl_append, ih, List.reverse_append, List.reverse_singleton, List.singleton_append,
      Nat.ofDigits_cons, List.foldl_cons, List.foldl_nil, Nat.mul_comm, Nat.add_comm]

theorem lastDigits_ofDigits {ds : List Nat} (small : Small ds) :
    lastDigits ds.length (ofDigits 32 ds.reverse) = ds.map digitChar := by
  induction ds using List.reverseRecOn with
  | nil => rfl
  | append_singleton ds d ih =>
    obtain ⟨smallFront, smallLast⟩ := List.forall_mem_append.1 small
    have last : d < 32 := smallLast d (List.mem_singleton_self d)
    rw [List.length_append, List.length_singleton, lastDigits, List.reverse_append,
      List.reverse_singleton, List.singleton_append, Nat.ofDigits_cons, List.map_append]
    have quotient : (d + 32 * ofDigits 32 ds.reverse) / 32 = ofDigits 32 ds.reverse := by omega
    have remainder : (d + 32 * ofDigits 32 ds.reverse) % 32 = d % 32 := by omega
    rw [quotient, ih smallFront, digitChar, remainder]
    rfl

/-- The id that 26 digits denote, without the two highest of their 130 bits. -/
theorem value_ofNat_ofDigits {d : Nat} {rest : List Nat} (length : rest.length = 25)
    (small : Small rest) :
    (ofNat (ofDigits 32 (d :: rest).reverse)).value = ofDigits 32 (d % 8 :: rest).reverse := by
  have below : ofDigits 32 rest.reverse < 32 ^ rest.reverse.length :=
    Nat.ofDigits_lt_base_pow_length (by decide) fun e member =>
      small e (List.mem_reverse.1 member)
  simp only [List.reverse_cons, Nat.ofDigits_append, Nat.ofDigits_singleton, List.length_reverse,
    length, ofNat] at below ⊢
  omega

theorem text_ofDigits {d : Nat} {rest : List Nat} (length : rest.length = 25)
    (small : Small rest) :
    (ofNat (ofDigits 32 (d :: rest).reverse)).text.toList =
      digitChar (d % 8) :: rest.map digitChar := by
  have kept : Small (d % 8 :: rest) :=
    List.forall_mem_cons.2 ⟨by omega, small⟩
  have spelled := lastDigits_ofDigits kept
  rw [List.length_cons, length] at spelled
  rw [text, String.toList_ofList, value_ofNat_ofDigits length small]
  exact spelled

theorem eq_of_value_eq {a b : RequestId} (same : a.value = b.value) : a = b := by
  cases a
  cases b
  cases same
  rfl

/-- Every id is denoted by 26 digits of which the first is worth less than 8. -/
theorem exists_digits (id : RequestId) : ∃ d rest, d < 8 ∧ rest.length = 25 ∧ Small rest ∧
    ofNat (ofDigits 32 (d :: rest).reverse) = id := by
  have bound := id.bound
  have room : id.value < 32 ^ 26 := by omega
  have value : ofDigits 32 (Nat.digitsAppend 32 26 id.value) = id.value :=
    (Nat.setInvOn_digitsAppend_ofDigits (by decide) 26).2 room
  have length : (Nat.digitsAppend 32 26 id.value).length = 26 :=
    Nat.length_digitsAppend (by decide) 26 room
  have small : Small (Nat.digitsAppend 32 26 id.value) :=
    Nat.lt_of_mem_digitsAppend (by decide) 26
  generalize Nat.digitsAppend 32 26 id.value = ds at value length small
  -- these digits begin with the lowest one, so the first one of the text stands last
  cases ds using List.reverseRecOn with
  | nil => cases length
  | append_singleton front d =>
    have width : front.length = 25 := by simpa using length
    have leading : d < 8 := by
      rw [Nat.ofDigits_append, Nat.ofDigits_singleton, width] at value
      omega
    refine ⟨d, front.reverse, leading, ?_, ?_, eq_of_value_eq ?_⟩
    · rw [List.length_reverse, width]
    · exact fun e member => small e (List.mem_append_left _ (List.mem_reverse.1 member))
    · rw [List.reverse_cons, List.reverse_reverse, value]
      exact Nat.mod_eq_of_lt bound

theorem parse_eq_ok_iff_digits {s : String} {id : RequestId} : parse s = .ok id ↔
    ∃ ds, ds.length = width ∧ Small ds ∧ s.toList.map Char.toUpper = ds.map digitChar ∧
      ofNat (ofDigits 32 ds.reverse) = id := by
  unfold parse
  constructor
  · intro read
    split at read
    · cases read
    · rename_i wide
      split at read
      · rename_i ds found
        obtain ⟨small, same⟩ := mapM_digitValue?_eq_some_iff.1 found
        rw [length_of_digits small same, not_not] at wide
        rw [foldl_eq_ofDigits, Except.ok.injEq] at read
        exact ⟨ds, wide, small, same, read⟩
      · cases read
  · rintro ⟨ds, wide, small, same, rfl⟩
    have found := mapM_digitValue?_eq_some_iff.2 ⟨small, same⟩
    rw [length_of_digits small same, if_neg (not_not.2 wide), found, ← foldl_eq_ofDigits]

/-- The texts of an id: up to letter case its own one, and those with more in the two bits that the
first digit has too many. -/
theorem parse_eq_ok_iff {s : String} {id : RequestId} : parse s = .ok id ↔
    ∃ d excess rest, d < 8 ∧ excess < 4 ∧ id.text.toList = digitChar d :: rest ∧
      (upperCase s).toList = digitChar (d + 8 * excess) :: rest := by
  rw [parse_eq_ok_iff_digits, toList_upperCase]
  constructor
  · rintro ⟨ds, wide, small, same, rfl⟩
    cases ds with
    | nil => cases wide
    | cons d rest =>
      have length : rest.length = 25 := Nat.succ.inj wide
      obtain ⟨smallFirst, smallRest⟩ := List.forall_mem_cons.1 small
      refine ⟨d % 8, d / 8, rest.map digitChar, by omega, by omega,
        text_ofDigits length smallRest, ?_⟩
      rw [same, Nat.mod_add_div]
      rfl
  · rintro ⟨d, excess, rest, small, few, own, same⟩
    obtain ⟨e, digits, leading, length, smallRest, rfl⟩ := exists_digits id
    rw [text_ofDigits length smallRest, Nat.mod_eq_of_lt leading] at own
    obtain ⟨first, rfl⟩ := List.cons.inj own
    obtain rfl := digitChar_injective (by omega) (by omega) first
    have smallFirst : e + 8 * excess < 32 := by omega
    refine ⟨(e + 8 * excess) :: digits, congrArg Nat.succ length,
      List.forall_mem_cons.2 ⟨smallFirst, smallRest⟩, same, eq_of_value_eq ?_⟩
    rw [value_ofNat_ofDigits length smallRest, value_ofNat_ofDigits length smallRest,
      Nat.add_mul_mod_self_left]

section Text

variable (id : RequestId)

theorem length_text : id.text.toList.length = 26 := by
  obtain ⟨d, rest, -, length, small, rfl⟩ := exists_digits id
  rw [text_ofDigits length small, List.length_cons, List.length_map, length]

theorem upperCase_text : upperCase id.text = id.text := by
  have known : ∀ d < 32, (digitChar d).toUpper = digitChar d := by decide
  obtain ⟨d, rest, leading, length, small, rfl⟩ := exists_digits id
  rw [← String.toList_inj, toList_upperCase, text_ofDigits length small,
    List.map_cons, List.map_map]
  refine congrArg₂ List.cons (known _ (by omega)) (List.map_congr_left fun e member => ?_)
  exact known e (small e member)

/-- An id is read from its text. -/
theorem parse_text : parse id.text = .ok id := by
  obtain ⟨d, rest, leading, length, small, denoted⟩ := exists_digits id
  have own := text_ofDigits (d := d) length small
  rw [denoted, Nat.mod_eq_of_lt leading] at own
  exact parse_eq_ok_iff.2 ⟨d, 0, _, leading, by decide, own, by rw [upperCase_text]; exact own⟩

end Text

theorem ofJson_string_eq_ok_iff {s : String} {id : RequestId} :
    ofJson (.string s) = .ok id ↔ parse s = .ok id :=
  except_mapError_eq_ok_iff

/-- The two bits that the first digit has too many are not set: the digit is 7 at most. -/
def Fits (s : String) : Prop :=
  ∃ c ∈ s.toList.head?, c ≤ '7'

/-- The text of an id that was read is what it was read from, in capitals, exactly if no bit was
dropped. -/
theorem text_eq_upperCase_iff {s : String} {id : RequestId} (read : parse s = .ok id) :
    id.text = upperCase s ↔ Fits s := by
  obtain ⟨d, excess, rest, small, few, own, same⟩ := parse_eq_ok_iff.1 read
  have kept : id.text = upperCase s ↔ excess = 0 := by
    rw [← String.toList_inj, own, same]
    constructor
    · intro equal
      have first := digitChar_injective (by omega) (by omega) (List.cons.inj equal).1
      omega
    · rintro rfl
      rfl
  rw [kept]
  unfold Fits
  cases chars : s.toList with
  | nil => simp [chars] at same
  | cons c cs =>
    rw [toList_upperCase, chars, List.map_cons] at same
    have first := (List.cons.inj same).1
    have bound := le_seven_iff (by omega) first
    simp only [List.head?_cons, Option.mem_some_iff, exists_eq_left', bound]
    omega

/-- Texts without dropped bits are read as the same id only if they are the same up to letter
case. -/
theorem upperCase_eq_of_parse {s s' : String} {id : RequestId} (read : parse s = .ok id)
    (read' : parse s' = .ok id) (fits : Fits s) (fits' : Fits s') : upperCase s = upperCase s' :=
  ((text_eq_upperCase_iff read).2 fits).symm.trans ((text_eq_upperCase_iff read').2 fits')

end RequestRouter.RequestId
