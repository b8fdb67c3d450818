import RequestRouter.Text.Utf8

/-!
# Byte lengths

The byte length of characters is that of their text, and a cut at the byte length of a first part
gives back the two parts.
-/

namespace RequestRouter.Utf8

theorem length_ofList (cs : List Char) : length cs = (String.ofList cs).utf8ByteSize := by
  induction cs with
  | nil => rfl
  | cons c cs ih =>
    have joined : String.ofList (c :: cs) = String.singleton c ++ String.ofList cs := by
      rw [String.singleton_eq_ofList, ← String.ofList_append, List.singleton_append]
    rw [joined, String.utf8ByteSize_append, String.utf8ByteSize_singleton, length_cons, ih]

theorem length_toList (s : String) : length s.toList = s.utf8ByteSize := by
  rw [length_ofList, String.ofList_toList]

/-- A cut after the bytes of the first part. -/
theorem splitAt_length_append (a b : List Char) : splitAt (length a) (a ++ b) = (a, b) := by
  induction a with
  | nil =>
    cases b with
    | nil => rfl
    | cons c b =>
      have big : ¬ c.utf8Size ≤ 0 := Nat.not_le.2 c.utf8Size_pos
      simp [splitAt, big]
  | cons c a ih =>
    have fits : c.utf8Size ≤ c.utf8Size + length a := Nat.le_add_right _ _
    simp [splitAt, fits, ih]

/-- Between two parts of a text lies a boundary of its characters. -/
theorem isValid_length {s : String} {a b : List Char} (split : a ++ b = s.toList) :
    String.Pos.Raw.IsValid s ⟨length a⟩ := by
  have whole : s = String.ofList a ++ String.ofList b := by
    rw [← String.ofList_append, split, String.ofList_toList]
  exact String.Pos.Raw.isValid_iff_exists_append.2
    ⟨_, _, whole, String.Pos.Raw.ext (length_ofList a)⟩

end RequestRouter.Utf8
