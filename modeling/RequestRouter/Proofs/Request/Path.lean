import RequestRouter.Proofs.Text.Parts
import RequestRouter.Proofs.Text.Utf8
import RequestRouter.Request.Basic

/-!
# The path of a request

A target is its path and what follows from the first question mark on. On the way down a tree the
path is cut in two, the consumed part and the part that is left; taking the next bytes moves the cut
and loses nothing.
-/

namespace RequestRouter

theorem Utf8.splitAt_of_length_le {n : Nat} {cs : List Char} (enough : length cs ≤ n) :
    splitAt n cs = (cs, []) := by
  induction cs generalizing n with
  | nil => rfl
  | cons c cs ih =>
    rw [length_cons] at enough
    rw [splitAt, if_pos (by omega), ih (by omega)]

namespace Request

theorem path_prefix (request : Request) : request.path.toList <+: request.target.toList := by
  rw [path, String.toList_ofList, cutFirst_fst]
  exact List.takeWhile_prefix _

theorem not_mem_path (request : Request) : '?' ∉ request.path.toList := by
  intro member
  rw [path, String.toList_ofList, cutFirst_fst] at member
  simpa using List.mem_takeWhile_imp member

theorem path_absolute {request : Request} (absolute : ['/'] <+: request.target.toList) :
    ['/'] <+: request.path.toList := by
  rw [path, String.toList_ofList, cutFirst_fst]
  obtain ⟨rest, target⟩ := absolute
  rw [← target, List.singleton_append, List.takeWhile_cons_of_pos (by decide)]
  exact List.prefix_append ['/'] _

/-- The target is the path and, behind it, nothing or a question mark and more. -/
theorem target_eq_path_append (request : Request) :
    ∃ rest, request.target = request.path ++ rest ∧ (rest = "" ∨ ∃ more, rest = "?" ++ more) ∧
      request.query = Query.parse rest := by
  refine ⟨String.ofList (request.target.toList.dropWhile (· ≠ '?')), ?_, ?_, rfl⟩
  · rw [path, cutFirst_fst, ← String.ofList_append, List.takeWhile_append_dropWhile,
      String.ofList_toList]
  · cases behind : request.target.toList.dropWhile (· ≠ '?') with
    | nil => exact Or.inl rfl
    | cons c more =>
      have mark : c = '?' := by
        have first : c ∈ (request.target.toList.dropWhile (· ≠ '?')).head? := by
          rw [behind]
          rfl
        simpa using kept_of_mem_head?_dropWhile first
      rw [mark, ← List.singleton_append, String.ofList_append]
      exact Or.inr ⟨_, rfl⟩

end Request

namespace RequestState

theorem path_consume (s : RequestState) (n : Nat) :
    (s.consume n).consumed ++ (s.consume n).remaining = s.consumed ++ s.remaining := by
  simp only [consume, String.append_assoc, ← String.ofList_append, Utf8.splitAt_append,
    String.ofList_toList]

theorem consume_of_split {s : RequestState} {taken left : List Char}
    (split : s.remaining.toList = taken ++ left) :
    s.consume (Utf8.length taken) =
      { s with
        consumed := s.consumed ++ String.ofList taken
        remaining := String.ofList left } := by
  rw [consume, split, Utf8.splitAt_length_append]

/-- More bytes than are left take all of the path. -/
theorem consume_of_size_le {s : RequestState} {n : Nat} (enough : s.remaining.utf8ByteSize ≤ n) :
    s.consume n = { s with consumed := s.consumed ++ s.remaining, remaining := "" } := by
  have all : Utf8.splitAt n s.remaining.toList = (s.remaining.toList, []) :=
    Utf8.splitAt_of_length_le (by rwa [Utf8.length_toList])
  simp only [consume, all, String.ofList_toList, String.ofList_nil]

end RequestState

/-- A number of bytes after which the path has a boundary of its characters, or ends. -/
def AtBoundary (path : String) (bytes : Nat) : Prop :=
  path.utf8ByteSize ≤ bytes ∨ String.Pos.Raw.IsValid path ⟨bytes⟩

namespace RequestState

variable {s : RequestState} {n : Nat}

/-- A boundary behind the consumed part cuts the part that is left. -/
theorem exists_cut (whole : s.consumed ++ s.remaining = s.path)
    (boundary : String.Pos.Raw.IsValid s.path ⟨s.consumed.utf8ByteSize + n⟩) :
    ∃ taken left, s.remaining.toList = taken ++ left ∧ Utf8.length taken = n := by
  obtain ⟨a, b, split, place⟩ := String.Pos.Raw.isValid_iff_exists_append.1 boundary
  have size : s.consumed.utf8ByteSize + n = a.utf8ByteSize := congrArg String.Pos.Raw.byteIdx place
  rw [← Utf8.length_toList, ← Utf8.length_toList] at size
  have both : s.consumed.toList ++ s.remaining.toList = a.toList ++ b.toList := by
    rw [← String.toList_append, ← String.toList_append, whole, split]
  rcases List.append_eq_append_iff.1 both with ⟨taken, before, rest⟩ | ⟨more, before, -⟩
  · refine ⟨taken, b.toList, rest, ?_⟩
    rw [before, Utf8.length_append] at size
    omega
  · -- the boundary is no earlier than the cut, so it is the cut
    rw [before, Utf8.length_append] at size
    exact ⟨[], s.remaining.toList, rfl, by rw [Utf8.length_nil]; omega⟩

/-- What a consumption does, and all that it does. -/
structure Consumes (n : Nat) (s s' : RequestState) : Prop where
  longer : s.consumed.toList <+: s'.consumed.toList
  size_eq : s'.consumed.utf8ByteSize =
    s.consumed.utf8ByteSize + min n s.remaining.utf8ByteSize
  frame : s' = { s with consumed := s'.consumed, remaining := s'.remaining }

theorem consumes_of_atBoundary (whole : s.consumed ++ s.remaining = s.path)
    (boundary : AtBoundary s.path (s.consumed.utf8ByteSize + n)) :
    s.Consumes n (s.consume n) := by
  have sizes : s.path.utf8ByteSize = s.consumed.utf8ByteSize + s.remaining.utf8ByteSize := by
    rw [← whole, String.utf8ByteSize_append]
  refine ⟨?_, ?_, rfl⟩
  · rw [consume, String.toList_append]
    exact List.prefix_append _ _
  · by_cases enough : s.remaining.utf8ByteSize ≤ n
    · rw [consume_of_size_le enough, String.utf8ByteSize_append, Nat.min_eq_right enough]
    · have within := boundary.resolve_left (by omega)
      obtain ⟨taken, left, split, size⟩ := exists_cut whole within
      rw [← size, consume_of_split split, size, String.utf8ByteSize_append, ← Utf8.length_ofList,
        size, Nat.min_eq_left (by omega)]

end RequestState

end RequestRouter
