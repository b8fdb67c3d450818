import Mathlib.Data.List.Induction
import RequestRouter.Proofs.Exchange.Copies
import RequestRouter.Proofs.Table.Distinct

/-!
# Headers of a draft

The headers of a draft are a map from names, whose letter case does not count, to values: the value
of a name is the one that was last set, and its place is where it was first set. The content type is
there from the start, so it is always the first. Main statement: this holds after any calls, and
what is sent has the same headers but for the content type.
-/

namespace RequestRouter

namespace Http

/-- The names agree but for the case of ASCII letters. -/
def SameName (a b : String) : Prop :=
  lowerCase a = lowerCase b

instance (a b : String) : Decidable (SameName a b) :=
  inferInstanceAs (Decidable (lowerCase a = lowerCase b))

theorem lowerCase_lowerCase (s : String) : lowerCase (lowerCase s) = lowerCase s := by
  have settled : ∀ c : Char, c.toLower.toLower = c.toLower := by
    intro c
    by_cases upper : 'A'.val ≤ c.val ∧ c.val ≤ 'Z'.val
    · have lower : c.toLower = _ := dif_pos upper
      have past : ¬ c.toLower.val ≤ 'Z'.val := by grind
      exact dif_neg fun capital => past capital.2
    · have unchanged : c.toLower = c := dif_neg upper
      rw [unchanged, unchanged]
  rw [lowerCase, lowerCase, String.toList_ofList, List.map_map]
  exact congrArg String.ofList (List.map_congr_left fun c _ => settled c)

end Http

theorem eraseDups_concat (names : List String) (name : String) :
    (names ++ [name]).eraseDups =
      if name ∈ names then names.eraseDups else names.eraseDups ++ [name] := by
  rw [List.eraseDups_append]
  split
  · rename_i listed
    have dropped : [name].removeAll names = [] := by simp [List.removeAll, listed]
    rw [dropped]
    exact List.append_nil _
  · rename_i fresh
    have kept : [name].removeAll names = [name] := by simp [List.removeAll, fresh]
    rw [kept]
    rfl

theorem nodup_eraseDups (names : List String) : names.eraseDups.Nodup := by
  induction names using List.reverseRecOn with
  | nil => exact List.nodup_nil
  | append_singleton names name ih =>
    rw [eraseDups_concat]
    split
    · exact ih
    · rename_i fresh
      refine List.nodup_append.2 ⟨ih, List.pairwise_singleton _ name, fun a earlier b last => ?_⟩
      rintro rfl
      exact fresh (List.mem_singleton.1 last ▸ List.mem_eraseDups.1 earlier)

namespace Draft

def names (d : Draft) : List String :=
  d.headers.map Prod.fst

def withHeaders (d : Draft) (calls : List (String × String)) : Draft :=
  calls.foldl (fun d call => d.withHeader call.1 call.2) d

/-- The names in lower case, each where it was first set, after the content type. -/
def firstSet (calls : List (String × String)) : List String :=
  (contentType :: calls.map fun call => Http.lowerCase call.1).eraseDups

/-- The value of the last call whose name is the same. -/
def lastSet? (calls : List (String × String)) (name : String) : Option String :=
  (calls.reverse.find? fun call => Http.SameName call.1 name).map Prod.snd

/-- The first header whose name is the same, with its value replaced; if there is none, a new one
in lower case at the end. -/
def replaceOrPush (name value : String) : List (String × String) → List (String × String)
  | [] => [(Http.lowerCase name, value)]
  | (n, v) :: rest =>
    if Http.SameName n name then (n, value) :: rest
    else (n, v) :: replaceOrPush name value rest

theorem names_setHeader (name value : String) (headers : List (String × String)) :
    (setHeader name value headers).map Prod.fst =
      if name ∈ headers.map Prod.fst then headers.map Prod.fst
      else headers.map Prod.fst ++ [name] := by
  induction headers with
  | nil => rfl
  | cons header rest ih =>
    obtain ⟨n, v⟩ := header
    rw [setHeader]
    by_cases here : n = name
    · simp [here]
    · rw [if_neg here, List.map_cons, ih, List.map_cons]
      by_cases later : name ∈ rest.map Prod.fst
      · rw [if_pos later, if_pos (List.mem_cons_of_mem n later)]
      · rw [if_neg later, if_neg (List.not_mem_cons_of_ne_of_not_mem (Ne.symm here) later),
          List.cons_append]

section Calls

variable (calls : List (String × String)) (call : String × String)

theorem withHeaders_concat (d : Draft) :
    d.withHeaders (calls ++ [call]) = (d.withHeaders calls).withHeader call.1 call.2 := by
  rw [withHeaders, List.foldl_append]
  rfl

theorem firstSet_concat : firstSet (calls ++ [call]) =
    if Http.lowerCase call.1 ∈ firstSet calls then firstSet calls
    else firstSet calls ++ [Http.lowerCase call.1] := by
  rw [firstSet, List.map_append, List.map_singleton, ← List.cons_append, eraseDups_concat]
  simp only [firstSet, List.mem_eraseDups]

theorem lastSet?_concat (name : String) : lastSet? (calls ++ [call]) name =
    if Http.SameName call.1 name then some call.2 else lastSet? calls name := by
  rw [lastSet?, List.reverse_append, List.reverse_singleton, List.singleton_append,
    List.find?_cons]
  by_cases same : Http.SameName call.1 name <;> simp [same, lastSet?]

theorem names_withHeaders : (fresh.withHeaders calls).names = firstSet calls := by
  induction calls using List.reverseRecOn with
  | nil => rfl
  | append_singleton calls call ih =>
    rw [withHeaders_concat, firstSet_concat, ← ih]
    exact names_setHeader _ _ _

/-- A name is found in any letter case, with its last value. -/
theorem header?_withHeaders (name : String) : (fresh.withHeaders calls).header? name =
    (lastSet? calls name).or
      (if Http.SameName name contentType then some "text/html" else none) := by
  induction calls using List.reverseRecOn with
  | nil =>
    show [(contentType, "text/html")].lookup (Http.lowerCase name) = _
    rw [Entry.lookup_singleton]
    simp only [Http.SameName, lowerCase_contentType, eq_comm (a := contentType)]
    rfl
  | append_singleton calls call ih =>
    rw [withHeaders_concat, lastSet?_concat, header?, withHeader, lookup_setHeader]
    by_cases same : Http.SameName call.1 name
    · rw [if_pos same, if_pos same.symm]
      rfl
    · rw [if_neg same, if_neg fun back => same back.symm]
      exact ih

end Calls

theorem lowerCase_of_mem_firstSet {calls : List (String × String)} {name : String}
    (listed : name ∈ firstSet calls) : Http.lowerCase name = name := by
  rw [firstSet, List.mem_eraseDups] at listed
  rcases List.mem_cons.1 listed with rfl | set
  · exact lowerCase_contentType
  · obtain ⟨call, -, rfl⟩ := List.mem_map.1 set
    exact Http.lowerCase_lowerCase call.1

/-- A stored name is the lower case of a name if the two are the same. -/
theorem eq_lowerCase_iff {n : String} (name : String) (stored : Http.lowerCase n = n) :
    n = Http.lowerCase name ↔ Http.SameName n name := by
  rw [Http.SameName, stored]

section Stored

variable {headers : List (String × String)}
  (lower : ∀ n ∈ headers.map Prod.fst, Http.lowerCase n = n) (name : String)
include lower

theorem setHeader_lowerCase (value : String) :
    setHeader (Http.lowerCase name) value headers = replaceOrPush name value headers := by
  induction headers with
  | nil => rfl
  | cons header rest ih =>
    obtain ⟨n, v⟩ := header
    obtain ⟨stored, others⟩ := List.forall_mem_cons.1 lower
    rw [setHeader, replaceOrPush, ih others]
    exact if_congr (eq_lowerCase_iff name stored) rfl rfl

theorem lookup_lowerCase : headers.lookup (Http.lowerCase name) =
    (headers.find? fun header => Http.SameName header.1 name).map Prod.snd := by
  induction headers with
  | nil => rfl
  | cons header rest ih =>
    obtain ⟨n, v⟩ := header
    obtain ⟨stored, others⟩ := List.forall_mem_cons.1 lower
    rw [List.lookup_cons, List.find?_cons, ih others]
    by_cases same : Http.SameName n name
    · have here : (Http.lowerCase name == n) = true :=
        beq_iff_eq.2 ((eq_lowerCase_iff name stored).2 same).symm
      simp [same, here]
    · have apart : (Http.lowerCase name == n) = false :=
        beq_eq_false_iff_ne.2 fun back => same ((eq_lowerCase_iff name stored).1 back.symm)
      simp [same, apart]

end Stored

/-- What is sent of a draft has its headers, with the content type replaced in place. -/
theorem headers_of_offer {d : Draft} {own : String} {rest : List (String × String)}
    (first : d.headers = (contentType, own) :: rest) {action : CopyAction} {r : Response}
    (sent : action.offer? d = some (.ok r)) :
    r.headers = (contentType, action.contentType?.getD own) :: rest := by
  have replaced (value : String) :
      (d.withHeader contentType value).headers = (contentType, value) :: rest := by
    rw [withHeader, first, lowerCase_contentType, setHeader, if_pos rfl]
  cases action with
  | setStatus _ | setHeader _ _ => cases sent
  | send body =>
    cases sent
    exact first
  | sendText body =>
    cases sent
    exact replaced _
  | sendJson value =>
    cases value with
    | error _ => cases sent
    | ok value =>
      cases sent
      exact replaced _
  | sendRecord fields =>
    cases sent
    exact replaced _

end Draft

end RequestRouter
