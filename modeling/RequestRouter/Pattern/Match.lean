import RequestRouter.Pattern.Token

/-!
# Matching

What it means for tokens to match the start of a text: greedy with backtracking, so each capture
is as long as the tokens after it allow, earlier captures first.
-/

namespace RequestRouter.Pattern

/-- A run that starts with `c`: longer by what was found `further` on, else of `c` alone if the
tokens after the run match `here`. -/
@[inline] def extendRun {β : Type} (p : Char → Bool) (c : Char) (here : Option β)
    (further : Option (List Char × β)) : Option (List Char × β) :=
  if p c then
    match further with
    | some (run, b) => some (c :: run, b)
    | none => here.map ([c], ·)
  else none

/-- The longest non-empty run of `p`-characters after which `next` succeeds, with what `next`
gives. -/
def longestRun {β : Type} (p : Char → Bool) (next : List Char → Option β) :
    List Char → Option (List Char × β)
  | [] => none
  | c :: cs => extendRun p c (next cs) (longestRun p next cs)

/-- Captured text by parameter, in the order of the source. -/
abbrev Captures := List (String × List Char)

/-- What tokens found: their captures, and the text they leave. -/
abbrev Found := Captures × List Char

/-- The run of a capture put in front of what the tokens after it found. -/
def bindRun (name : String) : List Char × Found → Found
  | (run, captures, left) => ((name, run) :: captures, left)

/-- A capture that belongs to the class `p`, and the tokens after it. -/
def capture (name : String) (p : Char → Bool) (next : List Char → Option Found)
    (cs : List Char) : Option Found :=
  (longestRun p next cs).map (bindRun name)

/-- The class of a `:name` capture. -/
def isSegmentChar (c : Char) : Bool := c != '/'

/-- The class of a `*name` capture. -/
def isRestChar (c : Char) : Bool := c != '\n'

def matchTokens : List Token → List Char → Option Found
  | [], cs => some ([], cs)
  | .literal _ :: _, [] => none
  | .literal l :: ts, c :: cs => if c = l then matchTokens ts cs else none
  | .segment name :: ts, cs => capture name isSegmentChar (matchTokens ts) cs
  | .rest name :: ts, cs => capture name isRestChar (matchTokens ts) cs

end RequestRouter.Pattern
