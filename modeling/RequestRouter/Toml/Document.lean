import RequestRouter.Toml.Quoted
import RequestRouter.Toml.Tree

/-!
# TOML documents

A document is a run of lines: values under keys, headers of tables, comments. Reading it gives
its root table, or nothing if a line is wrong or adds to what it must not.
-/

namespace RequestRouter.Toml

/-- What is left after a comment, which ends before the end of its line. -/
def skipComment (cs : List Char) : Option (List Char) :=
  match cs with
  | '#' :: rest =>
    let left := rest.dropWhile isPlain
    match left with
    | [] => some []
    | _ => if (cutNewline left).isSome then some left else none
  | _ => some cs

/-- Skips blanks, comments and line ends; `fuel` bounds the lines. -/
def skipSpaceLines : (fuel : Nat) → List Char → Option (List Char)
  | 0, cs => some cs
  | fuel + 1, cs =>
    match skipComment (skipBlank cs) with
    | none => none
    | some rest =>
      match cutNewline rest with
      | some tail => skipSpaceLines fuel tail
      | none => some rest

def skipSpace (cs : List Char) : Option (List Char) :=
  skipSpaceLines (cs.length + 1) cs

def isWordChar (c : Char) : Bool :=
  c.isAlphanum || c == '_' || c == '-' || c == '+' || c == '.' || c == ':'

/-- A word; a date takes the time of day after a space with it. -/
def word (cs : List Char) : List Char × List Char :=
  let first := cs.takeWhile isWordChar
  let rest := cs.drop first.length
  match rest with
  | ' ' :: c :: tail =>
    if c.isDigit && date first == some [] then
      let second := (c :: tail).takeWhile isWordChar
      (first ++ ' ' :: second, (c :: tail).drop second.length)
    else (first, rest)
  | _ => (first, rest)

/-- The items of an array after its opening bracket, a comma after each but perhaps the last. -/
def arrayItems (item : Reader Toml) : (fuel : Nat) → Reader (List Toml)
  | 0, _ => none
  | fuel + 1, cs => do
    let cs ← skipSpace cs
    match cs with
    | ']' :: rest => some ([], rest)
    | _ =>
      let (v, rest) ← item cs
      let rest ← skipSpace rest
      match rest with
      | ',' :: tail => (arrayItems item fuel tail).map fun (vs, left) => (v :: vs, left)
      | ']' :: tail => some ([v], tail)
      | _ => none

/-- A key and its value around `=`. `skip` takes what may stand beside the `=`. -/
def member (skip : List Char → Option (List Char)) (item : Reader Toml) :
    Reader (List String × Toml) := fun cs => do
  let (path, rest) ← key cs
  match ← skip rest with
  | '=' :: tail =>
    let (v, left) ← item (← skip tail)
    some ((path, v), left)
  | _ => none

def inlineMembers (item : Reader Toml) : (fuel : Nat) → Members → Reader Members
  | 0, _, _ => none
  | fuel + 1, done, cs => do
    let cs ← skipSpace cs
    match cs with
    | '\x7d' :: rest => some (done, rest)
    | _ =>
      let ((path, v), rest) ← member skipSpace item cs
      let done ← addValue v path done
      let rest ← skipSpace rest
      match rest with
      | ',' :: tail => inlineMembers item fuel done tail
      | '\x7d' :: tail => some (done, tail)
      | _ => none

/-- A value. Arrays and inline tables nest up to `depth` deep. -/
def value : (depth : Nat) → Reader Toml
  | depth, cs =>
    match cs with
    | [] => none
    | c :: rest =>
      if c == '[' || c == '\x7b' then
        match depth with
        | 0 => none
        | inner + 1 =>
          if c == '[' then
            (arrayItems (value inner) (rest.length + 1) rest).map fun (vs, left) =>
              (.array vs, left)
          else
            (inlineMembers (value inner) (rest.length + 1) [] rest).map fun (ms, left) =>
              (.table (valuesOf ms), left)
      else if c == '"' || c == '\'' then (quoted cs).map fun (s, left) => (.string s, left)
      else
        let (w, left) := word cs
        (ofWord w).map (·, left)

def maxDepth : Nat := 80

/-- The end of a line: blanks, perhaps a comment, and a line end or the end of the text. -/
def lineEnd (cs : List Char) : Option (List Char) := do
  let rest ← skipComment (skipBlank cs)
  match rest with
  | [] => some []
  | _ => cutNewline rest

/-- The table that lines add to, and the root. -/
structure Building where
  path : List String
  root : Members

def headerKey (closing : List Char) (cs : List Char) : Option (List String × List Char) := do
  let (path, rest) ← key cs
  let rest := skipBlank rest
  if closing.isPrefixOf rest then some (path, rest.drop closing.length) else none

def line (b : Building) (cs : List Char) : Option (Building × List Char) :=
  match cs with
  | '[' :: '[' :: rest => do
    let (path, rest) ← headerKey [']', ']'] rest
    let root ← onTable (openNext (path.getLastD "")) path.dropLast b.root
    some (⟨path, root⟩, rest)
  | '[' :: rest => do
    let (path, rest) ← headerKey [']'] rest
    let root ← onTable (openTable (path.getLastD "")) path.dropLast b.root
    some (⟨path, root⟩, rest)
  | _ => do
    let ((path, v), rest) ← member (some ∘ skipBlank) (value maxDepth) cs
    let root ← onTable (addValue v path) b.path b.root
    some (⟨b.path, root⟩, rest)

def lines : (fuel : Nat) → Building → List Char → Option Members
  | 0, _, _ => none
  | fuel + 1, b, cs =>
    match skipSpace cs with
    | none => none
    | some [] => some b.root
    | some cs =>
      match line b cs with
      | none => none
      | some (b, rest) =>
        match lineEnd rest with
        | none => none
        | some rest => lines fuel b rest

/-- The root table of a document. A byte order mark at its start is skipped. -/
def parse (text : String) : Option (List (String × Toml)) :=
  let cs := match text.toList with
    | '\uFEFF' :: rest => rest
    | cs => cs
  (lines (cs.length + 1) ⟨[], []⟩ cs).map valuesOf

end RequestRouter.Toml
