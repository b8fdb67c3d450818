import RequestRouter.Pattern.Basic

/-!
# Scopes

What the nodes above a place in the tree provide: the patterns' parameters, the parsed body and
the mixins.
-/

namespace RequestRouter

/-- What is provided at a place in a route tree. -/
structure Scope where
  /-- The sources of the patterns above, one after another. -/
  path : String := ""
  params : Schema := .empty
  body : Option Schema := none
  mixins : Table Schema := .empty

namespace Scope

def root : Scope := {}

def nest (s : Scope) (p : Pattern) : Scope :=
  { s with path := s.path ++ p.source, params := s.params.union p.schema }

def withBody (s : Scope) (schema : Schema) : Scope :=
  { s with body := some schema }

def withMixin (s : Scope) (name : String) (schema : Schema) : Scope :=
  { s with mixins := s.mixins.insert name schema }

end Scope

end RequestRouter
