import AccessGate.Pattern.Reader
import AccessGate.Rule.Matcher

/-!
# Path matchers — every path but some

A path matcher leaves out single paths and every path that a pattern describes as a whole. A pattern is
given as text, and is read between a start and an end of the text by some library of patterns.
-/

namespace AccessGate

/-- What is left out. -/
structure PathMatcher where
  paths : List String
  patterns : List Pattern
  deriving Inhabited

namespace PathMatcher

/-- Leaves nothing out. -/
def all : PathMatcher := ⟨[], []⟩

/-- Leave a path out. -/
def exclude (m : PathMatcher) (path : String) : PathMatcher := { m with paths := m.paths ++ [path] }

/-- The text of a pattern that is to describe a whole path. -/
def whole (text : String) : String := "^(?:" ++ text ++ ")$"

/-- Leave out every path that a pattern describes. -/
def excludePattern (lib : Pattern.Library) (m : PathMatcher) (text : String) :
    Except Error PathMatcher :=
  match Pattern.read? lib (whole text) with
  | some p => .ok { m with patterns := m.patterns ++ [p] }
  | none => .error (.config (.pathPattern text))

/-- The matcher that leaves out the given paths and patterns; the first text that is no pattern is
    refused. -/
def ofLists (lib : Pattern.Library) (paths patterns : List String) : Except Error PathMatcher :=
  patterns.foldlM (excludePattern lib) (paths.foldl exclude all)

/-- Is a path left out? -/
def excludes (m : PathMatcher) (path : String) : Bool :=
  m.paths.contains path || m.patterns.any fun p => p.occursIn path

/-- The matcher of requests. -/
def matcher (m : PathMatcher) : Matcher := fun c => .ok (!m.excludes c.request.path)

end PathMatcher

end AccessGate
