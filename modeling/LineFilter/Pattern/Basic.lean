import LineFilter.Pattern.Matcher
import LineFilter.Pattern.Reader

/-!
# Regular expressions

A pattern is known by its source: two patterns with the same source are the
same, and nothing is asked about the texts that they match.
-/

namespace LineFilter

structure Pattern where
  source : Text
  node : Pattern.Node
  reads : Pattern.Reader.read? source = some node

namespace Pattern

/-- The pattern that a text spells. -/
def ofSource? (source : Text) : Option Pattern :=
  match h : Reader.read? source with
  | some node => some ⟨source, node, h⟩
  | none => none

theorem source_of_ofSource? {source : Text} {p : Pattern} (h : ofSource? source = some p) :
    p.source = source := by
  unfold ofSource? at h
  split at h
  · cases h; rfl
  · cases h

theorem ofSource?_source (p : Pattern) : ofSource? p.source = some p := by
  unfold ofSource?
  split
  · rename_i node h
    have : node = p.node := Option.some.inj (h.symm.trans p.reads)
    subst this
    rfl
  · rename_i h
    cases h.symm.trans p.reads

theorem ext_source {p q : Pattern} (h : p.source = q.source) : p = q :=
  Option.some.inj ((ofSource?_source p).symm.trans (h ▸ ofSource?_source q))

instance : DecidableEq Pattern := fun p q =>
  if h : p.source = q.source then isTrue (ext_source h)
  else isFalse fun e => h (e ▸ rfl)

/-- Whether the pattern matches somewhere in a text. -/
def isMatch (p : Pattern) (text : Text) : Bool := p.node.occursIn text

end Pattern

end LineFilter
