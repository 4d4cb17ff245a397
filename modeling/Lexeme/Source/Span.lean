/-!
# Spans

A span is a stretch of a source text in bytes, together with the line and column at which it
starts. Nothing ties the two together: a span may also come from outside and be nonsense.
-/

namespace Lexeme

/-- The bytes from `start` up to `stop`, starting at `line` and `column` (both from 1). -/
structure Span where
  start : Nat
  stop : Nat
  line : Nat
  column : Nat
deriving DecidableEq, Repr, Inhabited

namespace Span

/-- The span of what has no place in any text. -/
def unplaced : Span := ⟨0, 0, 0, 0⟩

/-- The empty span at one place. -/
def point (offset line column : Nat) : Span := ⟨offset, offset, line, column⟩

def isEmpty (s : Span) : Bool := s.start == s.stop

/-- The number of bytes; a span that ends before it starts has none. -/
def length? (s : Span) : Option Nat :=
  if s.start ≤ s.stop then some (s.stop - s.start) else none

end Span

end Lexeme
