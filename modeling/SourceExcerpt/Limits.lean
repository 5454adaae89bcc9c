import SourceExcerpt.Text.Slice
/-! Widths and markers used when an excerpt is cut for display. -/
namespace SourceExcerpt

/-- In a text whose flagged range is wider than `maxWidth`, `separator` is put between what
reaches up to `context` code points behind the start of the range and what begins `context` before
its end. A text wider than `maxWidth` is cut off `context` before and behind the range, with
`separator` in front and `trailingMarker` behind for what is cut off. What comes out may be as wide
as the text was, or wider. -/
structure Limits where
  maxWidth : Int := 150
  context : Int := 35
  separator : Text := " ... ".toList
  trailingMarker : Text := " ...".toList
  deriving DecidableEq, Repr

namespace Limits

def standard : Limits := {}

def isStandard (limits : Limits) : Bool := limits = standard

def collapsedWidth (limits : Limits) : Int := 2 * limits.context + limits.separator.length

def markerColumn (limits : Limits) : Int := limits.context + limits.separator.length

end Limits
end SourceExcerpt
