import SourceExcerpt.Limits
/-! A text with a flagged range of columns, and the two passes that cut it for display:
collapsing puts a separator into a wide range, windowing cuts off what stands far from the range.
Neither brings the columns into the text; a caller that shows them has to. -/
namespace SourceExcerpt
open Text

structure Marked where
  text : Text
  start : Int
  stop : Int
  deriving DecidableEq, Repr

inductive Part where
  | kept (t : Text)
  | separator
  | trailing
  deriving DecidableEq, Repr

namespace Limits

def spellPart (limits : Limits) : Part → Text
  | .kept t => t
  | .separator => limits.separator
  | .trailing => limits.trailingMarker

def spell (limits : Limits) (parts : List Part) : Text := parts.flatMap limits.spellPart

theorem spellAppend (limits : Limits) (a b : List Part) :
    limits.spell (a ++ b) = limits.spell a ++ limits.spell b := by
  simp [spell]

def collapsed (limits : Limits) (m : Marked) : Option (List Part) :=
  if m.stop - m.start ≤ limits.maxWidth then none
  else some [.kept (m.text.before (m.start + limits.context)), .separator,
    .kept (m.text.onward (m.stop - limits.context))]

def collapse (limits : Limits) (m : Marked) : Marked :=
  match limits.collapsed m with
  | none => m
  | some parts => ⟨limits.spell parts, m.start, m.start + limits.collapsedWidth⟩

theorem collapseNarrow {limits : Limits} {m : Marked} (h : m.stop - m.start ≤ limits.maxWidth) :
    limits.collapse m = m := by
  simp [collapse, collapsed, h]

theorem collapseWide {limits : Limits} {m : Marked} (h : limits.maxWidth < m.stop - m.start) :
    limits.collapse m =
      ⟨m.text.before (m.start + limits.context) ++ limits.separator ++
        m.text.onward (m.stop - limits.context), m.start, m.start + limits.collapsedWidth⟩ := by
  have wide : ¬ m.stop - m.start ≤ limits.maxWidth := by omega
  simp [collapse, collapsed, wide, spell, spellPart]

def cutsHead (limits : Limits) (m : Marked) : Bool := limits.context < m.start

def cutsTail (limits : Limits) (m : Marked) : Bool :=
  m.start + (m.stop - m.start) + limits.context < m.text.length

def visible (limits : Limits) (m : Marked) : Text :=
  m.text.slice (m.start - min m.start limits.context)
    (m.start + min (m.stop - m.start + limits.context) (m.text.length - m.start))

theorem cutsTailAt (limits : Limits) (m : Marked) :
    limits.cutsTail m = decide (m.stop + limits.context < m.text.length) := by
  rw [cutsTail, decide_eq_decide]
  omega

theorem visibleSlice (limits : Limits) (m : Marked) :
    limits.visible m = m.text.slice (max 0 (m.start - limits.context))
      (min m.text.length (m.stop + limits.context)) := by
  rw [visible]
  congr 1 <;> omega

def windowed (limits : Limits) (m : Marked) : Option (List Part) :=
  if m.text.length ≤ limits.maxWidth then none
  else some ((if limits.cutsHead m then [.separator] else []) ++ [.kept (limits.visible m)] ++
    (if limits.cutsTail m then [.trailing] else []))

def window (limits : Limits) (m : Marked) : Marked :=
  match limits.windowed m with
  | none => m
  | some parts =>
    let start := if limits.cutsHead m then limits.markerColumn else m.start
    ⟨limits.spell parts, start, start + (m.stop - m.start)⟩

theorem windowNarrow {limits : Limits} {m : Marked} (h : m.text.length ≤ limits.maxWidth) :
    limits.window m = m := by
  simp [window, windowed, h]

theorem windowWide {limits : Limits} {m : Marked} (h : limits.maxWidth < m.text.length) :
    limits.window m =
      ⟨(if limits.cutsHead m then limits.separator else []) ++ limits.visible m ++
        (if limits.cutsTail m then limits.trailingMarker else []),
       if limits.cutsHead m then limits.markerColumn else m.start,
       (if limits.cutsHead m then limits.markerColumn else m.start) + (m.stop - m.start)⟩ := by
  have wide : ¬ (m.text.length : Int) ≤ limits.maxWidth := by omega
  simp only [window, windowed, if_neg wide, spellAppend]
  cases limits.cutsHead m <;> cases limits.cutsTail m <;> simp [spell, spellPart]

def shorten (limits : Limits) (m : Marked) : Marked := limits.window (limits.collapse m)

def solePart (limits : Limits) (parts : List Part) : Option Part :=
  match parts.filter fun p => !(limits.spellPart p).isEmpty with
  | [p] => some p
  | _ => none

end Limits

/- Equal texts of at most one code point below U+0100 are never told apart. -/
def interchangeable (a b : Text) : Bool :=
  a = b && a.length ≤ 1 && a.all fun c => c.toNat < 0x100

/- Whether putting `parts` together counts as changing `given`. It does not when `given`, or
the one part that `given` itself stands for, is handed on as it is. A text put together from
several parts counts as changed even where it spells the same. -/
def Limits.rebuilds (limits : Limits) (given : Text) (standsFor : Option Part)
    (parts : List Part) : Bool :=
  let sole := limits.solePart parts
  !(sole = some (.kept given) || (sole.isSome && sole = standsFor) ||
    interchangeable given (limits.spell parts))

namespace Limits

def reportsCollapse (limits : Limits) (m : Marked) : Bool :=
  match limits.collapsed m with
  | none => false
  | some parts => limits.rebuilds m.text none parts

def reportsWindow (limits : Limits) (m : Marked) : Bool :=
  let narrowed := limits.collapse m
  match limits.windowed narrowed with
  | none => false
  | some parts => limits.rebuilds narrowed.text ((limits.collapsed m).bind limits.solePart) parts

theorem collapseUnreported {limits : Limits} {m : Marked}
    (h : m.stop - m.start ≤ limits.maxWidth) : limits.reportsCollapse m = false := by
  simp [reportsCollapse, collapsed, h]

end Limits
end SourceExcerpt
