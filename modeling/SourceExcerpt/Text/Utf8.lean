import SourceExcerpt.Text.Decimal
import SourceExcerpt.Text.Quoted
/-! UTF-8 read byte by byte. The bytes fall into pieces, each one code point or one bad part:
the longest start of a sequence that could still have become a code point, or a single byte
that starts none. Strict reading stops at the first bad part; lenient reading puts one
replacement character for each. -/
namespace SourceExcerpt.Text.Utf8

abbrev Bytes := List UInt8

def size : Text → Nat
  | [] => 0
  | c :: rest => c.utf8Size + size rest

inductive Flaw where
  | invalidStart
  | cutShort
  | invalidContinuation
  deriving DecidableEq, Repr

inductive Piece where
  | char (c : Char) (part : Bytes)
  | bad (part : Bytes) (flaw : Flaw)
  deriving DecidableEq, Repr

def Piece.bytes : Piece → Bytes
  | .char _ part => part
  | .bad part _ => part

/-- A sequence under way: its bytes so far, the bits read, how many continuation bytes are
owed, and the range of the next one. -/
structure Pending where
  part : Bytes
  bits : Nat
  owed : Nat
  low : Nat
  high : Nat
  deriving DecidableEq, Repr

/- The sequence that a first byte announces. The range of the second byte keeps out
overlong forms, surrogates and numbers above U+10FFFF. -/
def announced (b : UInt8) : Option Pending :=
  let n := b.toNat
  if n < 0xC2 then none
  else if n < 0xE0 then some ⟨[b], n - 0xC0, 1, 0x80, 0xBF⟩
  else if n = 0xE0 then some ⟨[b], 0, 2, 0xA0, 0xBF⟩
  else if n = 0xED then some ⟨[b], 0xD, 2, 0x80, 0x9F⟩
  else if n < 0xF0 then some ⟨[b], n - 0xE0, 2, 0x80, 0xBF⟩
  else if n = 0xF0 then some ⟨[b], 0, 3, 0x90, 0xBF⟩
  else if n < 0xF4 then some ⟨[b], n - 0xF0, 3, 0x80, 0xBF⟩
  else if n = 0xF4 then some ⟨[b], 4, 3, 0x80, 0x8F⟩
  else none

theorem announcedPart {b : UInt8} {p : Pending} (h : announced b = some p) :
    p.part = [b] := by
  unfold announced at h
  simp only at h
  repeat' split at h
  all_goals first | contradiction | (cases Option.some.inj h; rfl)

abbrev State := Option Pending

def held : State → Bytes
  | none => []
  | some p => p.part

def opening (b : UInt8) : List Piece × State :=
  if b.toNat < 0x80 then ([.char (Char.ofNat b.toNat) [b]], none)
  else match announced b with
    | some p => ([], some p)
    | none => ([.bad [b] .invalidStart], none)

def feed (state : State) (b : UInt8) : List Piece × State :=
  match state with
  | none => opening b
  | some p =>
    if p.low ≤ b.toNat ∧ b.toNat ≤ p.high then
      let bits := p.bits * 64 + b.toNat % 64
      let part := p.part ++ [b]
      if p.owed ≤ 1 then ([.char (Char.ofNat bits) part], none)
      else ([], some ⟨part, bits, p.owed - 1, 0x80, 0xBF⟩)
    else
      let next := opening b
      (.bad p.part .invalidContinuation :: next.1, next.2)

def piecesFrom : State → Bytes → List Piece
  | none, [] => []
  | some p, [] => [.bad p.part .cutShort]
  | state, b :: rest => (feed state b).1 ++ piecesFrom (feed state b).2 rest

def pieces (bytes : Bytes) : List Piece := piecesFrom none bytes

theorem openingKeeps (b : UInt8) :
    (opening b).1.flatMap Piece.bytes ++ held (opening b).2 = [b] := by
  unfold opening
  split
  · rfl
  · split
    · rename_i p h; simpa [held] using announcedPart h
    · rfl

theorem feedKeeps (state : State) (b : UInt8) :
    (feed state b).1.flatMap Piece.bytes ++ held (feed state b).2 = held state ++ [b] := by
  cases state with
  | none => exact openingKeeps b
  | some p =>
    simp only [feed]
    split
    · split <;> simp [Piece.bytes, held]
    · have rest := openingKeeps b
      simp only [List.flatMap_cons, Piece.bytes, List.append_assoc, rest]; rfl

theorem piecesKeep (state : State) (bytes : Bytes) :
    (piecesFrom state bytes).flatMap Piece.bytes = held state ++ bytes := by
  induction bytes generalizing state with
  | nil => cases state <;> simp [piecesFrom, held, Piece.bytes]
  | cons b rest ih =>
    rw [piecesFrom, List.flatMap_append, ih, ← List.append_assoc, feedKeeps]
    simp

structure DecodeFault where
  position : Nat
  part : Bytes
  flaw : Flaw
  deriving DecidableEq, Repr

def Flaw.reason : Flaw → Text
  | .invalidStart => "invalid start byte".toList
  | .cutShort => "unexpected end of data".toList
  | .invalidContinuation => "invalid continuation byte".toList

/- A single bad byte is shown; of more only the place is told, first to last. -/
def DecodeFault.message (fault : DecodeFault) : Text :=
  let first := Decimal.digits fault.position
  let place := match fault.part with
    | [b] => " byte 0x".toList ++ Quoted.hex 2 b.toNat ++ " in position ".toList ++ first
    | part => " bytes in position ".toList ++ first ++ "-".toList ++
        Decimal.digits (fault.position + part.length - 1)
  "'utf-8' codec can't decode".toList ++ place ++ ": ".toList ++ fault.flaw.reason

def collect (position : Nat) : List Piece → Except DecodeFault Text
  | [] => .ok []
  | .char c part :: rest => (collect (position + part.length) rest).map (c :: ·)
  | .bad part flaw :: _ => .error ⟨position, part, flaw⟩

def decode (bytes : Bytes) : Except DecodeFault Text := collect 0 (pieces bytes)

def replacement : Char := '\uFFFD'

def decodeLenient (bytes : Bytes) : Text :=
  (pieces bytes).map fun
    | .char c _ => c
    | .bad _ _ => replacement

end SourceExcerpt.Text.Utf8
