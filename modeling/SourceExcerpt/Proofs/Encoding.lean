import Mathlib.Algebra.Group.Nat.Defs
import SourceExcerpt.Text.Utf8
/-! Reading UTF-8 against writing it. A sequence under way stands for the code points that it can
still become; every byte fed to it keeps that, so what is read is what the bytes are the encoding
of, and where they are none, reading stops behind all that is. -/
namespace SourceExcerpt.Text.Utf8

def encode (text : Text) : Bytes := text.flatMap String.utf8EncodeChar

theorem encodeCons (c : Char) (text : Text) :
    encode (c :: text) = String.utf8EncodeChar c ++ encode text := List.flatMap_cons

/-- The last bytes of a code point, six bits each. -/
def continued : Nat → Nat → Bytes
  | 0, _ => []
  | count + 1, v => UInt8.ofNat (v / 64 ^ count % 64 + 0x80) :: continued count v

theorem encodeScalar {v : Nat} (valid : v.isValidChar) :
    String.utf8EncodeChar (Char.ofNat v) =
      if v ≤ 0x7F then [UInt8.ofNat v]
      else if v ≤ 0x7FF then UInt8.ofNat (v / 64 % 32 + 0xC0) :: continued 1 v
      else if v ≤ 0xFFFF then UInt8.ofNat (v / 4096 % 16 + 0xE0) :: continued 2 v
      else UInt8.ofNat (v / 262144 % 8 + 0xF0) :: continued 3 v := by
  have same : (Char.ofNat v).val.toNat = v := by
    rw [Char.ofNat, dif_pos valid]
    rfl
  simp [String.utf8EncodeChar, same, continued]

/-! What a sequence under way may become: a code point whose bits begin with those read, if its
next byte is one that is owed. -/
structure Pending.Begins (p : Pending) (v : Nat) : Prop where
  bits : v / 64 ^ p.owed = p.bits
  low : p.low ≤ v / 64 ^ (p.owed - 1) % 64 + 0x80
  high : v / 64 ^ (p.owed - 1) % 64 + 0x80 ≤ p.high

structure Pending.Underway (p : Pending) : Prop where
  owes : 0 < p.owed
  least : 0x80 ≤ p.low
  most : p.high ≤ 0xBF
  valid : ∀ v, p.Begins v → v.isValidChar
  encoded : ∀ v, p.Begins v →
    String.utf8EncodeChar (Char.ofNat v) = p.part ++ continued p.owed v

theorem announcedCases {b : UInt8} {p : Pending} (h : announced b = some p) :
    p.part = [b] ∧ 0x80 ≤ p.low ∧ p.high ≤ 0xBF ∧
      (p.owed = 1 ∧ b.toNat = p.bits + 0xC0 ∧ 2 ≤ p.bits ∧ p.bits < 0x20 ∨
       p.owed = 2 ∧ b.toNat = p.bits + 0xE0 ∧ p.bits < 0x10 ∧ (p.bits ≠ 0 ∨ 0xA0 ≤ p.low) ∧
         (p.bits ≠ 0xD ∨ p.high ≤ 0x9F) ∨
       p.owed = 3 ∧ b.toNat = p.bits + 0xF0 ∧ p.bits < 5 ∧ (p.bits ≠ 0 ∨ 0x90 ≤ p.low) ∧
         (p.bits ≠ 4 ∨ p.high ≤ 0x8F)) := by
  unfold announced at h
  simp only at h
  repeat' split at h
  all_goals first | contradiction | (cases Option.some.inj h; simp; omega)

theorem announcedUnderway {b : UInt8} {p : Pending} (h : announced b = some p) : p.Underway := by
  obtain ⟨part, least, most, shape⟩ := announcedCases h
  have scalar : ∀ v, p.Begins v → v.isValidChar ∧
      String.utf8EncodeChar (Char.ofNat v) = UInt8.ofNat b.toNat :: continued p.owed v := by
    rintro v ⟨bits, low, high⟩
    rcases shape with ⟨owed, first, shortest, longest⟩ | ⟨owed, first, bound, shortest, surrogate⟩ |
      ⟨owed, first, bound, shortest, largest⟩
    all_goals rw [owed] at bits low high
    · have valid : v.isValidChar := .inl (by omega)
      have byte : v / 64 % 32 + 0xC0 = b.toNat := by omega
      exact ⟨valid, by rw [encodeScalar valid, if_neg (by omega), if_pos (by omega), byte, owed]⟩
    · have valid : v.isValidChar := by
        unfold Nat.isValidChar
        omega
      have byte : v / 4096 % 16 + 0xE0 = b.toNat := by omega
      exact ⟨valid, by
        rw [encodeScalar valid, if_neg (by omega), if_neg (by omega), if_pos (by omega), byte, owed]⟩
    · have valid : v.isValidChar := .inr (by omega)
      have byte : v / 262144 % 8 + 0xF0 = b.toNat := by omega
      exact ⟨valid, by
        rw [encodeScalar valid, if_neg (by omega), if_neg (by omega), if_neg (by omega), byte, owed]⟩
  refine ⟨by omega, least, most, fun v begins => (scalar v begins).1, fun v begins => ?_⟩
  rw [(scalar v begins).2, part, UInt8.ofNat_toNat]
  rfl

/-! A byte that is owed leaves a sequence that begins the same code points with more of their bits
read, and the last one leaves the code point. -/
section
variable {p : Pending} {b : UInt8} {v count : Nat}

def Pending.onward (p : Pending) (b : UInt8) : Pending :=
  ⟨p.part ++ [b], p.bits * 64 + b.toNat % 64, p.owed - 1, 0x80, 0xBF⟩

theorem feedOnward (owed : p.owed = count + 2) (low : p.low ≤ b.toNat) (high : b.toNat ≤ p.high) :
    feed (some p) b = ([], some (p.onward b)) := by
  simp [feed, low, high, owed, Pending.onward]

theorem feedLast (owed : p.owed = 1) (low : p.low ≤ b.toNat) (high : b.toNat ≤ p.high) :
    feed (some p) b = ([.char (Char.ofNat (p.bits * 64 + b.toNat % 64)) (p.part ++ [b])], none) := by
  simp [feed, low, high, owed]

theorem feedRefused (refused : ¬ (p.low ≤ b.toNat ∧ b.toNat ≤ p.high)) :
    feed (some p) b = (.bad p.part .invalidContinuation :: (opening b).1, (opening b).2) := by
  simp [feed, refused]

theorem beginsBefore (under : p.Underway) (low : p.low ≤ b.toNat) (high : b.toNat ≤ p.high)
    (owed : p.owed = count + 1) (bits : v / 64 ^ count = p.bits * 64 + b.toNat % 64) :
    p.Begins v ∧ String.utf8EncodeChar (Char.ofNat v) = p.part ++ [b] ++ continued count v := by
  have least := under.least
  have most := under.most
  have next : v / 64 ^ count % 64 + 0x80 = b.toNat := by omega
  have begins : p.Begins v := by
    refine ⟨?_, ?_, ?_⟩
    · rw [owed, Nat.pow_succ, ← Nat.div_div_eq_div_mul]
      omega
    · rw [owed, Nat.add_sub_cancel, next]
      exact low
    · rw [owed, Nat.add_sub_cancel, next]
      exact high
  refine ⟨begins, ?_⟩
  rw [under.encoded v begins, owed, continued, next, UInt8.ofNat_toNat, List.append_assoc]
  rfl

theorem onwardUnderway (under : p.Underway) (low : p.low ≤ b.toNat) (high : b.toNat ≤ p.high)
    (owed : p.owed = count + 2) : (p.onward b).Underway := by
  have left : (p.onward b).owed = count + 1 := by simp [Pending.onward, owed]
  have before : ∀ v, (p.onward b).Begins v → p.Begins v ∧
      String.utf8EncodeChar (Char.ofNat v) = p.part ++ [b] ++ continued (count + 1) v := by
    rintro v ⟨bits, _, _⟩
    rw [left] at bits
    exact beginsBefore under low high owed bits
  refine ⟨by omega, Nat.le_refl _, Nat.le_refl _, fun v begins => ?_, fun v begins => ?_⟩
  · exact under.valid v (before v begins).1
  · rw [left]
    exact (before v begins).2

end

/-! What is read of any bytes: a code point stands for the bytes of its encoding. -/
def Piece.Read : Piece → Prop
  | .char c part => part = String.utf8EncodeChar c
  | .bad _ _ => True

theorem openingRead (b : UInt8) : (∀ piece ∈ (opening b).1, piece.Read) ∧
    ∀ p, (opening b).2 = some p → p.Underway := by
  unfold opening
  split
  · rename_i ascii
    have valid : b.toNat.isValidChar := .inl (by omega)
    refine ⟨?_, by simp⟩
    simp only [List.mem_singleton, forall_eq, Piece.Read]
    rw [encodeScalar valid, if_pos (by omega), UInt8.ofNat_toNat]
  · split
    · rename_i p announces
      refine ⟨by simp, ?_⟩
      rintro _ ⟨⟩
      exact announcedUnderway announces
    · simp [Piece.Read]

theorem feedRead {state : State} (under : ∀ p, state = some p → p.Underway) (b : UInt8) :
    (∀ piece ∈ (feed state b).1, piece.Read) ∧ ∀ p, (feed state b).2 = some p → p.Underway := by
  cases state with
  | none => exact openingRead b
  | some p =>
    have under := under p rfl
    by_cases owed : p.low ≤ b.toNat ∧ b.toNat ≤ p.high
    · obtain ⟨low, high⟩ := owed
      obtain ⟨count, owes⟩ : ∃ count, p.owed = count + 1 := ⟨p.owed - 1, by have := under.owes; omega⟩
      cases count with
      | zero =>
        rw [feedLast owes low high]
        refine ⟨?_, by simp⟩
        simp only [List.mem_singleton, forall_eq, Piece.Read]
        have last := (beginsBefore under low high owes (Nat.div_one _)).2
        rw [last, continued, List.append_nil]
      | succ count =>
        rw [feedOnward owes low high]
        refine ⟨by simp, ?_⟩
        rintro _ ⟨⟩
        exact onwardUnderway under low high owes
    · rw [feedRefused owed]
      obtain ⟨read, under⟩ := openingRead b
      refine ⟨?_, under⟩
      intro piece member
      rcases List.mem_cons.mp member with rfl | member
      · trivial
      · exact read piece member

theorem piecesRead {state : State} (under : ∀ p, state = some p → p.Underway) (bytes : Bytes) :
    ∀ piece ∈ piecesFrom state bytes, piece.Read := by
  induction bytes generalizing state with
  | nil => cases state <;> simp [piecesFrom, Piece.Read]
  | cons b rest ih =>
    obtain ⟨read, after⟩ := feedRead under b
    intro piece member
    rw [piecesFrom] at member
    rcases List.mem_append.mp member with now | later
    · exact read piece now
    · exact ih after piece later

/-! What is read of an encoding: its code points. -/
theorem beginsNext {p : Pending} {v count : Nat} (begins : p.Begins v) (owed : p.owed = count + 1) :
    ∃ b : UInt8, continued p.owed v = b :: continued count v ∧
      p.low ≤ b.toNat ∧ b.toNat ≤ p.high ∧ v / 64 ^ count = p.bits * 64 + b.toNat % 64 := by
  obtain ⟨bits, low, high⟩ := begins
  rw [owed, Nat.pow_succ, ← Nat.div_div_eq_div_mul] at bits
  rw [owed, Nat.add_sub_cancel] at low high
  have byte : (UInt8.ofNat (v / 64 ^ count % 64 + 0x80)).toNat = v / 64 ^ count % 64 + 0x80 := by
    rw [UInt8.toNat_ofNat']
    omega
  refine ⟨_, by rw [owed, continued], ?_, ?_, ?_⟩ <;> rw [byte] <;> omega

theorem piecesBegun {p : Pending} (under : p.Underway) {v : Nat} (begins : p.Begins v)
    (rest : Bytes) : piecesFrom (some p) (continued p.owed v ++ rest) =
      .char (Char.ofNat v) (String.utf8EncodeChar (Char.ofNat v)) :: pieces rest := by
  induction owes : p.owed - 1 generalizing p with
  | zero =>
    have owed : p.owed = 0 + 1 := by have := under.owes; omega
    obtain ⟨b, first, low, high, bits⟩ := beginsNext begins owed
    have last := (beginsBefore under low high owed bits).2
    rw [Nat.pow_zero, Nat.div_one] at bits
    rw [first, List.cons_append, piecesFrom, feedLast owed low high, last, ← bits]
    simp [continued, pieces]
  | succ count ih =>
    have owed : p.owed = count + 2 := by omega
    obtain ⟨b, first, low, high, bits⟩ := beginsNext begins owed
    have left : (p.onward b).owed = count + 1 := by simp [Pending.onward, owed]
    have onward : (p.onward b).Begins v := by
      refine ⟨by rw [left]; exact bits, ?_, ?_⟩ <;> simp only [Pending.onward] <;> omega
    rw [first, List.cons_append, piecesFrom, feedOnward owed low high, List.nil_append, ← left]
    exact ih (onwardUnderway under low high owed) onward (by omega)

theorem announcedLead {v : Nat} (valid : v.isValidChar) (wide : 0x80 ≤ v) {b : UInt8}
    (lead : v < 0x800 ∧ b.toNat = v / 64 + 0xC0 ∨
      0x800 ≤ v ∧ v < 0x10000 ∧ b.toNat = v / 4096 + 0xE0 ∨
      0x10000 ≤ v ∧ b.toNat = v / 262144 + 0xF0) : ∃ p, announced b = some p ∧ p.Begins v := by
  unfold Nat.isValidChar at valid
  unfold announced
  simp only
  repeat' split
  all_goals first
    | omega
    | exact ⟨_, rfl, by simp only; omega, by simp only; omega, by simp only; omega⟩

theorem announcedWide {v : Nat} (valid : v.isValidChar) (wide : 0x80 ≤ v) :
    ∃ b p, announced b = some p ∧ p.Begins v := by
  have bound : v < 0x110000 := by
    unfold Nat.isValidChar at valid
    omega
  have byte : ∀ n < 256, (UInt8.ofNat n).toNat = n := fun n small => by
    rw [UInt8.toNat_ofNat']
    omega
  rcases Nat.lt_or_ge v 0x800 with two | more
  · exact ⟨_, announcedLead valid wide (.inl ⟨two, byte _ (by omega)⟩)⟩
  · rcases Nat.lt_or_ge v 0x10000 with three | four
    · exact ⟨_, announcedLead valid wide (.inr (.inl ⟨more, three, byte _ (by omega)⟩))⟩
    · exact ⟨_, announcedLead valid wide (.inr (.inr ⟨four, byte _ (by omega)⟩))⟩

theorem openingAscii {b : UInt8} (ascii : b.toNat < 0x80) :
    opening b = ([.char (Char.ofNat b.toNat) [b]], none) := by
  rw [opening, if_pos ascii]

theorem openingAnnounced {b : UInt8} {p : Pending} (announces : announced b = some p) :
    opening b = ([], some p) := by
  obtain ⟨_, _, _, lead⟩ := announcedCases announces
  rw [opening, if_neg (by omega), announces]

theorem piecesEncoded (c : Char) (rest : Bytes) :
    pieces (String.utf8EncodeChar c ++ rest) = .char c (String.utf8EncodeChar c) :: pieces rest := by
  have valid : c.toNat.isValidChar := c.valid
  rcases Nat.lt_or_ge c.toNat 0x80 with ascii | wide
  · have byte : (UInt8.ofNat c.toNat).toNat = c.toNat := by
      rw [UInt8.toNat_ofNat']
      omega
    have encoded := encodeScalar valid
    rw [Char.ofNat_toNat, if_pos (by omega)] at encoded
    have opens := openingAscii (Nat.lt_of_le_of_lt (Nat.le_of_eq byte) ascii)
    rw [byte, Char.ofNat_toNat] at opens
    rw [encoded, List.cons_append, List.nil_append, pieces, piecesFrom, feed, opens]
    rfl
  · obtain ⟨b, p, announces, begins⟩ := announcedWide valid wide
    have under := announcedUnderway announces
    have encoded := under.encoded _ begins
    have begun := piecesBegun under begins rest
    rw [Char.ofNat_toNat] at encoded begun
    rw [← begun, encoded, (announcedCases announces).1, List.append_assoc, List.cons_append,
      List.nil_append, pieces, piecesFrom, feed, openingAnnounced announces]
    rfl

/-! A text as the pieces of its encoding. -/
def spelled (text : Text) : List Piece := text.map fun c => .char c (String.utf8EncodeChar c)

theorem spelledBytes (text : Text) : (spelled text).flatMap Piece.bytes = encode text := by
  rw [spelled, List.flatMap_map]
  rfl

theorem piecesText (text : Text) (rest : Bytes) :
    pieces (encode text ++ rest) = spelled text ++ pieces rest := by
  induction text with
  | nil => rfl
  | cons c others ih =>
    rw [encodeCons, List.append_assoc, piecesEncoded, ih]
    rfl

theorem readSplit {ps : List Piece} (read : ∀ piece ∈ ps, piece.Read) :
    (∃ text, ps = spelled text) ∨
      ∃ before part flaw rest, ps = spelled before ++ .bad part flaw :: rest := by
  induction ps with
  | nil => exact .inl ⟨[], rfl⟩
  | cons piece others ih =>
    have ih := ih fun p member => read p (.tail _ member)
    cases piece with
    | bad part flaw => exact .inr ⟨[], part, flaw, others, rfl⟩
    | char c part =>
      have same : part = String.utf8EncodeChar c := read _ List.mem_cons_self
      subst same
      rcases ih with ⟨text, rfl⟩ | ⟨before, part, flaw, rest, rfl⟩
      · exact .inl ⟨c :: text, rfl⟩
      · exact .inr ⟨c :: before, part, flaw, rest, rfl⟩

theorem collectSpelled (start : Nat) (text : Text) (rest : List Piece) :
    collect start (spelled text ++ rest) =
      (collect (start + (encode text).length) rest).map (text ++ ·) := by
  induction text generalizing start with
  | nil =>
    change collect start rest = (collect start rest).map id
    cases collect start rest <;> rfl
  | cons c others ih =>
    have size : start + (encode (c :: others)).length =
        start + (String.utf8EncodeChar c).length + (encode others).length := by
      rw [encodeCons, List.length_append, Nat.add_assoc]
    change (collect (start + (String.utf8EncodeChar c).length) (spelled others ++ rest)).map (c :: ·) = _
    rw [ih, size]
    cases collect _ rest <;> rfl

/-! Strict reading gives back exactly what was encoded. Where it fails, it names the place behind
the longest text that the bytes begin with. -/
theorem decodeCases (bytes : Bytes) :
    (∃ text, bytes = encode text ∧ decode bytes = .ok text) ∨
      ∃ before part flaw after, bytes = encode before ++ (part ++ after) ∧
        decode bytes = .error ⟨(encode before).length, part, flaw⟩ ∧
        ∀ c rest, part ++ after ≠ String.utf8EncodeChar c ++ rest := by
  have whole : (pieces bytes).flatMap Piece.bytes = bytes := piecesKeep none bytes
  have read : ∀ piece ∈ pieces bytes, piece.Read := piecesRead (by simp) bytes
  rcases readSplit read with ⟨text, split⟩ | ⟨before, part, flaw, rest, split⟩
  · have collected := collectSpelled 0 text []
    rw [List.append_nil] at collected
    rw [split, spelledBytes] at whole
    refine .inl ⟨text, whole.symm, ?_⟩
    rw [decode, split, collected, collect, Except.map, List.append_nil]
  · have collected := collectSpelled 0 before (.bad part flaw :: rest)
    rw [Nat.zero_add] at collected
    rw [split, List.flatMap_append, spelledBytes, List.flatMap_cons] at whole
    refine .inr ⟨before, part, flaw, rest.flatMap Piece.bytes, whole.symm, ?_, ?_⟩
    · rw [decode, split, collected]
      rfl
    · intro c others same
      have further := piecesText before (part ++ rest.flatMap Piece.bytes)
      change encode before ++ (part ++ _) = bytes at whole
      rw [whole, split] at further
      have next := List.append_cancel_left further
      rw [same, piecesEncoded] at next
      cases next

theorem decodeExact {bytes : Bytes} {text : Text} : decode bytes = .ok text ↔ bytes = encode text := by
  constructor
  · intro decoded
    rcases decodeCases bytes with ⟨own, encoded, same⟩ | ⟨_, _, _, _, _, failed, _⟩
    · cases same.symm.trans decoded
      exact encoded
    · cases failed.symm.trans decoded
  · rintro rfl
    have spells := piecesText text []
    have collected := collectSpelled 0 text (pieces [])
    rw [List.append_nil] at spells
    rw [decode, spells, collected]
    exact congrArg Except.ok (List.append_nil text)

theorem decodeFault {bytes : Bytes} {f : DecodeFault} (failed : decode bytes = .error f) :
    ∃ before after, bytes = encode before ++ (f.part ++ after) ∧
      f.position = (encode before).length ∧
      ∀ c rest, f.part ++ after ≠ String.utf8EncodeChar c ++ rest := by
  rcases decodeCases bytes with ⟨_, _, decoded⟩ | ⟨before, part, flaw, after, split, same, stops⟩
  · cases decoded.symm.trans failed
  · cases same.symm.trans failed
    exact ⟨before, after, split, rfl, stops⟩

theorem decodeLenientEncoded (text : Text) : decodeLenient (encode text) = text := by
  have spells := piecesText text []
  rw [List.append_nil] at spells
  rw [decodeLenient, spells]
  simp [spelled, pieces, piecesFrom, Function.comp_def]

end SourceExcerpt.Text.Utf8
