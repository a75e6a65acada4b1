/-!
# Fanout — texts in byte order

The keys of a table ascend by the code points of their characters. Written in UTF-8 they
ascend by bytes as well, since the encoding keeps the order of code points: one that
takes more bytes has a greater first byte, and of two that take equally many the bits
are compared from the top, some in each byte.

## Main definitions

* `Text.bytes` — a text in UTF-8.
* `Text.Encodes` — the bytes of a code point.
* `Text.Precedes` — bytes that stand before others, whatever follows the two.

## Results

* `Text.precedes_spread` — numbers that are spread over bytes alike keep their order.
* `Text.Encodes.precedes` — the bytes of a lower code point precede those of a higher one.
* `Text.bytes_lt_of_compare` — texts in ascending order are in ascending byte order.
-/

namespace Fanout.Text

-- ---------------------------------------------------------------------------
-- The bytes of a code point
-- ---------------------------------------------------------------------------

/-- A number spread over bytes: six bits to each of the last ones, and what is left, with a mark,
to the first. -/
def spread (mark : Nat) : Nat → Nat → List UInt8
  | 0, number => [UInt8.ofNat (number + mark)]
  | tails + 1, number => spread mark tails (number / 64) ++ [UInt8.ofNat (number % 64 + 0x80)]

/-- What is left of a number for the first byte, when so many others follow. -/
def lead : Nat → Nat → Nat
  | 0, number => number
  | tails + 1, number => lead tails (number / 64)

/-- The bytes of a code point. The mark in the first one tells how many there are. -/
inductive Encodes (number : Nat) : List UInt8 → Prop
  | one (hHigh : number < 0x80) : Encodes number (spread 0 0 number)
  | two (hLow : 0x80 ≤ number) (hHigh : number < 0x800) : Encodes number (spread 0xC0 1 number)
  | three (hLow : 0x800 ≤ number) (hHigh : number < 0x10000) :
      Encodes number (spread 0xE0 2 number)
  | four (hLow : 0x10000 ≤ number) (hHigh : number < 0x110000) :
      Encodes number (spread 0xF0 3 number)

theorem encodes_utf8EncodeChar (c : Char) : Encodes c.val.toNat (String.utf8EncodeChar c) := by
  have hValid : c.val.toNat < 0x110000 := by
    have h := c.valid
    simp only [UInt32.isValidChar, Nat.isValidChar] at h
    omega
  unfold String.utf8EncodeChar
  generalize c.val.toNat = number at hValid
  dsimp only
  -- the first byte has all bits that are left, so that to cut it to size changes nothing
  split
  · exact .one (by omega)
  split
  · rw [(by omega : number / 64 % 0x20 = number / 64)]
    exact .two (by omega) (by omega)
  split
  · rw [(by omega : number / 4096 % 0x10 = number / 64 / 64)]
    exact .three (by omega) (by omega)
  · rw [(by omega : number / 262144 % 0x08 = number / 64 / 64 / 64),
      (by omega : number / 4096 = number / 64 / 64)]
    exact .four (by omega) (by omega)

-- ---------------------------------------------------------------------------
-- Their order
-- ---------------------------------------------------------------------------

/-- Bytes that stand before others, whatever follows the two. -/
def Precedes (first second : List UInt8) : Prop :=
  ∀ rest others, first ++ rest < second ++ others

variable {first second : List UInt8} {number other : Nat}

theorem precedes_cons {a b : Nat} (h : a < b) (hByte : b < 256) :
    Precedes (UInt8.ofNat a :: first) (UInt8.ofNat b :: second) := by
  have hLess : UInt8.ofNat a < UInt8.ofNat b :=
    (UInt8.ofNat_lt_iff_lt (Nat.lt_trans h hByte) hByte).mpr h
  exact fun rest others => List.cons_lt_cons_iff.mpr (.inl hLess)

/-- Numbers that are spread over bytes alike keep their order. -/
theorem precedes_spread {mark tails : Nat} (h : number < other)
    (hByte : lead tails other + mark < 256) :
    Precedes (spread mark tails number) (spread mark tails other) := by
  induction tails generalizing number other with
  | zero => exact precedes_cons (by omega) hByte
  | succ tails ih =>
    intro rest others
    rw [spread, spread, List.append_assoc, List.append_assoc]
    by_cases hHigher : number / 64 < other / 64
    · exact ih hHigher hByte _ _
    · -- all but the last six bits are the same
      rw [(by omega : number / 64 = other / 64)]
      exact List.append_left_lt (precedes_cons (by omega) (by omega) rest others)

/-- The bytes of a lower code point precede those of a higher one. -/
theorem Encodes.precedes (hFirst : Encodes number first) (hSecond : Encodes other second)
    (h : number < other) : Precedes first second := by
  -- of equally many bytes all count, and otherwise the marks decide
  cases hFirst with
  | one =>
    cases hSecond with
    | one => exact precedes_spread h (by dsimp only [lead]; omega)
    | two | three | four => exact precedes_cons (by omega) (by omega)
  | two =>
    cases hSecond with
    | one => omega
    | two => exact precedes_spread h (by dsimp only [lead]; omega)
    | three | four => exact precedes_cons (by omega) (by omega)
  | three =>
    cases hSecond with
    | one | two => omega
    | three => exact precedes_spread h (by dsimp only [lead]; omega)
    | four => exact precedes_cons (by omega) (by omega)
  | four =>
    cases hSecond with
    | one | two | three => omega
    | four => exact precedes_spread h (by dsimp only [lead]; omega)

-- ---------------------------------------------------------------------------
-- Texts
-- ---------------------------------------------------------------------------

/-- A text in UTF-8. -/
def bytes (text : String) : List UInt8 := text.toUTF8.data.toList

theorem bytes_eq_flatMap (text : String) :
    bytes text = text.toList.flatMap String.utf8EncodeChar := by
  unfold bytes
  rw [String.toUTF8_eq_toByteArray, ← String.utf8Encode_toList]
  exact List.toList_data_toByteArray

theorem flatMap_utf8EncodeChar_lt {first second : List Char} (h : first < second) :
    first.flatMap String.utf8EncodeChar < second.flatMap String.utf8EncodeChar := by
  induction h with
  | nil =>
    -- a character takes at least one byte
    obtain ⟨byte, more, hBytes⟩ := List.exists_cons_of_ne_nil String.utf8EncodeChar_ne_nil
    rw [List.flatMap_cons, hBytes]
    exact List.nil_lt_cons _ _
  | rel h =>
    rw [List.flatMap_cons, List.flatMap_cons]
    exact (encodes_utf8EncodeChar _).precedes (encodes_utf8EncodeChar _) h _ _
  | cons _ ih =>
    rw [List.flatMap_cons, List.flatMap_cons]
    exact List.append_left_lt ih

/-- Texts in ascending order are in ascending byte order. -/
theorem bytes_lt_of_compare {first second : String} (h : compare first second = .lt) :
    bytes first < bytes second := by
  have hLess : first < second := compareOfLessAndEq_eq_lt.mp h
  rw [bytes_eq_flatMap, bytes_eq_flatMap]
  exact flatMap_utf8EncodeChar_lt hLess

end Fanout.Text
