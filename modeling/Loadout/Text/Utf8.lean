/-! # Reading UTF-8

Bytes are read as characters, each of which takes one to four bytes.  Bytes that belong to no character
are passed over.
-/

namespace Loadout.Text.Utf8

/-- What has been read of a character: its bits so far, how many bytes are missing, and the bounds of the
next one. -/
structure Begun where
  bits : Nat
  missing : Nat
  low : Nat := 0x80
  high : Nat := 0xbf

/-- The beginning of a character by its first byte. -/
def first? (b : Nat) : Option Begun :=
  if b ≤ 0x7f then some { bits := b, missing := 0 }
  else if 0xc2 ≤ b ∧ b ≤ 0xdf then some { bits := b % 0x20, missing := 1 }
  else if b = 0xe0 then some { bits := 0, missing := 2, low := 0xa0 }
  else if b = 0xed then some { bits := 0xd, missing := 2, high := 0x9f }
  else if 0xe1 ≤ b ∧ b ≤ 0xef then some { bits := b % 0x10, missing := 2 }
  else if b = 0xf0 then some { bits := 0, missing := 3, low := 0x90 }
  else if b = 0xf4 then some { bits := 4, missing := 3, high := 0x8f }
  else if 0xf1 ≤ b ∧ b ≤ 0xf3 then some { bits := b % 8, missing := 3 }
  else none

/-- What has been read after one more byte.  A byte that does not continue a character may begin
one. -/
def next? (begun : Option Begun) (b : Nat) : Option Begun :=
  match begun with
  | some c =>
    if c.low ≤ b ∧ b ≤ c.high then some { bits := 0x40 * c.bits + b % 0x40, missing := c.missing - 1 }
    else first? b
  | none => first? b

/-- The characters in bytes that follow the beginning of one. -/
def decodeFrom (begun : Option Begun) : List UInt8 → List Char
  | [] => []
  | b :: bs =>
    match next? begun b.toNat with
    | some c =>
      if c.missing = 0 then Char.ofNat c.bits :: decodeFrom none bs else decodeFrom (some c) bs
    | none => decodeFrom none bs

/-- The characters in bytes. -/
def decode (bs : List UInt8) : List Char :=
  decodeFrom none bs

theorem decode_ascii (b : UInt8) (h : b.toNat ≤ 0x7f) (bs : List UInt8) :
    decode (b :: bs) = Char.ofNat b.toNat :: decode bs := by
  simp [decode, decodeFrom, next?, first?, h]

end Loadout.Text.Utf8
