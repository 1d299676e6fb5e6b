import Loadout.Text.Printable

/-! # Quoted text

A text is quoted so that its ends and its invisible characters can be seen.  Single quotes are used
unless the text holds single quotes and no double ones; the quote in use, the backslash and the
three common control characters are written with a backslash, other unprintable characters by their
code in two, four or eight hexadecimal digits.
-/

namespace Loadout.Text

/-- The code of a character in `width` hexadecimal digits. -/
def hexDigits (width n : Nat) : List Char :=
  let digits := Nat.toDigits 16 n
  List.replicate (width - digits.length) '0' ++ digits

/-- The quote that a text is set in. -/
def quoteFor (cs : List Char) : Char :=
  if cs.contains '\'' && !cs.contains '"' then '"' else '\''

/-- A character that cannot be shown, written by its code. -/
def escapeCode (n : Nat) : List Char :=
  if n ≤ 0xff then '\\' :: 'x' :: hexDigits 2 n
  else if n ≤ 0xffff then '\\' :: 'u' :: hexDigits 4 n
  else '\\' :: 'U' :: hexDigits 8 n

/-- One character of a quoted text. -/
def quoteChar (quote c : Char) : List Char :=
  if c = quote || c = '\\' then ['\\', c]
  else if c = '\n' then ['\\', 'n']
  else if c = '\r' then ['\\', 'r']
  else if c = '\t' then ['\\', 't']
  else if isPrintable c then [c]
  else escapeCode c.toNat

/-- The quoted form of a text. -/
def quote (s : String) : String :=
  let q := quoteFor s.toList
  String.ofList (q :: s.toList.flatMap (quoteChar q) ++ [q])

/-- The quoted form of a string of bytes: as a text in which only ASCII can be shown, after a `b`. -/
def quoteBytes (bytes : List UInt8) : String :=
  let cs := bytes.map fun b => Char.ofNat b.toNat
  let q := quoteFor cs
  let shown (c : Char) : List Char := if c.toNat < 0x7f then quoteChar q c else escapeCode c.toNat
  String.ofList ('b' :: q :: cs.flatMap shown ++ [q])

end Loadout.Text
