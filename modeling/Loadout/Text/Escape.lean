import Loadout.Text.WordChar

/-! # Escape sequences

A terminal takes some sequences of characters for commands.  All begin with the escape character.  One
kind sets colours; the other makes a link of a text, which is enclosed in the sequence.
-/

namespace Loadout.Text

def escapeSign : Char := '\x1b'

/-- A sequence: how many characters it has, and the text that is shown in its place. -/
structure EscapeSequence where
  length : Nat
  shown : List Char
deriving DecidableEq, Repr

namespace EscapeSequence

/-- Whether a character lies between two others. -/
def between (low high c : Char) : Bool :=
  low ≤ c && c ≤ high

/-- A control sequence at the beginning of a text: parameters, intermediate characters and a final
one. -/
def control? : List Char → Option EscapeSequence
  | '\x1b' :: '[' :: cs =>
    let rest := (cs.dropWhile (between '0' '?')).dropWhile (between ' ' '/')
    match rest with
    | c :: _ =>
      if between '@' '~' c then some ⟨cs.length - rest.length + 3, []⟩ else none
    | [] => none
  | _ => none

/-- The parts of a text between separators. -/
def parts (separator : Char) (cs : List Char) : List (List Char) :=
  cs.foldr (fun c parts =>
    if c = separator then [] :: parts
    else
      match parts with
      | part :: parts => (c :: part) :: parts
      | [] => [[c]]) [[]]

/-- Whether words stand in pairs with a sign of equality between the two.  Nothing stands between pairs,
so a word between two signs belongs to two pairs, and has at least two characters. -/
def arePairs (isWord : Char → Bool) (block : List Char) : Bool :=
  let words := parts '=' block
  2 ≤ words.length && words.all (fun word => !word.isEmpty && word.all isWord)
    && words.tail.dropLast.all fun word => 2 ≤ word.length

/-- Whether a text is a list of parameters: blocks of pairs, with a colon after each but perhaps the
last. -/
def areParameters (isWord : Char → Bool) (cs : List Char) : Bool :=
  let blocks := parts ':' cs
  blocks.dropLast.all (arePairs isWord)
    && match blocks.getLast? with
      | some [] | none => true
      | some block => arePairs isWord block

/-- What is left of a text after its beginning. -/
def after? (beginning cs : List Char) : Option (List Char) :=
  if beginning.isPrefixOf cs then some (cs.drop beginning.length) else none

def linkOpening : List Char := ['\x1b', ']', '8', ';']

def linkClosing : List Char := linkOpening ++ [';', '\x1b', '\\']

def terminator : List Char := ['\x1b', '\\']

/-- Characters other than the escape character, of which there must be some, and what follows. -/
def plain? (cs : List Char) : Option (List Char × List Char) :=
  match cs.span (· ≠ escapeSign) with
  | ([], _) => none
  | (plain, rest) => some (plain, rest)

/-- A link at the beginning of a text. -/
def link? (isWord : Char → Bool) (cs : List Char) : Option EscapeSequence := do
  let rest ← after? linkOpening cs
  let (parameters, rest) := rest.span (· ≠ ';')
  let rest ← after? [';'] rest
  let (_, rest) ← plain? rest
  let rest ← after? terminator rest
  let (shown, rest) ← plain? rest
  let rest ← after? linkClosing rest
  if areParameters isWord parameters then some ⟨cs.length - rest.length, shown⟩ else none

/-- A sequence at the beginning of a text. -/
def atBeginning? (isWord : Char → Bool) (cs : List Char) : Option EscapeSequence :=
  (control? cs).or (link? isWord cs)

end EscapeSequence

/-- A text with what is shown in the place of its escape sequences, without the characters that are
still to be passed over. -/
def withoutEscapesAfter (isWord : Char → Bool) : Nat → List Char → List Char
  | _, [] => []
  | n + 1, _ :: cs => withoutEscapesAfter isWord n cs
  | 0, c :: cs =>
    match EscapeSequence.atBeginning? isWord (c :: cs) with
    | some s => s.shown ++ withoutEscapesAfter isWord (s.length - 1) cs
    | none => c :: withoutEscapesAfter isWord 0 cs

/-- A text with what is shown in the place of its escape sequences. -/
def withoutEscapes (isWord : Char → Bool) (cs : List Char) : List Char :=
  withoutEscapesAfter isWord 0 cs

/-- Whether a text has an escape sequence. -/
def hasEscapes (isWord : Char → Bool) : List Char → Bool
  | [] => false
  | c :: cs => (EscapeSequence.atBeginning? isWord (c :: cs)).isSome || hasEscapes isWord cs

/-- A text without the escape character has no escape sequence … -/
theorem EscapeSequence.atBeginning?_eq_none {isWord : Char → Bool} {c : Char} {cs : List Char}
    (h : c ≠ escapeSign) : atBeginning? isWord (c :: cs) = none := by
  have hc : control? (c :: cs) = none := by
    unfold control?
    split
    · next heq => exact absurd (List.cons.inj heq).1 h
    · rfl
  have hl : after? linkOpening (c :: cs) = none := by
    have : (escapeSign == c) = false := by simpa using fun e => h e.symm
    simp only [after?, linkOpening, List.isPrefixOf_cons_cons]
    simp only [escapeSign] at this
    simp [this]
  simp [atBeginning?, hc, link?, hl]

/-- … and is left as it is. -/
theorem withoutEscapes_eq_self {isWord : Char → Bool} {cs : List Char} (h : escapeSign ∉ cs) :
    withoutEscapes isWord cs = cs := by
  unfold withoutEscapes
  induction cs with
  | nil => simp [withoutEscapesAfter]
  | cons c cs ih =>
    simp only [List.mem_cons, not_or] at h
    have hc : c ≠ escapeSign := fun e => h.1 e.symm
    simp [withoutEscapesAfter, EscapeSequence.atBeginning?_eq_none hc, ih h.2]

end Loadout.Text
