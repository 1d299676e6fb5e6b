/-! # Text inside markup

The five characters that markup gives a meaning to are replaced by their entities.
-/

namespace Loadout.Text

def escapeChar (c : Char) : List Char :=
  if c = '&' then ['&', 'a', 'm', 'p', ';']
  else if c = '<' then ['&', 'l', 't', ';']
  else if c = '>' then ['&', 'g', 't', ';']
  else if c = '"' then ['&', 'q', 'u', 'o', 't', ';']
  else if c = '\'' then ['&', '#', 'x', '2', '7', ';']
  else [c]

def escape (s : String) : String :=
  String.ofList (s.toList.flatMap escapeChar)

/-- What a character becomes opens and closes no tag. -/
private theorem escapeChar_ne {c d : Char} (h : d ∈ escapeChar c) : d ≠ '<' ∧ d ≠ '>' := by
  unfold escapeChar at h
  split at h <;> (repeat' split at h) <;> simp at h <;> grind

/-- No character of an escaped text opens or closes a tag. -/
theorem not_mem_escape {c : Char} (h : c = '<' ∨ c = '>') (s : String) :
    c ∉ (escape s).toList := by
  simp only [escape, String.toList_ofList, List.mem_flatMap, not_exists, not_and]
  intro d _ hd
  rcases h with rfl | rfl
  · exact (escapeChar_ne hd).1 rfl
  · exact (escapeChar_ne hd).2 rfl

end Loadout.Text
