/-!
# Occurrence of one text in another
-/

namespace Tabulate

/-- Whether `pattern` stands somewhere in the text, in one piece; the empty pattern stands in every
text. -/
def occursIn (pattern : List Char) : List Char → Bool
  | [] => pattern.isEmpty
  | c :: rest => pattern.isPrefixOf (c :: rest) || occursIn pattern rest

/-- `pattern` occurs in a text exactly if the text is `pattern` with something on either side. -/
theorem occursIn_iff {pattern text : List Char} : occursIn pattern text ↔ pattern <:+: text := by
  induction text with
  | nil => simp [occursIn]
  | cons c rest ih => simp [occursIn, ih, List.infix_cons_iff]

end Tabulate
