import Tabulate.Number.Relaxed
import Tabulate.Proofs.Json.Grammar

/-!
# A strict parser

A parser for the strict grammar, apart from the reader of the service: it takes no other words or
escapes than the grammar has, sets no limit to integers or nesting, and keeps the members of an
object as they stand. Whatever it takes off a text follows the grammar: `Json.sound_parseValue`.
-/

namespace Tabulate.Json

/-! ### The parser -/

/-- A parser takes something off the front of a text and returns it with the rest. -/
abbrev Parser (α : Type) := List Char → Option (α × List Char)

/-- The unit that is spelled by its digits at the front of a text. -/
def parseUnit : Parser Nat
  | '\\' :: 'u' :: a :: b :: c :: d :: rest => (codeUnit? a b c d).map fun n => (n, rest)
  | _ => none

/-- The character that a unit makes, together with the unit behind it if it is the first half of a
pair. -/
def parsePair (n : Nat) : Parser Char := fun rest =>
  if isHighUnit n then
    match parseUnit rest with
    | some (low, rest) => if isLowUnit low then some (pairChar n low, rest) else none
    | none => none
  else if isLowUnit n then none
  else some (Char.ofNat n, rest)

/-- A character of a string. -/
def parseChar : Parser Char := fun cs =>
  match parseUnit cs with
  | some (n, rest) => parsePair n rest
  | none =>
    match cs with
    | '\\' :: e :: rest => (escaped? e).map fun c => (c, rest)
    | c :: rest => if c = '"' ∨ c = '\\' ∨ c.toNat < 0x20 then none else some (c, rest)
    | [] => none

/-- The characters of a string up to its closing mark, of which there are fewer than `fuel`. -/
def parseChars : Nat → Parser (List Char)
  | 0, _ => none
  | _ + 1, '"' :: rest => some ([], rest)
  | fuel + 1, cs =>
    match parseChar cs with
    | some (c, rest) => (parseChars fuel rest).map fun (chars, rest) => (c :: chars, rest)
    | none => none

/-- A string whose opening mark has been taken. -/
def parseString : Parser String := fun rest =>
  (parseChars rest.length rest).map fun (chars, rest) => (String.ofList chars, rest)

/-- A number. -/
def parseNumber : Parser Value := fun cs =>
  let (negative, rest) := readMinus cs
  match readWhole rest with
  | some (whole, rest) =>
    let (fraction, rest) := readFraction rest
    let (power, rest) := readPower rest
    some (numberOf negative whole fraction power, rest)
  | none => none

/-- A word or a number. -/
def parseAtom : Parser Value
  | 'n' :: 'u' :: 'l' :: 'l' :: rest => some (.null, rest)
  | 't' :: 'r' :: 'u' :: 'e' :: rest => some (.bool true, rest)
  | 'f' :: 'a' :: 'l' :: 's' :: 'e' :: rest => some (.bool false, rest)
  | cs => parseNumber cs

/-- A value with the gaps around it. -/
def parseElement (value : Parser Value) : Parser Value := fun cs =>
  (value (skipGap cs)).map fun (v, rest) => (v, skipGap rest)

/-- A member of an object with the gaps around its parts. -/
def parseMember (value : Parser Value) : Parser (String × Value) := fun cs =>
  match skipGap cs with
  | '"' :: rest =>
    match parseString rest with
    | some (name, rest) =>
      match skipGap rest with
      | ':' :: rest => (parseElement value rest).map fun (v, rest) => ((name, v), rest)
      | _ => none
    | none => none
  | _ => none

/-- What stands between commas, of which there is at least one and fewer than `fuel`, up to the
closing mark. -/
def parseSeparated {α : Type} (one : Parser α) (close : Char) : Nat → Parser (List α)
  | 0, _ => none
  | fuel + 1, cs =>
    match one cs with
    | some (a, c :: rest) =>
      if c = close then some ([a], rest)
      else if c = ',' then
        (parseSeparated one close fuel rest).map fun (others, rest) => (a :: others, rest)
      else none
    | _ => none

/-- A value. Containers are nested less than `fuel` deep. -/
def parseValue : Nat → Parser Value
  | 0, _ => none
  | fuel + 1, cs =>
    match cs with
    | '"' :: rest => (parseString rest).map fun (s, rest) => (.str s, rest)
    | '[' :: rest =>
      match skipGap rest with
      | ']' :: rest => some (.list [], rest)
      | _ =>
        (parseSeparated (parseElement (parseValue fuel)) ']' rest.length rest).map
          fun (vs, rest) => (.list vs, rest)
    | '\x7b' :: rest =>
      match skipGap rest with
      | '\x7d' :: rest => some (.record [], rest)
      | _ =>
        (parseSeparated (parseMember (parseValue fuel)) '\x7d' rest.length rest).map
          fun (fields, rest) => (.record fields, rest)
    | _ => parseAtom cs

/-- The value that a whole text stands for. -/
def parse (cs : List Char) : Option Value :=
  match parseElement (parseValue cs.length) cs with
  | some (v, []) => some v
  | _ => none

example : parse " [1, \"\\ud83d\\ude00\", -0.5e+1] ".toList =
    some (.list [.int 1, .str "😀", .float (.ofInt (-5))]) := by decide +kernel

example :
    parse "[NaN]".toList = none ∧ parse "\"\\ud83d\"".toList = none ∧
    parse "\"\t\"".toList = none := by
  decide +kernel

/-! ### Whatever is parsed follows the grammar -/

/-- Whatever the parser takes off a text is one of the texts of what it returns. -/
def Parser.Sound {α : Type} (p : Parser α) (texts : α → List Char → Prop) : Prop :=
  ∀ {cs rest : List Char} {a : α}, p cs = some (a, rest) →
    ∃ front, cs = front ++ rest ∧ texts a front

/-- What was parsed and changed afterwards was parsed. -/
theorem exists_of_map {α β : Type} {f : α → β} {parsed : Option (α × List Char)} {b : β}
    {rest : List Char} (h : (parsed.map fun (a, rest) => (f a, rest)) = some (b, rest)) :
    ∃ a, parsed = some (a, rest) ∧ f a = b := by
  obtain ⟨⟨a, rest⟩, found, same⟩ := Option.map_eq_some_iff.1 h
  cases same
  exact ⟨a, found, rfl⟩

/-- The text of a unit: its digits. -/
def UnitText (n : Nat) (cs : List Char) : Prop :=
  ∃ a b c d, cs = ['\\', 'u', a, b, c, d] ∧ codeUnit? a b c d = some n

theorem sound_parseUnit : Parser.Sound parseUnit UnitText := by
  intro cs rest n h
  unfold parseUnit at h
  split at h
  · rename_i a b c d rest'
    obtain ⟨m, digits, same⟩ := Option.map_eq_some_iff.1 h
    cases same
    exact ⟨['\\', 'u', a, b, c, d], rfl, a, b, c, d, rfl, digits⟩
  · cases h

theorem sound_parseChar : Parser.Sound parseChar CharText := by
  intro cs rest c h
  unfold parseChar at h
  split at h
  · rename_i n behind unit
    obtain ⟨front, rfl, a, b, c', d, rfl, digits⟩ := sound_parseUnit unit
    unfold parsePair at h
    split at h
    · rename_i high
      split at h
      · rename_i low behind' unit'
        obtain ⟨front', rfl, a', b', c'', d', rfl, digits'⟩ := sound_parseUnit unit'
        split at h
        · rename_i second
          obtain ⟨rfl, rfl⟩ := Prod.mk.inj (Option.some.inj h)
          exact ⟨_, rfl, .pair digits high digits' second⟩
        · cases h
      · cases h
    · rename_i high
      split at h
      · cases h
      · rename_i low
        cases h
        exact ⟨_, rfl, .unit digits (by simpa using high) (by simpa using low)⟩
  · split at h
    · rename_i e behind _
      obtain ⟨c', escaped, same⟩ := Option.map_eq_some_iff.1 h
      cases same
      exact ⟨['\\', e], rfl, .short escaped⟩
    · split at h
      · cases h
      · rename_i allowed
        cases h
        simp only [not_or] at allowed
        exact ⟨[c], rfl, .plain allowed.1 allowed.2.1 allowed.2.2⟩
    · cases h

/-- Characters of a string with its closing mark. -/
theorem sound_parseChars (fuel : Nat) :
    Parser.Sound (parseChars fuel) fun chars cs =>
      ∃ front, cs = front ++ ['"'] ∧ CharsText chars front := by
  induction fuel with
  | zero =>
    intro cs rest chars h
    cases h
  | succ fuel ih =>
    intro cs rest chars h
    unfold parseChars at h
    split at h
    · contradiction
    · cases h
      exact ⟨['"'], rfl, [], rfl, .nil⟩
    · rename_i _ fuel' same _
      cases same
      split at h
      · rename_i c behind first
        obtain ⟨others, parsed, rfl⟩ := exists_of_map h
        obtain ⟨front, rfl, text⟩ := sound_parseChar first
        obtain ⟨back, rfl, back', rfl, texts⟩ := ih parsed
        exact ⟨front ++ (back' ++ ['"']), by simp, front ++ back', by simp, .cons text texts⟩
      · cases h

/-- A string without its opening mark. -/
theorem sound_parseString : Parser.Sound parseString fun s cs => StringText s ('"' :: cs) := by
  intro cs rest s h
  obtain ⟨chars, parsed, rfl⟩ := exists_of_map h
  obtain ⟨front, rfl, front', rfl, texts⟩ := sound_parseChars _ parsed
  refine ⟨front' ++ ['"'], rfl, .mk ?_⟩
  rwa [String.toList_ofList]

/-! ### Numbers -/

theorem readMinus_eq {cs rest : List Char} {negative : Bool} (h : readMinus cs = (negative, rest)) :
    cs = signed negative rest := by
  unfold readMinus at h
  split at h
  · cases h
    rfl
  · cases h
    rfl

theorem spanDigits_eq {cs digits rest : List Char} (h : spanDigits cs = (digits, rest)) :
    cs = digits ++ rest ∧ AllDigits digits := by
  obtain ⟨rfl, rfl⟩ := Prod.mk.inj h
  exact ⟨List.takeWhile_append_dropWhile.symm, fun c hc => List.mem_takeWhile_imp hc⟩

theorem readWhole_eq_some {cs whole rest : List Char} (h : readWhole cs = some (whole, rest)) :
    cs = whole ++ rest ∧ Whole whole := by
  unfold readWhole at h
  split at h
  · cases h
    exact ⟨rfl, .inl rfl⟩
  · rename_i nonzero
    split at h
    · cases h
    · rename_i nonempty
      obtain ⟨rfl, digits⟩ := spanDigits_eq (Option.some.inj h)
      have nonempty : whole ≠ [] := by
        rintro rfl
        exact nonempty rest (Option.some.inj h)
      refine ⟨rfl, .inr ⟨digits, nonempty, ?_⟩⟩
      intro zero
      obtain ⟨c, others, rfl⟩ := List.exists_cons_of_ne_nil nonempty
      cases zero
      exact nonzero _ rfl

theorem readFraction_eq {cs rest : List Char} {fraction : Option (List Char)}
    (h : readFraction cs = (fraction, rest)) :
    ∃ front, cs = front ++ rest ∧ FractionText fraction front := by
  unfold readFraction at h
  split at h
  · rename_i behind
    split at h
    · cases h
      exact ⟨[], rfl, .none⟩
    · rename_i digits rest' nonempty span
      cases h
      obtain ⟨rfl, all⟩ := spanDigits_eq span
      exact ⟨'.' :: digits, rfl, .some all (by rintro rfl; exact nonempty rfl)⟩
  · cases h
    exact ⟨[], rfl, .none⟩

theorem readSign_eq {cs rest : List Char} {negative : Bool} (h : readSign cs = (negative, rest)) :
    ∃ mark, cs = mark ++ rest ∧ SignText negative mark := by
  unfold readSign at h
  split at h
  · cases h
    exact ⟨['-'], rfl, .minus⟩
  · cases h
    exact ⟨['+'], rfl, .plus⟩
  · cases h
    exact ⟨[], rfl, .none⟩

theorem readPower_eq {cs rest : List Char} {power : Option Int} (h : readPower cs = (power, rest)) :
    ∃ back, cs = back ++ rest ∧ PowerText power back := by
  unfold readPower at h
  split at h
  · rename_i e behind
    split at h
    · rename_i letter
      cases sign : readSign behind with
      | mk negative behind' =>
        obtain ⟨mark, rfl, text⟩ := readSign_eq sign
        rw [sign] at h
        dsimp only at h
        split at h
        · cases h
          exact ⟨[], rfl, .none⟩
        · rename_i digits rest' nonempty span
          cases h
          obtain ⟨rfl, all⟩ := spanDigits_eq span
          refine ⟨e :: (mark ++ digits), by simp, .some letter text all ?_⟩
          rintro rfl
          exact nonempty rfl
    · cases h
      exact ⟨[], rfl, .none⟩
  · cases h
    exact ⟨[], rfl, .none⟩

theorem sound_parseNumber : Parser.Sound parseNumber NumberText := by
  intro cs rest v h
  unfold parseNumber at h
  rcases minus : readMinus cs with ⟨negative, magnitude⟩
  rw [minus] at h
  dsimp only at h
  split at h
  · rename_i whole behind front
    rcases middle : readFraction behind with ⟨fraction, behind'⟩
    rcases back : readPower behind' with ⟨power, rest'⟩
    simp only [middle, back] at h
    obtain ⟨rfl, rfl⟩ := Prod.mk.inj (Option.some.inj h)
    obtain rfl := readMinus_eq minus
    obtain ⟨rfl, first⟩ := readWhole_eq_some front
    obtain ⟨cs', rfl, second⟩ := readFraction_eq middle
    obtain ⟨cs'', rfl, third⟩ := readPower_eq back
    refine ⟨_, ?_, .mk negative first second third⟩
    simp [signed_append]
  · cases h

/-! ### Values -/

theorem sound_parseAtom : Parser.Sound parseAtom fun v => Grammar (.value v) := by
  intro cs rest v h
  unfold parseAtom at h
  split at h
  · cases h
    exact ⟨_, rfl, .nullWord⟩
  · cases h
    exact ⟨_, rfl, .trueWord⟩
  · cases h
    exact ⟨_, rfl, .falseWord⟩
  · obtain ⟨front, rfl, number⟩ := sound_parseNumber h
    exact ⟨front, rfl, .number number⟩

theorem exists_gap (cs : List Char) : ∃ g, Gap g ∧ cs = g ++ skipGap cs :=
  ⟨cs.takeWhile isGap, fun _ hc => List.mem_takeWhile_imp hc, List.takeWhile_append_dropWhile.symm⟩

section Containers

variable {value : Parser Value} (sound : value.Sound fun v => Grammar (.value v))
include sound

theorem sound_parseElement : (parseElement value).Sound fun v => Grammar (.element v) := by
  intro cs rest v h
  obtain ⟨⟨v', behind⟩, parsed, same⟩ := Option.map_eq_some_iff.1 h
  cases same
  obtain ⟨front, split, text⟩ := sound parsed
  obtain ⟨g, before, outer⟩ := exists_gap cs
  obtain ⟨g', after, inner⟩ := exists_gap behind
  refine ⟨g ++ (front ++ g'), ?_, .element before text after⟩
  simp only [List.append_assoc]
  rw [← inner, ← split]
  exact outer

theorem sound_parseMember : (parseMember value).Sound fun field => Grammar (.member field) := by
  intro cs rest field h
  unfold parseMember at h
  split at h
  · rename_i behind mark
    split at h
    · rename_i name behind' parsed
      split at h
      · rename_i behind'' colon
        obtain ⟨v, element, rfl⟩ := exists_of_map h
        obtain ⟨g, before, outer⟩ := exists_gap cs
        obtain ⟨front, rfl, text⟩ := sound_parseString parsed
        obtain ⟨g', after, inner⟩ := exists_gap behind'
        obtain ⟨back, rfl, texts⟩ := sound_parseElement sound element
        refine ⟨g ++ ('"' :: front ++ (g' ++ ':' :: back)), ?_, .member before text after texts⟩
        rw [mark] at outer
        rw [colon] at inner
        rw [outer, inner]
        simp
      · cases h
    · cases h
  · cases h

end Containers

/-- What is parsed between commas follows the grammar if each part does. -/
theorem sound_parseSeparated {α : Type} {one : Parser α} {text : α → List Char → Prop}
    (texts : List α → List Char → Prop) (sound : one.Sound text)
    (last : ∀ {a cs}, text a cs → texts [a] cs)
    (more : ∀ {a as cs ds}, text a cs → texts as ds → texts (a :: as) (cs ++ ',' :: ds))
    (close : Char) (fuel : Nat) :
    (parseSeparated one close fuel).Sound fun as cs =>
      ∃ front, cs = front ++ [close] ∧ texts as front := by
  induction fuel with
  | zero =>
    intro cs rest as h
    cases h
  | succ fuel ih =>
    intro cs rest as h
    unfold parseSeparated at h
    split at h
    · rename_i a c behind parsed
      obtain ⟨front, rfl, first⟩ := sound parsed
      split at h
      · rename_i closes
        cases h
        exact ⟨front ++ [c], by simp, front, by rw [closes], last first⟩
      · split at h
        · rename_i comma
          obtain ⟨others, parsed, rfl⟩ := exists_of_map h
          obtain ⟨back, rfl, back', rfl, others⟩ := ih parsed
          exact ⟨front ++ c :: (back' ++ [close]), by simp, front ++ ',' :: back', by simp [comma],
            more first others⟩
        · cases h
    · cases h

theorem sound_parseValue (fuel : Nat) : (parseValue fuel).Sound fun v => Grammar (.value v) := by
  induction fuel with
  | zero =>
    intro cs rest v h
    cases h
  | succ fuel ih =>
    intro cs rest v h
    unfold parseValue at h
    split at h
    · rename_i behind
      obtain ⟨s, parsed, rfl⟩ := exists_of_map h
      obtain ⟨front, rfl, text⟩ := sound_parseString parsed
      exact ⟨'"' :: front, rfl, .string text⟩
    · rename_i behind
      split at h
      · rename_i rest' bracket
        obtain ⟨g, gap, split⟩ := exists_gap behind
        cases h
        rw [split, bracket]
        exact ⟨'[' :: (g ++ [']']), by simp, .emptyList gap⟩
      · obtain ⟨vs, parsed, rfl⟩ := exists_of_map h
        obtain ⟨front, rfl, front', rfl, texts⟩ :=
          sound_parseSeparated (fun vs => Grammar (.elements vs)) (sound_parseElement ih)
            .lastElement .moreElements ']' _ parsed
        exact ⟨'[' :: (front' ++ [']']), rfl, .list texts⟩
    · rename_i behind
      split at h
      · rename_i rest' bracket
        obtain ⟨g, gap, split⟩ := exists_gap behind
        cases h
        rw [split, bracket]
        exact ⟨'\x7b' :: (g ++ ['\x7d']), by simp, .emptyRecord gap⟩
      · obtain ⟨fields, parsed, rfl⟩ := exists_of_map h
        obtain ⟨front, rfl, front', rfl, texts⟩ :=
          sound_parseSeparated (fun fields => Grammar (.members fields)) (sound_parseMember ih)
            .lastMember .moreMembers '\x7d' _ parsed
        exact ⟨'\x7b' :: (front' ++ ['\x7d']), rfl, .record texts⟩
    · exact sound_parseAtom h

end Tabulate.Json
