import Tabulate.Csv.Format

/-!
# Reading comma-separated values

A reader for the text form of tables. Records end with a line feed, fields have commas between them,
a field may stand between quotation marks, where a mark is written twice, and an empty line is a
record of no fields. What is written is read back: `read_write`. So different tables have different
texts.
-/

namespace Tabulate.Csv

/-- Where reading stands: outside quotation marks, between them, or behind a mark that ends the
field unless another one follows. -/
inductive Place where
  | bare
  | quoted
  | closed

/-- What has been read: whole records, whole fields of the next record, and the characters of its
next field. -/
structure Reading where
  records : List (List (List Char))
  fields : List (List Char)
  field : List Char
  place : Place

namespace Reading

/-- The reading of nothing. -/
def start : Reading := ⟨[], [], [], .bare⟩

/-- One more character of the field. -/
def push (r : Reading) (c : Char) : Reading := { r with field := r.field ++ [c] }

/-- The field is whole. -/
def endField (r : Reading) : Reading := ⟨r.records, r.fields ++ [r.field], [], .bare⟩

/-- The record is whole. If nothing of it has been read, it has no fields; otherwise its last field
is whole as well. -/
def endRecord : Reading → Reading
  | ⟨records, [], [], .bare⟩ => ⟨records ++ [[]], [], [], .bare⟩
  | r => ⟨r.records ++ [r.fields ++ [r.field]], [], [], .bare⟩

/-- One more character. A quotation mark opens a field or, behind another mark, belongs to it;
behind the mark that ends a field there is nothing but the end of the field or of the record. -/
def step (r : Reading) (c : Char) : Option Reading :=
  match r.place with
  | .bare =>
    if c = ',' then some r.endField
    else if c = '\n' then some r.endRecord
    else if c = '"' then if r.field = [] then some { r with place := .quoted } else none
    else some (r.push c)
  | .quoted => if c = '"' then some { r with place := .closed } else some (r.push c)
  | .closed =>
    if c = ',' then some r.endField
    else if c = '\n' then some r.endRecord
    else if c = '"' then some { r.push c with place := .quoted }
    else none

/-- The records that have been read, if no record is left unended. -/
def whole? : Reading → Option (List (List String))
  | ⟨records, [], [], .bare⟩ => some (records.map (·.map String.ofList))
  | _ => none

end Reading

/-- The records of a text. -/
def read (text : String) : Option (List (List String)) :=
  (text.toList.foldlM Reading.step Reading.start).bind Reading.whole?

namespace Reading

variable (records : List (List (List Char))) (fields : List (List Char))

/-! ### Steps -/

theorem foldlM_cons_of_eq {r r' : Reading} {c : Char} (front : step r c = some r')
    (cs : List Char) : (c :: cs).foldlM step r = cs.foldlM step r' := by
  rw [List.foldlM_cons, front]
  rfl

theorem foldlM_append_of_eq {r r' : Reading} {cs : List Char} (front : cs.foldlM step r = some r')
    (ds : List Char) : (cs ++ ds).foldlM step r = ds.foldlM step r' := by
  rw [List.foldlM_append, front]
  rfl

/-! ### Fields -/

/-- A field that needs no quotation marks is read as it stands. -/
theorem foldlM_plain {cs : List Char} (plain : needsQuotes cs = false) (field : List Char) :
    cs.foldlM step ⟨records, fields, field, .bare⟩ =
      some ⟨records, fields, field ++ cs, .bare⟩ := by
  induction cs generalizing field with
  | nil => simp
  | cons c rest ih =>
    simp only [needsQuotes, List.any_cons, Bool.or_eq_false_iff, beq_eq_false_iff_ne] at plain
    obtain ⟨⟨⟨comma, mark⟩, feed⟩, others⟩ := plain
    have pushed : step ⟨records, fields, field, .bare⟩ c =
        some ⟨records, fields, field ++ [c], .bare⟩ := by
      simp [step, comma, feed, mark, push]
    rw [foldlM_cons_of_eq pushed, ih others, List.append_assoc, List.singleton_append]

/-- Between quotation marks every character is read, and a mark that is written twice once. -/
theorem foldlM_doubleQuotes (cs field : List Char) :
    (doubleQuotes cs).foldlM step ⟨records, fields, field, .quoted⟩ =
      some ⟨records, fields, field ++ cs, .quoted⟩ := by
  induction cs generalizing field with
  | nil => simp [doubleQuotes]
  | cons c rest ih =>
    have front : (if c = '"' then ['"', '"'] else [c]).foldlM step
        ⟨records, fields, field, .quoted⟩ = some ⟨records, fields, field ++ [c], .quoted⟩ := by
      by_cases mark : c = '"'
      · simp [mark, step, push]
      · simp [mark, step, push]
    have doubled : doubleQuotes (c :: rest) =
        (if c = '"' then ['"', '"'] else [c]) ++ doubleQuotes rest :=
      List.flatMap_cons
    rw [doubled, foldlM_append_of_eq front, ih, List.append_assoc, List.singleton_append]

/-- Where reading stands behind a field that has been written. -/
def placeBehind (field : List Char) : Place := if needsQuotes field then .closed else .bare

theorem foldlM_writeField (field : List Char) :
    (writeField field).foldlM step ⟨records, fields, [], .bare⟩ =
      some ⟨records, fields, field, placeBehind field⟩ := by
  unfold writeField placeBehind
  split
  · have opened : step ⟨records, fields, [], .bare⟩ '"' = some ⟨records, fields, [], .quoted⟩ := rfl
    have closed : step ⟨records, fields, field, .quoted⟩ '"' =
        some ⟨records, fields, field, .closed⟩ := rfl
    have between := foldlM_doubleQuotes records fields field []
    rw [quote, foldlM_cons_of_eq opened, foldlM_append_of_eq between, List.nil_append,
      foldlM_cons_of_eq closed]
    rfl
  · rename_i plain
    exact foldlM_plain records fields (Bool.eq_false_iff.2 plain) []

/-- A comma ends the field that has been written. -/
theorem step_comma (field : List Char) :
    step ⟨records, fields, field, placeBehind field⟩ ',' =
      some ⟨records, fields ++ [field], [], .bare⟩ := by
  unfold placeBehind
  split <;> rfl

/-- A line feed ends the field that has been written and the record, unless this is an empty
line. -/
theorem step_lineFeed {field : List Char} (full : fields ≠ [] ∨ field ≠ []) :
    step ⟨records, fields, field, placeBehind field⟩ '\n' =
      some ⟨records ++ [fields ++ [field]], [], [], .bare⟩ := by
  have ended : ∀ place, endRecord ⟨records, fields, field, place⟩ =
      ⟨records ++ [fields ++ [field]], [], [], .bare⟩ := by
    intro place
    unfold endRecord
    split
    · rename_i same
      cases same
      simp at full
    · rfl
  unfold placeBehind
  split
  · exact congrArg some (ended _)
  · exact congrArg some (ended _)

/-! ### Records -/

/-- The fields of a record are read one after another, and the line feed behind them ends the
record. -/
theorem foldlM_fields (field : List Char) (rest : List (List Char))
    (full : fields ≠ [] ∨ field :: rest ≠ [[]]) :
    ([','].intercalate ((field :: rest).map writeField) ++ ['\n']).foldlM step
        ⟨records, fields, [], .bare⟩ =
      some ⟨records ++ [fields ++ field :: rest], [], [], .bare⟩ := by
  induction rest generalizing field fields with
  | nil =>
    have full : fields ≠ [] ∨ field ≠ [] := by simpa using full
    have alone : [','].intercalate ([field].map writeField) = writeField field := by
      simp [List.intercalate]
    rw [alone, foldlM_append_of_eq (foldlM_writeField records fields field),
      foldlM_cons_of_eq (step_lineFeed records fields full)]
    rfl
  | cons next rest ih =>
    have more : [','].intercalate ((field :: next :: rest).map writeField) =
        writeField field ++ ',' :: [','].intercalate ((next :: rest).map writeField) := by
      simp [List.intercalate]
    rw [more, List.append_assoc, foldlM_append_of_eq (foldlM_writeField records fields field),
      List.cons_append, foldlM_cons_of_eq (step_comma records fields field),
      ih (fields ++ [field]) next (.inl (by simp)),
      List.append_assoc, List.singleton_append]

/-- A record that has been written is read as one record. -/
theorem foldlM_writeRecord (record : List (List Char)) :
    (writeRecord record).foldlM step ⟨records, [], [], .bare⟩ =
      some ⟨records ++ [record], [], [], .bare⟩ := by
  unfold writeRecord
  split
  · rfl
  · rename_i full
    cases record with
    | nil => rfl
    | cons field rest => exact foldlM_fields records [] field rest (.inr full)

theorem foldlM_flatMap_writeRecord (more : List (List (List Char))) :
    (more.flatMap writeRecord).foldlM step ⟨records, [], [], .bare⟩ =
      some ⟨records ++ more, [], [], .bare⟩ := by
  induction more generalizing records with
  | nil => simp
  | cons record rest ih =>
    rw [List.flatMap_cons, foldlM_append_of_eq (foldlM_writeRecord records record),
      ih, List.append_assoc, List.singleton_append]

end Reading

/-- Records are read back from what is written for them, whatever characters their fields have. -/
theorem read_write (records : List (List String)) : read (write records) = some records := by
  have written : (write records).toList =
      (records.map (·.map String.toList)).flatMap writeRecord := by
    rw [write, String.toList_ofList, List.flatMap_map]
  have back : (records.map (·.map String.toList)).map (·.map String.ofList) = records := by
    simp [Function.comp_def]
  rw [read, written, Reading.start, Reading.foldlM_flatMap_writeRecord,
    Option.bind_some, List.nil_append, Reading.whole?, back]

/-- Different tables have different texts. -/
theorem write_injective {records records' : List (List String)}
    (same : write records = write records') : records = records' := by
  have read : some records = some records' := by rw [← read_write, ← read_write, same]
  exact Option.some.inj read

end Tabulate.Csv
