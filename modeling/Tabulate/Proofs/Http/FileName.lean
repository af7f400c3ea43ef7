import Tabulate.Http.App
import Tabulate.Proofs.Number.Reading
import Tabulate.Proofs.Query.Normal

/-!
# File names in headers

The file of an exported chart is named in a header, which only takes characters below `U+0100`. The
name keeps letters and digits of any script, and so those of the columns on the axes:
`Query.exportFileName_toValue` says which queries have a name that can be sent.
-/

namespace Tabulate

/-! ### Characters -/

/-- All letters and digits of a text are characters that can be sent in a header. -/
def Latin (s : String) : Prop := ∀ c ∈ s.toList, isAlphanumeric c → c.toNat < 0x100

theorem latin_append {s t : String} : Latin (s ++ t) ↔ Latin s ∧ Latin t := by
  simp only [Latin, String.toList_append, List.forall_mem_append]

theorem latin_of_isHeaderText {s : String} (h : Http.App.isHeaderText s) : Latin s := by
  intro c hc _
  simpa using List.all_eq_true.1 h c hc

theorem latin_numeral (i : Int) : Latin (numeral i) := by
  apply latin_of_isHeaderText
  rw [Http.App.isHeaderText, toList_numeral, List.all_eq_true]
  have digits : ∀ c ∈ Nat.toDigits 10 i.natAbs, decide (c.toNat < 0x100) = true := by
    intro c hc
    have bounds : 48 ≤ c.toNat ∧ c.toNat ≤ 57 :=
      Char.isDigit_iff_toNat.1 (allDigits_toDigits _ c hc)
    rw [decide_eq_true_eq]
    omega
  unfold signed
  split
  · exact List.forall_mem_cons.2 ⟨by decide, digits⟩
  · exact digits

theorem latin_name {a : Aggregation} (known : a.known) : Latin a.name := by
  apply latin_of_isHeaderText
  cases a
  case other => cases known
  all_goals decide

/-- A character stays in a file name, or an underscore takes its place. -/
theorem fileNameChar_lt {c : Char} :
    (fileNameChar c).toNat < 0x100 ↔ (isAlphanumeric c → c.toNat < 0x100) := by
  unfold fileNameChar
  by_cases kept : isAlphanumeric c
  · simp [kept]
  · by_cases mark : c = '-' ∨ c = '_' ∨ c = '.'
    · rcases mark with rfl | rfl | rfl <;> decide +kernel
    · obtain ⟨noHyphen, noUnderscore, noPoint⟩ : c ≠ '-' ∧ c ≠ '_' ∧ c ≠ '.' := by simpa using mark
      simp [kept, noHyphen, noUnderscore, noPoint]

theorem isHeaderText_fileName (stem : String) :
    Http.App.isHeaderText (String.ofList (stem.toList.map fileNameChar) ++ ".csv") ↔
      Latin stem := by
  have extension : (".csv".toList.all fun c => c.toNat < 0x100) = true := by decide
  rw [Http.App.isHeaderText, String.toList_append, List.all_append, extension, Bool.and_true,
    String.toList_ofList, List.all_map, List.all_eq_true]
  simp only [Function.comp_apply, decide_eq_true_eq, fileNameChar_lt]
  rfl

namespace Query

variable {q : Query}

/-! ### File names -/

/-- The name of a query's file can be sent: the query is raw, or all letters and digits of its axes
can be sent. -/
def Sendable (q : Query) : Prop :=
  q.aggregation ≠ .raw → (∀ x ∈ q.xAxis, Latin x) ∧ ∀ y ∈ q.yAxis, Latin y

theorem fieldOr_str {wire : Value} {key default s : String} (held : wire.field key = .str s)
    (full : s ≠ "") : fieldOr wire key default = .ok (.str s) := by
  rw [fieldOr, held, Value.truth_str full]
  rfl

theorem exists_fieldOr {wire : Value} {key default : String} (name : Option String)
    (held : wire.field key = nameValue name) : ∃ v, fieldOr wire key default = .ok v := by
  rw [fieldOr, held]
  cases name <;> exact ⟨_, rfl⟩

theorem exportStem_toValue (q : Query) : exportStem q.toValue = (do
    let x ← fieldOr q.toValue "xAxis" "rows"
    let aggregation ← fieldOr q.toValue "aggregation" "none"
    let named ← (nameValue q.yAxis).truth
    if named && aggregation.text != "none" then
      return aggregation.text ++ "_" ++ (nameValue q.yAxis).text ++ "_by_" ++ x.text
    else return "dataset_" ++ q.datasetId.text) := rfl

theorem exportStem_of_raw (raw : q.aggregation = .raw) :
    exportStem q.toValue = .ok ("dataset_" ++ q.datasetId.text) := by
  obtain ⟨x, named⟩ : ∃ v, fieldOr q.toValue "xAxis" "rows" = .ok v := exists_fieldOr q.xAxis rfl
  have none : fieldOr q.toValue "aggregation" "none" = .ok (.str "none") := by
    apply fieldOr_str _ (by decide)
    rw [← Aggregation.name, ← raw]
    rfl
  rw [exportStem_toValue, named, none]
  cases q.yAxis with
  | none => rfl
  | some y =>
    simp [Value.text, nameValue, bind, Except.bind, Value.truth, Value.truth?]
    rfl

theorem exportStem_of_axes {x y : String} (known : q.aggregation.known)
    (condenses : q.aggregation ≠ .raw) (xAxis : q.xAxis = some x) (yAxis : q.yAxis = some y)
    (hx : x ≠ "") (hy : y ≠ "") :
    exportStem q.toValue = .ok (q.aggregation.name ++ "_" ++ y ++ "_by_" ++ x) := by
  have named : fieldOr q.toValue "xAxis" "rows" = .ok (.str x) := by
    apply fieldOr_str _ hx
    rw [← nameValue, ← xAxis]
    rfl
  have given : fieldOr q.toValue "aggregation" "none" = .ok (.str q.aggregation.name) :=
    fieldOr_str rfl (Wire.name_ne_empty known)
  have truth : (nameValue (some y)).truth = .ok true := Value.truth_str hy
  have other : q.aggregation.name ≠ "none" := by
    intro same
    apply condenses
    rw [← Aggregation.ofName_name known, same]
    rfl
  rw [exportStem_toValue, named, given, yAxis, truth]
  have figure : (q.aggregation.name != "none") = true := by simpa using other
  change (if true && q.aggregation.name != "none" then _ else _) = _
  rw [figure]
  rfl

/-- A query in normal form has a file name. -/
theorem exportFileName_toValue (normal : q.Normal) :
    ∃ name, exportFileName q.toValue = .ok name ∧ (Http.App.isHeaderText name ↔ q.Sendable) := by
  by_cases raw : q.aggregation = .raw
  · refine ⟨_, by rw [exportFileName, exportStem_of_raw raw]; rfl, ?_⟩
    have latin : Latin ("dataset_" ++ q.datasetId.text) := by
      refine latin_append.2 ⟨latin_of_isHeaderText (by decide), ?_⟩
      rcases normal.datasetId with null | ⟨i, int⟩
      · rw [null]
        exact latin_of_isHeaderText (by decide)
      · rw [int]
        exact latin_numeral i
    exact (isHeaderText_fileName _).trans ⟨fun _ condenses => absurd raw condenses, fun _ => latin⟩
  · obtain ⟨hasX, hasY⟩ := normal.axes raw
    obtain ⟨x, xAxis⟩ := Option.isSome_iff_exists.1 hasX
    obtain ⟨y, yAxis⟩ := Option.isSome_iff_exists.1 hasY
    have stem := exportStem_of_axes normal.aggregation raw xAxis yAxis (normal.xAxis x xAxis).1
      (normal.yAxis y yAxis).1
    refine ⟨_, by rw [exportFileName, stem]; rfl, ?_⟩
    have figure : Latin q.aggregation.name := latin_name normal.aggregation
    have between : Latin "_" ∧ Latin "_by_" :=
      ⟨latin_of_isHeaderText (by decide), latin_of_isHeaderText (by decide)⟩
    rw [isHeaderText_fileName]
    simp [latin_append, Sendable, raw, xAxis, yAxis, figure, between, and_comm]

end Query

end Tabulate
