import SourceTally.Proofs.Json.RoundTrip
import SourceTally.Report.Table

/- Reports as JSON texts. A report whose integers have no more digits than the limit is written, and
   any other is refused. Reading such a text gives back the document that was written, and the document
   holds the whole report: from it the counts, the files and the files left out can be taken again under
   their names. -/
namespace SourceTally

namespace Json

def member? (name : String) : Json → Option Json
  | object members => Assoc.get? members name
  | _ => none

def items? : Json → Option (List Json)
  | array items => some items
  | _ => none

def text? : Json → Option String
  | string s => some s
  | _ => none

def integer? : Json → Option Int
  | number n => some n
  | _ => none

def count (document : Json) (name : String) : Int :=
  ((document.member? name).bind integer?).getD 0

end Json

namespace Report

def statisticsOf? (document : Json) : Option Statistics := do
  let lines ← document.member? "lines"
  let characters ← document.member? "characters"
  return { lines := .ofFields lines.count, characters := .ofFields characters.count }

def fileOf? (document : Json) : Option (FileName × Statistics) := do
  let path ← (← document.member? "path").text?
  return (⟨.str path⟩, ← statisticsOf? document)

def skippedOf? (document : Json) : Option (String × String) := do
  return (← (← document.member? "path").text?, ← (← document.member? "reason").text?)

/-- The report that a document holds, if the number of files that it tells is right. -/
def ofDocument? (document : Json) : Option Report := do
  let summary ← document.member? "summary"
  let files ← (← (← document.member? "files").items?).mapM fileOf?
  let skipped ← (← (← document.member? "skipped").items?).mapM skippedOf?
  if summary.count "files" = files.length then
    return { files, totals := ← statisticsOf? summary, skipped }
  else none

theorem count_ofCounts (fields : List (String × Int)) (name : String) :
    (Json.ofCounts fields).count name = (Assoc.get? fields name).getD 0 := by
  induction fields with
  | nil => rfl
  | cons field fields ih =>
    simp only [Json.count, Json.member?, Json.ofCounts, Assoc.get?, List.map_cons,
      List.find?_cons] at ih ⊢
    cases same : field.1 == name with
    | true => rfl
    | false => exact ih

theorem lines_ofFields (n : LineCounts) : .ofFields (Json.ofCounts n.fields).count = n := by
  simp only [LineCounts.ofFields, count_ofCounts]
  rfl

theorem characters_ofFields (n : CharCounts) : .ofFields (Json.ofCounts n.fields).count = n := by
  simp only [CharCounts.ofFields, count_ofCounts]
  rfl

theorem statisticsOf?_counts {name : String} (lines : name ≠ "lines")
    (characters : name ≠ "characters") (document : Json) (statistics : Statistics) :
    statisticsOf? (.object ((name, document) :: countsJson statistics)) = some statistics := by
  simp [statisticsOf?, Json.member?, Assoc.get?, countsJson, lines, characters, lines_ofFields,
    characters_ofFields]

theorem fileOf?_fileJson {file : FileName × Statistics} {name : String}
    (named : file.1.value = .str name) : fileOf? (fileJson file) = some file := by
  have counts := statisticsOf?_counts (by decide : "path" ≠ "lines") (by decide) (.string name) file.2
  obtain ⟨⟨value⟩, statistics⟩ := file
  obtain rfl : value = .str name := named
  simp [fileOf?, fileJson, Json.ofValue, Json.member?, Assoc.get?, Json.text?, counts]

theorem skippedOf?_skippedJson (entry : String × String) :
    skippedOf? (skippedJson entry) = some entry := by
  simp [skippedOf?, skippedJson, Json.member?, Assoc.get?, Json.text?]

theorem mapM_map {α : Type} {write : α → Json} {read : Json → Option α} {items : List α}
    (each : ∀ item ∈ items, read (write item) = some item) :
    (items.map write).mapM read = some items := by
  induction items with
  | nil => rfl
  | cons item items ih =>
    obtain ⟨first, others⟩ := List.forall_mem_cons.1 each
    simp [List.mapM_cons, first, ih others]

variable {r : Report}

theorem ofDocument?_toJson (named : ∀ file ∈ r.files, ∃ name, file.1.value = .str name) :
    ofDocument? r.toJson = some r := by
  have files : (r.files.map fileJson).mapM fileOf? = some r.files := by
    apply mapM_map
    intro file member
    obtain ⟨name, text⟩ := named file member
    exact fileOf?_fileJson text
  have skipped : (r.skipped.map skippedJson).mapM skippedOf? = some r.skipped :=
    mapM_map fun entry _ => skippedOf?_skippedJson entry
  -- the number of files stands beside the totals and hides none of their names
  have totals := statisticsOf?_counts (by decide : "files" ≠ "lines") (by decide)
    (.number r.files.length) r.totals
  simp [ofDocument?, toJson, Json.member?, Assoc.get?, Json.items?, Json.count, Json.integer?, files,
    skipped, totals]

theorem whole_counts (fields : List (String × Int)) : Json.Whole (.ofCounts fields) := by
  apply Json.Whole.object
  intro member among
  obtain ⟨field, -, rfl⟩ := List.mem_map.1 among
  exact .number field.2

theorem whole_beside {document : Json} (whole : document.Whole) (name : String)
    (statistics : Statistics) :
    Json.Whole (.object ((name, document) :: countsJson statistics)) := by
  apply Json.Whole.object
  simp only [countsJson, List.forall_mem_cons]
  exact ⟨whole, whole_counts _, whole_counts _, by simp⟩

theorem whole_toJson (named : ∀ file ∈ r.files, ∃ name, file.1.value = .str name) :
    r.toJson.Whole := by
  have files : ∀ document ∈ r.files.map fileJson, document.Whole := by
    intro document among
    obtain ⟨file, member, rfl⟩ := List.mem_map.1 among
    obtain ⟨name, text⟩ := named file member
    apply whole_beside
    rw [text]
    exact .string name
  have skipped : ∀ document ∈ r.skipped.map skippedJson, document.Whole := by
    intro document among
    obtain ⟨entry, -, rfl⟩ := List.mem_map.1 among
    apply Json.Whole.object
    simp only [List.forall_mem_cons]
    exact ⟨.string _, .string _, by simp⟩
  apply Json.Whole.object
  simp only [List.forall_mem_cons]
  exact ⟨whole_beside (.number _) _ _, .array files, .array skipped, by simp⟩

def integers (r : Report) : List Int :=
  (r.files.length : Int) ::
    (r.totals :: r.files.map (·.2)).flatMap fun statistics =>
      (statistics.lines.fields ++ statistics.characters.fields).map (·.2)

theorem numbers_beside (name : String) (document : Json) (statistics : Statistics) :
    Json.numbers (.object ((name, document) :: countsJson statistics)) =
      document.numbers ++
        (statistics.lines.fields ++ statistics.characters.fields).map (·.2) := by
  simp [Json.numbers, Json.memberNumbers, countsJson, Json.ofCounts, LineCounts.fields,
    CharCounts.fields]

theorem itemNumbers_map {α : Type} (write : α → Json) (items : List α) :
    Json.itemNumbers (items.map write) = items.flatMap fun item => (write item).numbers := by
  induction items with
  | nil => rfl
  | cons item items ih => rw [List.map_cons, Json.itemNumbers, ih, List.flatMap_cons]

theorem numbers_toJson (named : ∀ file ∈ r.files, ∃ name, file.1.value = .str name) :
    r.toJson.numbers = r.integers := by
  -- a name that is a text adds no number to those of its file, nor does a file that was left out
  have files : Json.itemNumbers (r.files.map fileJson) = (r.files.map (·.2)).flatMap fun statistics =>
      (statistics.lines.fields ++ statistics.characters.fields).map (·.2) := by
    rw [itemNumbers_map, List.flatMap_map]
    apply List.flatMap_congr
    intro file member
    obtain ⟨name, text⟩ := named file member
    rw [fileJson, numbers_beside, text]
    rfl
  have skipped : Json.itemNumbers (r.skipped.map skippedJson) = [] := by
    rw [itemNumbers_map, List.flatMap_eq_nil_iff]
    intro entry _
    rfl
  have parts : r.toJson.numbers =
      Json.numbers (.object (("files", .number r.files.length) :: countsJson r.totals)) ++
        (Json.itemNumbers (r.files.map fileJson) ++
          (Json.itemNumbers (r.skipped.map skippedJson) ++ [])) := rfl
  rw [parts, numbers_beside, files, skipped, integers, List.flatMap_cons, List.append_nil,
    List.append_nil, List.append_assoc]
  rfl

theorem render_short (named : ∀ file ∈ r.files, ∃ name, file.1.value = .str name)
    (short : ∀ n ∈ r.integers, Text.digitCount n ≤ Text.digitLimit) :
    r.render true = .ok r.toJson.text := by
  have written : r.toJson.numbers.all Text.isWritable = true :=
    numbers_toJson named ▸ Text.all_isWritable short
  simp [render, Json.render, written]

theorem render_overlong (named : ∀ file ∈ r.files, ∃ name, file.1.value = .str name) {n : Int}
    (member : n ∈ r.integers) (long : Text.digitLimit < Text.digitCount n) :
    r.render true = .error .tooManyDigits := by
  have refused : r.toJson.numbers.all Text.isWritable = false :=
    numbers_toJson named ▸ Text.not_all_isWritable member long
  simp [render, Json.render, refused]

/-- The text of a report whose files have texts as names and whose integers have no more digits than
    the limit is read back to its document, and the document to the files in order with all their
    counts, the totals and the files left out. With a longer integer there is no text. -/
theorem report_read_back (c : Counter) (skipped : List (String × String))
    (named : ∀ file ∈ c.files, ∃ name, file.1.value = .str name) :
    ((∀ n ∈ (ofCounter c skipped).integers, Text.digitCount n ≤ Text.digitLimit) →
      ∃ text, (ofCounter c skipped).render true = .ok text ∧
        Json.read text = some (ofCounter c skipped).toJson ∧
        ofDocument? (ofCounter c skipped).toJson =
          some { files := c.files, totals := c.totals, skipped }) ∧
    ((∃ n ∈ (ofCounter c skipped).integers, Text.digitLimit < Text.digitCount n) →
      (ofCounter c skipped).render true = .error .tooManyDigits) := by
  constructor
  · intro short
    exact ⟨_, render_short named short, Json.read_text (whole_toJson named),
      ofDocument?_toJson named⟩
  · rintro ⟨n, member, long⟩
    exact render_overlong named member long

def oddlyNamed : Counter where
  files :=
    [(⟨.str "\"\\\u0007\u007f😀"⟩, { lines := { total := -3 } }), (⟨.str ""⟩, {})]
  totals := { characters := { total := 10000000000000000000000000000000000000000 } }

theorem oddlyNamed_read_back :
    (∀ file ∈ oddlyNamed.files, ∃ name, file.1.value = .str name) ∧
      (∀ n ∈ (ofCounter oddlyNamed [("\n", "é")]).integers,
        Text.digitCount n ≤ Text.digitLimit) ∧
      ∃ text, (ofCounter oddlyNamed [("\n", "é")]).render true = .ok text ∧
        Json.read text = some (ofCounter oddlyNamed [("\n", "é")]).toJson ∧
        ofDocument? (ofCounter oddlyNamed [("\n", "é")]).toJson =
          some { files := oddlyNamed.files, totals := oddlyNamed.totals, skipped := [("\n", "é")] } := by
  have named : ∀ file ∈ oddlyNamed.files, ∃ name, file.1.value = .str name := by simp [oddlyNamed]
  have short : ∀ n ∈ (ofCounter oddlyNamed [("\n", "é")]).integers,
      Text.digitCount n ≤ Text.digitLimit := by
    decide +kernel
  exact ⟨named, short, (report_read_back oddlyNamed _ named).1 short⟩

def overlongCounter : Counter where
  totals := { characters := { total := Text.overlong } }

theorem overlongCounter_not_written :
    (∀ file ∈ overlongCounter.files, ∃ name, file.1.value = .str name) ∧
      ¬∃ text, (ofCounter overlongCounter []).render true = .ok text := by
  have named : ∀ file ∈ overlongCounter.files, ∃ name, file.1.value = .str name := by
    simp [overlongCounter]
  have member : Text.overlong ∈ (ofCounter overlongCounter []).integers := by
    simp [overlongCounter, ofCounter, integers, CharCounts.fields]
  refine ⟨named, ?_⟩
  rintro ⟨text, written⟩
  rw [render_overlong named member Text.digitLimit_lt_overlong] at written
  cases written

end Report

end SourceTally
