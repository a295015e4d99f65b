import Mathlib.Algebra.Ring.Nat
import Mathlib.Data.List.Forall2
import SourceTally.Proofs.Failure
import SourceTally.Proofs.Json.Spelling
import SourceTally.Proofs.Text.Blank
import SourceTally.Report.Table

/- The columns of a table. In the heading, in the rules under and over the files, in the row of each
   file and in the row of the totals a column takes the same places, and what stands there is the whole
   cell with blanks on one side. There is no table with an integer that has too many digits. -/
namespace SourceTally.Report

def offset (ws : List Nat) (i : Nat) : Nat := ((ws.take i).map (· + 2)).sum

def slot (ws : List Nat) (line : List Char) (i : Nat) : List Char :=
  (line.drop (offset ws i)).take (ws.getD i 0)

def gap (ws : List Nat) (line : List Char) (i : Nat) : List Char :=
  (line.drop (offset ws i + ws.getD i 0)).take 2

/-- A line that consists of columns of the given widths with two blanks between them. -/
structure InColumns (ws : List Nat) (part : Nat → List Char) (line : List Char) : Prop where
  length : line.length = ws.sum + 2 * (ws.length - 1)
  slots : ∀ i < ws.length, slot ws line i = part i
  gaps : ∀ i, i + 1 < ws.length → gap ws line i = [' ', ' ']

section Divided

theorem offset_succ (w : Nat) (ws : List Nat) (i : Nat) :
    offset (w :: ws) (i + 1) = w + 2 + offset ws i := by
  simp [offset]

theorem drop_beyond (part line : List Char) (n : Nat) :
    (part ++ ' ' :: ' ' :: line).drop (part.length + 2 + n) = line.drop n := by
  rw [Nat.add_assoc, List.drop_length_add_append, Nat.add_comm]
  rfl

theorem slot_succ (ws : List Nat) (part line : List Char) (i : Nat) :
    slot (part.length :: ws) (part ++ ' ' :: ' ' :: line) (i + 1) = slot ws line i := by
  rw [slot, offset_succ, drop_beyond]
  rfl

theorem gap_succ (ws : List Nat) (part line : List Char) (i : Nat) :
    gap (part.length :: ws) (part ++ ' ' :: ' ' :: line) (i + 1) = gap ws line i := by
  rw [gap, offset_succ, Nat.add_assoc, drop_beyond]
  rfl

theorem divided_cons_cons (part next : Cell) (parts : List Cell) :
    divided (part :: next :: parts) = part ++ ' ' :: ' ' :: divided (next :: parts) := by
  simp [divided, List.intercalate_cons_cons]

theorem inColumns_divided (parts : List Cell) :
    InColumns (parts.map List.length) (parts.getD · []) (divided parts) := by
  induction parts with
  | nil => exact ⟨rfl, by simp, by simp⟩
  | cons part parts ih =>
    cases parts with
    | nil => exact ⟨by simp [divided], by simp [slot, offset, divided], by simp⟩
    | cons next parts =>
      -- the later columns are those of the line that begins after this part and two blanks
      rw [divided_cons_cons]
      refine ⟨?_, ?_, ?_⟩
      · have rest := ih.length
        simp at rest ⊢
        omega
      · intro i inside
        cases i with
        | zero => simp [slot, offset]
        | succ i =>
          rw [List.map_cons, slot_succ]
          exact ih.slots i (Nat.lt_of_succ_lt_succ inside)
      · intro i inside
        cases i with
        | zero => simp [gap, offset]
        | succ i =>
          rw [List.map_cons, gap_succ]
          exact ih.gaps i (Nat.lt_of_succ_lt_succ inside)

def lastChar? (cells : List Cell) : Option Char := cells.getLast?.bind List.getLast?

theorem divided_last {parts : List Cell} {c : Char} (last : lastChar? parts = some c) :
    (divided parts).getLast? = some c := by
  induction parts with
  | nil => cases last
  | cons part parts ih =>
    cases parts with
    | nil => simpa [divided, lastChar?] using last
    | cons next parts =>
      have rest := ih last
      simp [divided_cons_cons, List.getLast?_append, List.getLast?_cons, rest]

end Divided

section Alignment

abbrev Fits (cells : List Cell) (ws : List Nat) : Prop :=
  List.Forall₂ (fun cell w => cell.length ≤ w) cells ws

/-- A cell between blanks that fill its column, all on its right in the first column and all on its
    left in the others. -/
def placed (ws : List Nat) (cells : List Cell) (i : Nat) : Cell :=
  if i = 0 then padRight (ws.getD i 0) (cells.getD i []) else padLeft (ws.getD i 0) (cells.getD i [])

variable {cells : List Cell} {ws : List Nat}

theorem zipWith_lengths (fits : Fits cells ws) :
    (List.zipWith padLeft ws cells).map List.length = ws := by
  induction fits with
  | nil => rfl
  | cons fit _ ih => simp [padLeft, ih, fit]

theorem zipWith_getD (fits : Fits cells ws) (i : Nat) :
    (List.zipWith padLeft ws cells).getD i [] = padLeft (ws.getD i 0) (cells.getD i []) := by
  induction fits generalizing i with
  | nil => rfl
  | cons fit _ ih =>
    cases i with
    | zero => rfl
    | succ i => exact ih i

theorem zipWith_last (fits : Fits cells ws) {c : Char} (last : lastChar? cells = some c) :
    lastChar? (List.zipWith padLeft ws cells) = some c := by
  induction fits with
  | nil => cases last
  | cons fit rest ih =>
    cases rest with
    | nil =>
      simp only [lastChar?, List.getLast?_singleton, Option.bind_some] at last
      simp [lastChar?, padLeft, List.getLast?_append, last]
    | cons fit rest => exact ih last

theorem align_lengths (fits : Fits cells ws) : (align ws cells).map List.length = ws := by
  cases fits with
  | nil => rfl
  | cons fit rest => simp [align, padRight, zipWith_lengths rest, fit]

theorem align_getD (fits : Fits cells ws) {i : Nat} (inside : i < ws.length) :
    (align ws cells).getD i [] = placed ws cells i := by
  cases fits with
  | nil => cases inside
  | cons fit rest =>
    cases i with
    | zero => rfl
    | succ i => exact zipWith_getD rest i

theorem formatRow_eq {first : Cell} {c : Char} (fits : Fits (first :: cells) ws)
    (last : lastChar? cells = some c) (visible : Text.isBlank c = false) :
    formatRow ws (first :: cells) = divided (align ws (first :: cells)) := by
  -- the last cell is aligned to the right, so the line ends where the cell does
  have ending : (divided (align ws (first :: cells))).getLast? = some c := by
    apply divided_last
    cases fits with
    | cons fit rest =>
      cases rest with
      | nil => cases last
      | cons next rest => exact zipWith_last (.cons next rest) last
  apply Text.trimRight_of_last
  intro d final
  rw [ending] at final
  cases final
  exact visible

theorem inColumns_align (fits : Fits cells ws) :
    InColumns ws (placed ws cells) (divided (align ws cells)) := by
  have parts := inColumns_divided (align ws cells)
  rw [align_lengths fits] at parts
  exact ⟨parts.length, fun i inside => (parts.slots i inside).trans (align_getD fits inside),
    parts.gaps⟩

theorem inColumns_separator (ws : List Nat) :
    InColumns ws (fun i => List.replicate (ws.getD i 0) '-') (separator ws) := by
  have parts := inColumns_divided (ws.map (List.replicate · '-'))
  simp only [List.map_map, Function.comp_def, List.length_replicate, List.map_id'] at parts
  refine ⟨parts.length, ?_, parts.gaps⟩
  intro i inside
  rw [separator, parts.slots i inside]
  simp [inside]

end Alignment

section Widths

theorem widthOf_spec {cells : List Cell} (nonempty : cells ≠ []) :
    (∀ cell ∈ cells, cell.length ≤ widthOf cells) ∧ ∃ cell ∈ cells, cell.length = widthOf cells := by
  have present : cells.map List.length ≠ [] := by simpa using nonempty
  obtain ⟨width, largest⟩ := Option.isSome_iff_exists.mp (List.isSome_max?_of_ne_nil present)
  have same : widthOf cells = width := by simp [widthOf, List.foldl_max, largest]
  simpa [same] using (List.max?_eq_some_iff.mp largest).symm

theorem widths_getD (rows : List (List Cell)) {i : Nat} (inside : i < header.length) :
    (widths rows).getD i 0 = widthOf (rows.map (·.getD i [])) := by
  simp [widths, inside]

theorem length_widths (rows : List (List Cell)) : (widths rows).length = header.length := by
  simp [widths]

variable {rows : List (List Cell)} {cells : List Cell}

theorem widths_spec (nonempty : rows ≠ []) {i : Nat} (inside : i < header.length) :
    (∀ cells ∈ rows, (cells.getD i []).length ≤ (widths rows).getD i 0) ∧
      ∃ cells ∈ rows, (cells.getD i []).length = (widths rows).getD i 0 := by
  have present : rows.map (·.getD i []) ≠ [] := by simpa using nonempty
  have column := widthOf_spec present
  simp only [widths_getD rows inside]
  simpa using column

theorem fits_widths (member : cells ∈ rows) (full : cells.length = header.length) :
    Fits cells (widths rows) := by
  rw [Fits, List.forall₂_iff_get]
  refine ⟨by rw [full, length_widths], ?_⟩
  intro i inside within
  have wide := (widths_spec (List.ne_nil_of_mem member) (full ▸ inside)).1 cells member
  simpa [inside, within] using wide

end Widths

section Numbers

def shown? (cell : Cell) : Option Int :=
  match Json.word? (cell.dropWhile (· == ' ')) with
  | some (.number n) => some n
  | _ => none

theorem toString_visible (n : Int) : ∀ c ∈ (toString n).toList, Text.isBlank c = false := by
  intro c member
  rcases Json.toString_chars n c member with rfl | digit
  · decide
  · simp only [Char.isDigit_iff_toNat, Char.reduceToNat] at digit
    exact Text.isBlank_of_range (by omega) (by omega)

theorem toString_ne_nil (n : Int) : (toString n).toList ≠ [] := by
  rw [Json.toString_toList]
  split <;> simp

theorem shown?_padLeft (width : Nat) (n : Int) :
    shown? (padLeft width (toString n).toList) = some n := by
  have kept : (toString n).toList.dropWhile (· == ' ') = (toString n).toList := by
    rw [List.dropWhile_eq_self_iff]
    intro some blank
    have visible := toString_visible n _ (List.getElem_mem some)
    rw [eq_of_beq blank] at visible
    revert visible
    decide
  rw [shown?, padLeft, List.dropWhile_append_of_pos (by simp), kept, Json.word?_toString]

end Numbers

section Rows

theorem length_row (name : Cell) (statistics : Statistics) :
    (row name statistics).length = header.length := by
  simp [row, shown, header]

theorem row_getD (name : Cell) (statistics : Statistics) {i : Nat}
    {column : String × (Statistics → Int)} (there : columns[i]? = some column) :
    (row name statistics).getD (i + 1) [] = (toString (column.2 statistics)).toList := by
  simp [row, shown, there]

def Ends (cells : List Cell) : Prop :=
  ∃ first others c, cells = first :: others ∧ lastChar? others = some c ∧ Text.isBlank c = false

theorem ends_header : Ends header := ⟨_, _, 's', rfl, by decide, by decide⟩

theorem ends_row (name : Cell) (statistics : Statistics) : Ends (row name statistics) := by
  let total := (toString statistics.characters.total).toList
  have last : total.getLast? = some (total.getLast (toString_ne_nil _)) :=
    List.getLast?_eq_some_getLast _
  refine ⟨name, _, total.getLast (toString_ne_nil _), rfl, last, ?_⟩
  exact toString_visible _ _ (List.getLast_mem _)

end Rows

section Tables

def fileRows (r : Report) (names : List String) : List (List Cell) :=
  List.zipWith row (names.map String.toList) (r.files.map (·.2))

def tableRows (r : Report) (names : List String) : List (List Cell) :=
  header :: r.fileRows names ++ [r.totalRow]

/-- A table with columns of the given widths. -/
structure Tabulated (r : Report) (names : List String) (ws : List Nat) : Prop where
  text : r.table = .ok (String.ofList (['\n'].intercalate
    (formatRow ws header :: separator ws :: (r.fileRows names).map (formatRow ws) ++
      separator ws :: formatRow ws r.totalRow :: skippedLines r.skipped)))
  count : ws.length = header.length
  /-- Each column is as wide as the longest cell in it. -/
  widest : ∀ i < ws.length,
    (∀ cells ∈ r.tableRows names, (cells.getD i []).length ≤ ws.getD i 0) ∧
      ∃ cells ∈ r.tableRows names, (cells.getD i []).length = ws.getD i 0
  rules : InColumns ws (fun i => List.replicate (ws.getD i 0) '-') (separator ws)
  rows : ∀ cells ∈ r.tableRows names, InColumns ws (placed ws cells) (formatRow ws cells)
  /-- There are no blanks to take away at the end of a row. -/
  untrimmed : ∀ cells ∈ r.tableRows names, formatRow ws cells = divided (align ws cells)
  numbers : ∀ name statistics, row name statistics ∈ r.tableRows names →
    ∀ i column, columns[i]? = some column →
      shown? (slot ws (formatRow ws (row name statistics)) (i + 1)) = some (column.2 statistics)

variable {r : Report} {names : List String}

theorem mem_tableRows {cells : List Cell} (member : cells ∈ r.tableRows names) :
    cells = header ∨ ∃ name statistics, cells = row name statistics := by
  simp only [tableRows, List.cons_append, List.mem_cons, List.mem_append, List.not_mem_nil,
    or_false] at member
  rcases member with heading | file | total
  · exact .inl heading
  · obtain ⟨i, inside, rfl⟩ := List.mem_iff_getElem.mp file
    exact .inr ⟨_, _, List.getElem_zipWith⟩
  · exact .inr ⟨_, _, total⟩

theorem length_tableRow {cells : List Cell} (member : cells ∈ r.tableRows names) :
    cells.length = header.length := by
  rcases mem_tableRows member with rfl | ⟨name, statistics, rfl⟩
  · rfl
  · exact length_row name statistics

theorem ends_tableRow {cells : List Cell} (member : cells ∈ r.tableRows names) : Ends cells := by
  rcases mem_tableRows member with rfl | ⟨name, statistics, rfl⟩
  · exact ends_header
  · exact ends_row name statistics

theorem measured_ok {files : List (FileName × Statistics)}
    (named : List.Forall₂ (fun file name => file.1.value = .str name) files names) :
    files.forM (fun file => measured file.1) = .ok () := by
  induction named with
  | nil => rfl
  | @cons file name files names text rest ih =>
    have first : measured file.1 = .ok () := by simp [measured, text]
    rw [List.forM_eq_forM, List.forM_cons, first]
    exact ih

theorem table_ok (named : List.Forall₂ (fun file name => file.1.value = .str name) r.files names)
    (short : ∀ n ∈ r.shownNumbers, Text.digitCount n ≤ Text.digitLimit) :
    r.table =
      .ok (String.ofList (['\n'].intercalate (r.tableLines (names.map String.toList)))) := by
  have cells : r.files.mapM (fun file => nameCell file.1) = .ok (names.map String.toList) := by
    rw [mapM_ok_iff, List.forall₂_map_right_iff]
    apply named.imp
    intro file name text
    simp [nameCell, text]
  simp [table, Text.all_isWritable short, measured_ok named, cells, bind, Except.bind, pure, Except.pure]

theorem table_overlong {n : Int} (member : n ∈ r.shownNumbers)
    (long : Text.digitLimit < Text.digitCount n) : r.table = .error .tooManyDigits := by
  simp [table, Text.not_all_isWritable member long, bind, Except.bind, throw, throwThe, MonadExceptOf.throw]

theorem tabulated (named : List.Forall₂ (fun file name => file.1.value = .str name) r.files names)
    (short : ∀ n ∈ r.shownNumbers, Text.digitCount n ≤ Text.digitLimit) :
    Tabulated r names (widths (r.tableRows names)) := by
  let ws := widths (r.tableRows names)
  have fits : ∀ cells ∈ r.tableRows names, Fits cells ws := fun cells member =>
    fits_widths member (length_tableRow member)
  have untrimmed : ∀ cells ∈ r.tableRows names, formatRow ws cells = divided (align ws cells) := by
    intro cells member
    obtain ⟨first, others, c, rfl, last, visible⟩ := ends_tableRow member
    exact formatRow_eq (fits _ member) last visible
  have rows : ∀ cells ∈ r.tableRows names,
      InColumns ws (placed ws cells) (formatRow ws cells) := by
    intro cells member
    rw [untrimmed cells member]
    exact inColumns_align (fits cells member)
  refine ⟨table_ok named short, length_widths _, ?_, inColumns_separator ws, rows, untrimmed, ?_⟩
  · intro i inside
    exact widths_spec (List.cons_ne_nil _ _) (length_widths _ ▸ inside)
  · intro name statistics member i column there
    have inside : i + 1 < ws.length := by
      rw [length_widths, header, List.length_cons, List.length_map]
      exact Nat.succ_lt_succ (List.getElem?_eq_some_iff.mp there).1
    rw [(rows _ member).slots (i + 1) inside, placed, if_neg (Nat.succ_ne_zero i),
      row_getD name statistics there, shown?_padLeft]

/-- The heading, the rules and all rows of a table are as long as each other and have their columns at
    the same places, if no integer in it has more digits than the limit. Otherwise there is no table. -/
theorem table_in_columns (r : Report) (names : List String)
    (named : List.Forall₂ (fun file name => file.1.value = .str name) r.files names) :
    ((∀ n ∈ r.shownNumbers, Text.digitCount n ≤ Text.digitLimit) → ∃ ws, Tabulated r names ws) ∧
    ((∃ n ∈ r.shownNumbers, Text.digitLimit < Text.digitCount n) →
      r.table = .error .tooManyDigits) := by
  refine ⟨fun short => ⟨_, tabulated named short⟩, ?_⟩
  rintro ⟨n, member, long⟩
  exact table_overlong member long

def uneven : Report where
  files := [(⟨.str " \n  "⟩, { lines := { total := -12345678 } }), (⟨.str ""⟩, {})]
  totals := { characters := { total := 10000000000000000000000000000000000000000 } }
  skipped := [("a", "binary")]

theorem uneven_in_columns :
    List.Forall₂ (fun file name => file.1.value = .str name) uneven.files [" \n  ", ""] ∧
      (∀ n ∈ uneven.shownNumbers, Text.digitCount n ≤ Text.digitLimit) ∧
      ∃ ws, Tabulated uneven [" \n  ", ""] ws := by
  have named : List.Forall₂ (fun file name => file.1.value = .str name) uneven.files
      [" \n  ", ""] :=
    .cons rfl (.cons rfl .nil)
  have short : ∀ n ∈ uneven.shownNumbers, Text.digitCount n ≤ Text.digitLimit := by
    decide +kernel
  exact ⟨named, short, (table_in_columns uneven _ named).1 short⟩

def overlongTotal : Report where
  files := []
  totals := { lines := { total := Text.overlong } }

theorem overlongTotal_has_no_columns :
    List.Forall₂ (fun file name => file.1.value = .str name) overlongTotal.files [] ∧
      ¬∃ ws, Tabulated overlongTotal [] ws := by
  refine ⟨.nil, ?_⟩
  rintro ⟨ws, made⟩
  have member : Text.overlong ∈ overlongTotal.shownNumbers := by
    simp [overlongTotal, shownNumbers, shown, columns]
  have refused := table_overlong member Text.digitLimit_lt_overlong
  rw [made.text] at refused
  cases refused

end Tables

end SourceTally.Report
