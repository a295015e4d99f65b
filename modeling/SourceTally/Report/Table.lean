import SourceTally.Json.Printer
import SourceTally.Report.Basic

/- Reports as tables. The first column is aligned to the left and the others to the right, and two
   blanks divide the columns. -/
namespace SourceTally.Report

abbrev Cell := List Char

def padRight (width : Nat) (cell : Cell) : Cell :=
  cell ++ List.replicate (width - cell.length) ' '

def padLeft (width : Nat) (cell : Cell) : Cell :=
  List.replicate (width - cell.length) ' ' ++ cell

def columns : List (String × (Statistics → Int)) :=
  [("Lines", (·.lines.total)), ("Source", (·.lines.totalSource)),
    ("Comments", (·.lines.totalComments)), ("Mixed", (·.lines.mixed)),
    ("Blank", (·.lines.whitespace)), ("Empty", (·.lines.empty)),
    ("Characters", (·.characters.total))]

def header : List Cell := "File".toList :: columns.map (·.1.toList)

def shown (statistics : Statistics) : List Int := columns.map fun column => column.2 statistics

def row (name : Cell) (statistics : Statistics) : List Cell :=
  name :: (shown statistics).map fun n => (toString n).toList

def totalRow (r : Report) : List Cell := row s!"Total ({r.files.length} files)".toList r.totals

def widthOf (cells : List Cell) : Nat := (cells.map List.length).foldl max 0

def widths (rows : List (List Cell)) : List Nat :=
  (List.range header.length).map fun column =>
    widthOf (rows.map fun cells => cells.getD column [])

def divided (cells : List Cell) : List Char := [' ', ' '].intercalate cells

def align (columnWidths : List Nat) (cells : List Cell) : List Cell :=
  match columnWidths, cells with
  | width :: widths, cell :: cells => padRight width cell :: List.zipWith padLeft widths cells
  | _, _ => []

def formatRow (columnWidths : List Nat) (cells : List Cell) : List Char :=
  Text.trimRight (divided (align columnWidths cells))

def separator (columnWidths : List Nat) : List Char :=
  divided (columnWidths.map (List.replicate · '-'))

def skippedLines (skipped : List (String × String)) : List (List Char) :=
  if skipped.isEmpty then []
  else
    [] :: s!"Skipped {skipped.length} file(s):".toList ::
      skipped.map fun entry => s!"- {entry.1}: {entry.2}".toList

def tableLines (r : Report) (names : List Cell) : List (List Char) :=
  let rows := List.zipWith row names (r.files.map (·.2))
  let columnWidths := widths (header :: rows ++ [r.totalRow])
  formatRow columnWidths header :: separator columnWidths :: rows.map (formatRow columnWidths) ++
    separator columnWidths :: formatRow columnWidths r.totalRow :: skippedLines r.skipped

def measured (name : FileName) : Except Error Unit :=
  match name.value with
  | .str _ | .list _ | .tuple _ | .mapping _ => .ok ()
  | value => .error (.noLength value.typeName)

def nameCell (name : FileName) : Except Error Cell :=
  match name.value with
  | .str s => .ok s.toList
  | value => .error (.noPadding value.typeName)

def shownNumbers (r : Report) : List Int :=
  r.files.flatMap (fun file => shown file.2) ++ (r.files.length : Int) :: shown r.totals

/-- The table of a report. All integers are written out before any name is measured, and all names are
    measured before any is aligned. -/
def table (r : Report) : Except Error String := do
  if !r.shownNumbers.all Text.isWritable then throw .tooManyDigits
  r.files.forM fun file => measured file.1
  let names ← r.files.mapM fun file => nameCell file.1
  return String.ofList (['\n'].intercalate (r.tableLines names))

def render (r : Report) (asJson : Bool) : Except Error String :=
  if asJson then r.toJson.render else r.table

end SourceTally.Report
