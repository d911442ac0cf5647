import Rollup.Answer.Reader
import Rollup.Json.Printer
import Rollup.Plan.Basic
import Rollup.Text.Blank

/-!
# Tables

A result is shown as a table: a row for each innermost bucket, or for each document.
Cells are JSON values, with whole numbers as integers.
-/

namespace Rollup

structure Table where
  columns : List String
  rows : List (List Json)
deriving Repr

namespace Answer

open Plan (Column)

/-!
# Cells
-/

def numberCell (x : Float) : Json :=
  if Number.isIntegral x && x.abs < 9e15 then .int (Number.truncateInt64 x) else Json.ofFloat x

def numberCell? : Option Float -> Json
  | some x => numberCell x
  | none => .null

def BucketHead.label (head : BucketHead) : Json :=
  match head.keyText, head.key with
  | some text, _ => .str text
  | none, .float x => numberCell x
  | none, key => key

def Stats.cell (stats : Stats) : Json :=
  Json.ofFields
    [ ("count", .ofNat stats.count)
    , ("min", numberCell? stats.min)
    , ("max", numberCell? stats.max)
    , ("avg", numberCell? stats.avg)
    , ("sum", numberCell stats.sum) ]

mutual

def Value.cell : Value -> Json
  | .missing => .null
  | .number x => numberCell x
  | .stats stats => stats.cell
  | .percentiles values =>
      Json.ofFields (values.map (fun (name, x) => (name, numberCell? x)))
  | .hits sources => .arr sources
  | .buckets rows => .arr (bucketCells rows)

def bucketCells : List (BucketHead × List (String × Value)) -> List Json
  | [] => []
  | (head, row) :: rest =>
      Json.ofFields
        ([("key", head.label), ("doc_count", .ofNat head.docCount)] ++ rowCells row)
        :: bucketCells rest

def rowCells : List (String × Value) -> List (String × Json)
  | [] => []
  | (name, value) :: rest => (name, Value.cell value) :: rowCells rest

end

def rowObject (row : Row) : Json :=
  Json.ofFields (rowCells row)

/-!
# Rows of buckets
-/

def leafCells (columns : List Column) (labels : List Json) (row : Row) : List Json :=
  labels ++ (columns.drop labels.length).map (fun column =>
    ((row.lookup column.field).map Value.cell).getD .null)

mutual

def valueRows? (columns : List Column) (labels : List Json) : Value -> Option (List (List Json))
  | .buckets rows => some (bucketTableRows columns labels rows)
  | _ => none

def bucketTableRows (columns : List Column) (labels : List Json) :
    List (BucketHead × List (String × Value)) -> List (List Json)
  | [] => []
  | (head, row) :: rest =>
      (match innerRows? columns (labels ++ [head.label]) row with
        | some rows => rows
        | none => [leafCells columns (labels ++ [head.label]) row])
        ++ bucketTableRows columns labels rest

def innerRows? (columns : List Column) (labels : List Json) :
    List (String × Value) -> Option (List (List Json))
  | [] => none
  | (_, value) :: rest =>
      match valueRows? columns labels value with
      | some rows => some rows
      | none => innerRows? columns labels rest

end

def tableRows (columns : List Column) (row : Row) : List (List Json) :=
  (innerRows? columns [] row).getD [leafCells columns [] row]

/-!
# Rows of documents
-/

def follow : List String -> Json -> Option Json
  | [], value => some value
  | key :: keys, value => (value.field? key).bind (follow keys)

/-- Value of a field: by its whole name, else along its points. -/
def lookupField (source : Json) (path : String) : Option Json :=
  source.field? path <|> follow (path.splitOn ".") source

def documentCell (source : Json) (column : Column) : Json :=
  match lookupField source column.field with
  | some (.float x) => numberCell x
  | some value => value
  | none => .null

def sourceKeys (sources : List Json) : List String :=
  (fieldMap ((sources.flatMap (fun source => source.toFields?.getD [])).map
    (fun entry => (entry.1, ())))).map (fun entry => entry.1)

/-- The columns given, or else a column for each key of the documents. -/
def hitColumns (columns : List Column) (found : Hits) : List Column :=
  if columns.isEmpty then (sourceKeys found.sources).map Column.same else columns

def table (answer : Answer) (columns : List Column) : Table :=
  match answer with
  | .aggregations row =>
      { columns := columns.map Column.name, rows := tableRows columns row }
  | .hits found =>
      let shown := hitColumns columns found
      { columns := shown.map Column.name
        rows := found.sources.map (fun source => shown.map (documentCell source)) }

end Answer

namespace Table

/-- Rows as objects; of two columns with one name the last is kept. -/
def json (table : Table) : Json :=
  .arr (table.rows.map (fun row => Json.ofFields (table.columns.zip row)))

/-!
# Plain text
-/

def cellText : Json -> String
  | .null => ""
  | .str text => text
  | value => value.text

def widen : List Nat -> List String -> List Nat
  | width :: widths, cell :: cells => max width cell.length :: widen widths cells
  | widths, _ => widths

def widths (columns : List String) (rows : List (List String)) : List Nat :=
  rows.foldl widen (columns.map String.length)

def padRight (width : Nat) (text : String) : String :=
  text ++ String.ofList (List.replicate (width - text.length) ' ')

def trimRight (text : String) : String :=
  String.ofList (Text.trimEnd text.toList)

def renderLine (widths : List Nat) (cells : List String) : String :=
  trimRight
    (String.intercalate " | " ((widths.zip cells).map (fun (width, cell) => padRight width cell)))

def renderRule (widths : List Nat) : String :=
  String.intercalate "-+-" (widths.map (fun width => String.ofList (List.replicate width '-')))

/-- Aligned columns under a heading, and the number of rows. -/
def render (table : Table) : String :=
  let cells := table.rows.map (fun row => row.map cellText)
  let widths := widths table.columns cells
  let lines := [renderLine widths table.columns, renderRule widths] ++ cells.map (renderLine widths)
  String.join (lines.map (fun line => line ++ "\n")) ++ s!"({table.rows.length} rows)\n"

end Table
end Rollup
