import LogDigest.Record.Basic

/-!
# Tables

A table is a row of names and a row for every record; commas separate cells and a line feed ends a
row. A cell stands in quotes if it holds a comma, a quote, a carriage return or a line feed, and
then its quotes are doubled.

The text is made of tokens, the doubled quote being the only one of two characters.
-/

namespace LogDigest.Csv

/-- What is written at once. -/
abbrev Token := List Char

def needsQuotes (cell : List Char) : Bool :=
  cell.any fun c => c = ',' || c = '"' || c = '\r' || c = '\n'

/-- A character inside quotes. -/
def quotedChar (c : Char) : Token := if c = '"' then ['"', '"'] else [c]

def cellTokens (cell : List Char) : List Token :=
  if needsQuotes cell then ['"'] :: cell.map quotedChar ++ [['"']] else cell.map fun c => [c]

def rowTokens (cells : List String) : List Token :=
  [[',']].intercalate (cells.map fun cell => cellTokens cell.toList) ++ [['\n']]

def tokens (rows : List (List String)) : List Token := rows.flatMap rowTokens

def text (rows : List (List String)) : List Char := (tokens rows).flatten

/-- The names of the columns. -/
def header : List String :=
  ["id", "timestamp", "level", "message", "sourceIp", "request", "statusCode", "threadId", "source",
   "user", "size"]

/-- The cells of a record; what is absent is empty. -/
def cells (r : Record) : List String :=
  [toString r.id.value.toNat, r.timestamp.toMillis, r.level, r.message, r.sourceIp.getD "",
   r.request.getD "", toString r.statusCode.toInt,
   (r.threadId.map fun n => toString n.toInt).getD "", r.source.getD "", r.user.getD "",
   (r.size.map fun n => toString n.toNat).getD ""]

/-- The rows of records below the names of the columns. -/
def rows (records : List Record) : List (List String) := header :: records.map cells

end LogDigest.Csv
