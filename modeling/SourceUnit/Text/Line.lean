/-! Line breaks are CR LF, CR alone and LF alone; no other character breaks a line. -/
namespace SourceUnit.Text

/-- Splits a text at its line breaks, which are dropped. There is always a last piece, empty if the
text ends in a break. -/
def splitBreaks (piece : List Char) (pieces : List (List Char)) : List Char → List (List Char)
  | [] => (piece.reverse :: pieces).reverse
  | '\r' :: '\n' :: rest => splitBreaks [] (piece.reverse :: pieces) rest
  | c :: rest =>
    if c = '\r' ∨ c = '\n' then splitBreaks [] (piece.reverse :: pieces) rest
    else splitBreaks (c :: piece) pieces rest

/-- Drops a last piece that is empty. -/
def dropFinalEmpty (pieces : List (List Char)) : List (List Char) :=
  if pieces.getLast? = some [] then pieces.dropLast else pieces

/-- The lines of a text without their breaks. A final break opens no new line. -/
def lines (s : List Char) : List (List Char) := dropFinalEmpty (splitBreaks [] [] s)

/-- The lines of a text, each with its break. -/
def brokenLines (line : List Char) (done : List (List Char)) : List Char → List (List Char)
  | [] => if line.isEmpty then done.reverse else (line.reverse :: done).reverse
  | '\r' :: '\n' :: rest => brokenLines [] (('\n' :: '\r' :: line).reverse :: done) rest
  | c :: rest =>
    if c = '\r' ∨ c = '\n' then brokenLines [] ((c :: line).reverse :: done) rest
    else brokenLines (c :: line) done rest

/-- Unifies line breaks after the text already read. -/
def unifyAfter (read : List Char) : List Char → List Char
  | [] => read.reverse
  | '\r' :: '\n' :: rest => unifyAfter ('\n' :: read) rest
  | c :: rest => unifyAfter ((if c = '\r' then '\n' else c) :: read) rest

/-- The same text with every line break written as LF. -/
def unifyBreaks (s : List Char) : List Char := unifyAfter [] s

/-- Cuts a text after every LF. -/
def chunksOf (chunk : List Char) (done : List (List Char)) : List Char → List (List Char)
  | [] => if chunk.isEmpty then done.reverse else (chunk.reverse :: done).reverse
  | c :: rest =>
    if c = '\n' then chunksOf [] ((c :: chunk).reverse :: done) rest
    else chunksOf (c :: chunk) done rest

/-- What a reader of lines sees: every break is LF, and each chunk ends after one. -/
def chunks (s : List Char) : List (List Char) := chunksOf [] [] (unifyBreaks s)

end SourceUnit.Text
