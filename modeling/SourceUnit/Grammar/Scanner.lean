import SourceUnit.Grammar.Numeral
import SourceUnit.Text.Class.Identifier
import SourceUnit.Text.Class.Printable

/-! The strict scanner: from text to lexemes, or to the first thing in the text that no lexeme
allows. Blocks are opened and closed by indentation, measured once with tabs of eight and once with
tabs of one so that mixtures which depend on the tab width are refused. -/
namespace SourceUnit.Grammar

/-- Most brackets that may be open at once. -/
def maxBrackets : Nat := 200

/-- Most blocks that may be open at once, the outermost included. -/
def maxBlocks : Nat := 100

/-- Scanner state between lexemes. -/
structure ScanState where
  cursor : Cursor
  atLineStart : Bool := true
  /-- Columns of the open blocks by either measure, innermost first. -/
  blocks : List (Nat × Nat) := []
  /-- Blocks opened (positive) or closed (negative) but not yet reported. -/
  pending : Int := 0
  brackets : List Bracket := []
  doubts : List Warning := []

/-- Outcome of scanning one lexeme. -/
inductive Scanned where
  /-- A lexeme between two indices, which started on the given line. -/
  | lexeme (kind : LexemeKind) (line lineStart start stop : Nat) (st : ScanState)
  /-- A lexeme without characters. -/
  | empty (kind : LexemeKind) (st : ScanState)
  | failed (fault : ScanFault) (st : ScanState)

namespace Scanner

/-- A fault placed at the cursor, or at a given range of columns of its line. -/
def faultAt (c : Cursor) (message : String) (range : Option (Int × Int) := none) : ScanFault :=
  let (offset, endOffset) := range.getD ((c.cur : Int) - (c.lineStart : Int), -1)
  .told
    { message
      line := some c.line
      offset := some offset
      endLine := some c.line
      endOffset := some endOffset }

/-- The fault as an outcome. -/
def fail (st : ScanState) (c : Cursor) (message : String) : Scanned :=
  .failed (faultAt c message) { st with cursor := c }

/-- Indentation of a line by both measures, and the column of the first continuation mark in it. -/
structure Indentation where
  col : Nat := 0
  alt : Nat := 0
  joined : Nat := 0

/-- After a continuation mark: the rest of its line must be empty and another line must follow. -/
def continueLine (s : Source) (fresh : Bool) (c : Cursor) : Except (ScanFault × Cursor) Cursor :=
  let (c1, cur1) := c.next s fresh
  if c1 != some '\n' then .error (.continuation, cur1)
  else
    let (c2, cur2) := cur1.next s fresh
    match c2 with
    | none => .error (.ended, { cur2 with cur := cur2.inp })
    | some _ => .ok (cur2.back c2)

/-- Measures the blanks at the start of a line. -/
def measure (s : Source) :
    (fuel : Nat) → Indentation → Cursor →
      Except (ScanFault × Cursor) (Indentation × Option Char × Cursor)
  | 0, ind, c => .ok (ind, none, c)
  | fuel + 1, ind, c =>
    let (ch, c') := c.next s true
    match ch with
    | some ' ' => measure s fuel { ind with col := ind.col + 1, alt := ind.alt + 1 } c'
    | some '\t' =>
      measure s fuel { ind with col := (ind.col / 8 + 1) * 8, alt := ind.alt + 1 } c'
    | some '\x0c' => measure s fuel { ind with col := 0, alt := 0 } c'
    | some '\\' =>
      let ind := { ind with joined := if ind.joined = 0 then ind.col else ind.joined }
      match continueLine s true c' with
      | .error e => .error e
      | .ok c'' => measure s fuel ind c''
    | _ => .ok (ind, ch, c'.back ch)

/-- Closes the blocks that are deeper than a column. -/
def closeBlocks (col : Nat) : List (Nat × Nat) → Nat × List (Nat × Nat)
  | [] => (0, [])
  | (c, a) :: rest =>
    if col < c then
      let (n, left) := closeBlocks col rest
      (n + 1, left)
    else (0, (c, a) :: rest)

/-- Compares a line's indentation with the open blocks. -/
def indent (st : ScanState) (ind : Indentation) (c : Cursor) : Except ScanFault ScanState :=
  let col := if ind.joined ≠ 0 then ind.joined else ind.col
  let alt := if ind.joined ≠ 0 then ind.joined else ind.alt
  let (topCol, topAlt) := st.blocks.head?.getD (0, 0)
  if col = topCol then
    if alt = topAlt then .ok { st with cursor := c } else .error .tabs
  else if topCol < col then
    if maxBlocks ≤ st.blocks.length + 1 then .error .tooDeep
    else if alt ≤ topAlt then .error .tabs
    else .ok { st with cursor := c, pending := st.pending + 1, blocks := (col, alt) :: st.blocks }
  else
    let (closed, left) := closeBlocks col st.blocks
    let (leftCol, leftAlt) := left.head?.getD (0, 0)
    if col ≠ leftCol then .error .dedent
    else if alt ≠ leftAlt then .error .tabs
    else .ok { st with cursor := c, pending := st.pending - closed, blocks := left }

/-- Text prefixes of string literals: at most one of `b`, `u`, `f`, and `r` beside `b` or `f`. -/
structure Marks where
  b : Bool := false
  r : Bool := false
  u : Bool := false
  f : Bool := false

/-- Adds one letter to a literal's marks, if it may stand there. -/
def Marks.add (m : Marks) (c : Char) : Option Marks :=
  if !(m.b || m.u || m.f) && (c == 'b' || c == 'B') then some { m with b := true }
  else if !(m.b || m.u || m.r || m.f) && (c == 'u' || c == 'U') then some { m with u := true }
  else if !(m.r || m.u) && (c == 'r' || c == 'R') then some { m with r := true }
  else if !(m.f || m.b || m.u) && (c == 'f' || c == 'F') then some { m with f := true }
  else none

/-- The index of the quote that the letters from `i` on introduce, if they do. -/
def quoteAfterMarks (s : Source) : (fuel : Nat) → Marks → (i : Nat) → Option Nat
  | 0, _, _ => none
  | fuel + 1, m, i =>
    match m.add (s.get i) with
    | none => none
    | some m' =>
      if s.get (i + 1) == '"' || s.get (i + 1) == '\'' then some (i + 1)
      else quoteAfterMarks s fuel m' (i + 1)

/-- Reads on to the end of a string literal. `seen` counts closing quotes in a row. -/
def stringBody (s : Source) (quote : Char) (size : Nat) :
    (fuel seen : Nat) → Cursor → Except Cursor Cursor
  | 0, _, c => .error c
  | fuel + 1, seen, c =>
    if seen = size then .ok c
    else
      let (ch, c') := c.next s false
      match ch with
      | none => .error c'
      | some x =>
        if size = 1 && x == '\n' then .error c'
        else if x == quote then stringBody s quote size fuel (seen + 1) c'
        else if x == '\\' then stringBody s quote size fuel 0 (c'.next s false).2
        else stringBody s quote size fuel 0 c'

/-- A string literal whose lexeme starts at `start` and whose first quote is at `quoteAt`. -/
def stringLiteral (s : Source) (st : ScanState) (start quoteAt : Nat) : Scanned :=
  let first := st.cursor
  let quote := s.get quoteAt
  let c := { first with cur := quoteAt + 1 }
  let second := s.get (quoteAt + 1) == quote
  let third := s.get (quoteAt + 2) == quote
  let (size, seen, c) :=
    if second && third then (3, 0, { c with cur := quoteAt + 3 })
    else if second then (1, 1, { c with cur := quoteAt + 2 })
    else (1, 0, c)
  match stringBody s quote size (s.size + 2) seen c with
  | .ok past => .lexeme .string first.line first.lineStart start past.cur { st with cursor := past }
  | .error past =>
    let back := { past with cur := start + 1, line := first.line, lineStart := first.lineStart }
    let what := if size = 3 then "triple-quoted string literal" else "string literal"
    fail st back s!"unterminated {what} (detected at line {past.line})"

def hexDigits (n : Nat) : String :=
  let ds := (Nat.toDigits 16 n).map Char.toUpper
  String.ofList (List.replicate (4 - ds.length) '0' ++ ds)

/-- The first character of a word that an identifier may not hold there. -/
def badNameChar? (s : Source) (start stop : Nat) : Option Nat :=
  if start < stop && !Text.isNameStart (s.get start) then some start
  else
    let i := s.skipWhile Text.isNamePart (start + 1)
    if i < stop then some i else none

/-- A word: an identifier or keyword. -/
def word (s : Source) (st : ScanState) (start : Nat) : Scanned :=
  let stop := s.skipWhile Numeral.joinsName start
  let c := { st.cursor with cur := stop }
  match badNameChar? s start stop with
  | some i =>
    let ch := s.get i
    let c := { c with cur := i + 1 }
    if Text.isPrintable ch.toNat then
      fail st c s!"invalid character '{ch}' (U+{hexDigits ch.toNat})"
    else fail st c s!"invalid non-printable character U+{hexDigits ch.toNat}"
  | none =>
    let kind := if keywords.contains (s.slice start stop) then .keyword else .name
    .lexeme kind c.line c.lineStart start stop { st with cursor := c }

/-- A number that starts at `start`; `dot` says that it starts with its decimal point. -/
def number (s : Source) (st : ScanState) (start : Nat) (dot : Bool) : Scanned :=
  let c := st.cursor
  let scanned := if dot then Numeral.fraction s (start + 1) else Numeral.scan s c.lineStart start
  match scanned with
  | .done stop doubt =>
    let doubts := match doubt with
      | none => st.doubts
      | some cls =>
        st.doubts ++ [⟨s!"invalid {cls} literal", "DeprecationWarning", some c.line⟩]
    .lexeme .number c.line c.lineStart start stop
      { st with cursor := { c with cur := stop }, doubts }
  | .wrong cur message range =>
    let c := { c with cur }
    .failed (faultAt c message range) { st with cursor := c }

def twoCharOps : List String :=
  ["!=", "%=", "&=", "**", "*=", "+=", "-=", "->", "//", "/=", ":=", "<<", "<=", "<>", "==", ">=",
    ">>", "@=", "^=", "|="]

def threeCharOps : List String := ["**=", "...", "//=", "<<=", ">>="]

/-- The closing bracket of an opening one. -/
def closes (opening : Char) : Char :=
  match opening with
  | '(' => ')'
  | '[' => ']'
  | _ => '\x7d'

/-- An operator, bracket or other single character. -/
def operator (s : Source) (st : ScanState) (start : Nat) : Scanned :=
  let c := st.cursor
  let ch := s.get start
  let one := { c with cur := start + 1 }
  let emit (stop : Nat) (st : ScanState) : Scanned :=
    .lexeme .op c.line c.lineStart start stop { st with cursor := { c with cur := stop } }
  if twoCharOps.contains (s.slice start (start + 2)) then
    if threeCharOps.contains (s.slice start (start + 3)) then emit (start + 3) st
    else emit (start + 2) st
  else
    match ch with
    | '(' | '[' | '\x7b' =>
      if maxBrackets ≤ st.brackets.length then fail st one "too many nested parentheses"
      else
        emit (start + 1)
          { st with brackets := ⟨ch, c.line, s.col c.lineStart start⟩ :: st.brackets }
    | ')' | ']' | '\x7d' =>
      match st.brackets with
      | [] => fail st one s!"unmatched '{ch}'"
      | b :: rest =>
        let st := { st with brackets := rest }
        if closes b.opening == ch then emit (start + 1) st
        else
          let text :=
            s!"closing parenthesis '{ch}' does not match opening parenthesis '{b.opening}'"
          if b.line = c.line then fail st one text else fail st one s!"{text} on line {b.line}"
    | _ =>
      if Text.isPrintable ch.toNat then emit (start + 1) st
      else fail st one s!"invalid non-printable character U+{hexDigits ch.toNat}"

/-- What follows the blanks before a lexeme. `blankLine` says that the line holds no code. -/
inductive Ahead where
  | scanned (r : Scanned)
  /-- The line is over and was not worth a lexeme. -/
  | nextLine (st : ScanState)

/-- Scans from within a line. -/
def inLine (s : Source) (blankLine : Bool) : (fuel : Nat) → ScanState → Ahead
  | 0, st => .scanned (.failed .ended st)
  | fuel + 1, st =>
    let start := s.skipWhile (fun c => c == ' ' || c == '\t' || c == '\x0c') st.cursor.cur
    let (_, c) := { st.cursor with cur := start }.next s true
    let st := { st with cursor := { c with cur := start } }
    if c.ended then
      .scanned (if st.brackets.isEmpty then .empty .stop st else .failed .ended st)
    else
      let ch := s.get start
      let stop := if ch == '#' then s.skipWhile (· != '\n') start else start
      if s.get stop == '\n' then
        let st := { st with atLineStart := true, cursor := { c with cur := stop + 1 } }
        if blankLine || !st.brackets.isEmpty then .nextLine st
        else .scanned (.lexeme .newline c.line c.lineStart start stop st)
      else if Numeral.isDigit ch then .scanned (number s st start false)
      else if Numeral.joinsName ch then
        match quoteAfterMarks s 3 {} start with
        | some q => .scanned (stringLiteral s st start q)
        | none => .scanned (word s st start)
      else if ch == '.' && Numeral.isDigit (s.get (start + 1)) then
        .scanned (number s st start true)
      else if ch == '.' && s.slice start (start + 3) == "..." then
        .scanned (.lexeme .op c.line c.lineStart start (start + 3)
          { st with cursor := { c with cur := start + 3 } })
      else if ch == '.' then
        .scanned (.lexeme .op c.line c.lineStart start (start + 1)
          { st with cursor := { c with cur := start + 1 } })
      else if ch == '"' || ch == '\'' then .scanned (stringLiteral s st start start)
      else if ch == '\\' then
        match continueLine s false { c with cur := start + 1 } with
        | .error (e, c) => .scanned (.failed e { st with cursor := c })
        | .ok c => inLine s blankLine fuel { st with cursor := c }
      else .scanned (operator s st start)

/-- Scans one lexeme. -/
def lexeme (s : Source) : (fuel : Nat) → ScanState → Scanned
  | 0, st => .failed .ended st
  | fuel + 1, st =>
    let start : Except (ScanFault × Cursor) (Bool × ScanState) :=
      if st.atLineStart then
        match measure s (s.size + 1) {} st.cursor with
        | .error e => .error e
        | .ok (ind, ch, c) =>
          let st := { st with atLineStart := false, cursor := c }
          let blank := ch == some '#' || ch == some '\n'
          if !blank && st.brackets.isEmpty then
            match indent st ind c with
            | .ok st => .ok (false, st)
            | .error e => .error (e, { c with cur := c.inp })
          else .ok (blank, st)
      else .ok (false, st)
    match start with
    | .error (e, c) => .failed e { st with cursor := c }
    | .ok (blank, st) =>
      if st.pending < 0 then .empty .dedent { st with pending := st.pending + 1 }
      else if 0 < st.pending then .empty .indent { st with pending := st.pending - 1 }
      else
        match inLine s blank (s.size + 1) st with
        | .scanned r => r
        | .nextLine st => lexeme s fuel st

/-- Where scanned text stands when it is part of a larger text: its first line and the column
that the first line starts at. -/
structure Origin where
  line : Nat
  col : Int

/-- The place of a lexeme; columns on the first line are shifted by the origin. -/
def placeOf (s : Source) (origin : Option Origin) (c : Cursor) (line lineStart : Nat)
    (bounds : Option (Nat × Nat)) : Place :=
  let shift : Int := match origin with
    | some o => if c.line = o.line then o.col else 0
    | none => 0
  match bounds with
  | some (start, stop) =>
    ⟨line, shift + s.col lineStart start, c.line, shift + s.col c.lineStart stop⟩
  | none => ⟨line, shift - 1, c.line, shift - 1⟩

/-- Scans lexemes until the text ends or breaks off. -/
def loop (s : Source) (origin : Option Origin) :
    (fuel : Nat) → ScanState → Array Lexeme → Scan
  | 0, st, acc => ⟨s, acc, some .ended, st.brackets⟩
  | fuel + 1, st, acc =>
    match lexeme s (s.size + 1) { st with doubts := [] } with
    | .lexeme kind line lineStart start stop st =>
      let place := placeOf s origin st.cursor line lineStart (some (start, stop))
      let l := ⟨kind, s.slice start stop, place, st.brackets.length, st.cursor, st.doubts⟩
      loop s origin fuel st (acc.push l)
    | .empty kind st =>
      let place := placeOf s origin st.cursor st.cursor.line 0 none
      let acc := acc.push ⟨kind, "", place, st.brackets.length, st.cursor, st.doubts⟩
      if kind = .stop then ⟨s, acc, none, st.brackets⟩ else loop s origin fuel st acc
    | .failed fault st =>
      let place := placeOf s origin st.cursor st.cursor.line 0 none
      ⟨s, acc.push ⟨.bad, "", place, st.brackets.length, st.cursor, st.doubts⟩, some fault,
        st.brackets⟩

/-- Scans a text whose first line has the given number. Each lexeme takes a character or closes a
block, so three per character are enough. -/
def scan (text : List Char) (firstLine : Nat := 1) (origin : Option Origin := none) : Scan :=
  let s := Source.ofChars (scannable text)
  loop s origin (3 * s.size + 3) { cursor := { line := firstLine - 1 } } #[]

end Scanner

end SourceUnit.Grammar
