import SourceUnit.Grammar.Escape
import SourceUnit.Grammar.Run

/-! String literals. Neighbouring literals join into one value; literals marked `f` hold
replacement fields, whose expressions are parsed as texts of their own, in brackets, so that they
may start with blanks. -/
namespace SourceUnit.Grammar

/-- A string lexeme taken apart. -/
structure LiteralParts where
  isBytes : Bool
  isRaw : Bool
  isFormat : Bool
  /-- Index of the first character between the quotes. -/
  start : Nat
  /-- Index of the closing quotes. -/
  stop : Nat

/-- Takes the marks and quotes off a string lexeme. -/
def LiteralParts.of (text : List Char) : LiteralParts :=
  let marks := text.takeWhile fun c => c != '\'' && c != '"'
  let has (a b : Char) : Bool := marks.contains a || marks.contains b
  let body := text.drop marks.length
  let triple := match body with
    | a :: b :: c :: rest => a == b && b == c && rest.length ≥ 3
    | _ => false
  let width := if triple then 3 else 1
  { isBytes := has 'b' 'B'
    isRaw := has 'r' 'R'
    isFormat := has 'f' 'F'
    start := marks.length + width
    stop := text.length - width }

/-- A joined literal under construction: finished parts, the last one first, and whether text is
waiting to become a part. -/
structure Joining where
  parts : List Tree := []
  waiting : Bool := false
  isFormat : Bool := false

/-- Adds text to a joined literal. -/
def Joining.addText (j : Joining) (nonempty : Bool) : Joining :=
  { j with waiting := j.waiting || nonempty }

/-- Turns waiting text into a part. -/
def Joining.flush (j : Joining) (whole : Place) : Joining :=
  if j.waiting then { j with parts := .constantAt "str" whole :: j.parts, waiting := false } else j

/-- Adds a replacement field. -/
def Joining.addField (j : Joining) (whole : Place) (field : Tree) : Joining :=
  let j := j.flush whole
  { j with parts := field :: j.parts }

/-- The finished literal. -/
def Joining.finish (j : Joining) (whole : Place) : Tree :=
  if j.isFormat then .placed .joinedStr whole (j.flush whole).parts.reverse
  else .constantAt "str" whole

namespace FormatString

/-- What the parts of a format string share: its text, its lexeme, the place of the whole literal,
and the way to parse an expression of its own. -/
structure Context where
  chars : Array Char
  lexeme : Lexeme
  isRaw : Bool
  /-- Index of the closing quotes. -/
  stop : Nat
  whole : Place
  parse : List Char → Nat → Scanner.Origin → P Tree

variable (k : Context)

def Context.get (i : Nat) : Char := (k.chars[i]?).getD '\x00'

def Context.slice (start stop : Nat) : List Char := (k.chars.extract start stop).toList

/-- Warns of an escape without a meaning. -/
def warnEscape (line : Nat) (c : Char) : P Unit :=
  P.doubt ⟨s!"invalid escape sequence '\\{c}'", "DeprecationWarning", some line⟩

/-- Decodes a stretch of literal text and says whether it is nonempty. -/
def decodeStretch (start stop : Nat) : P Bool :=
  if stop ≤ start then pure false
  else if k.isRaw then pure true
  else
    match Escape.decodeText (k.slice start stop) with
    | .error message => raiseHere message
    | .ok d => do
      if let some c := d.unknown then warnEscape k.lexeme.place.line c
      return !d.points.isEmpty

/-- Where a stretch of literal text ends. -/
inductive LiteralEnd where
  /-- At a doubled brace; reading goes on after it. -/
  | doubled (stop next : Nat)
  /-- At a brace or the end of the literal. -/
  | reached (stop : Nat)

/-- Finds the end of literal text. Braces are doubled only outside format specifications. -/
def literalEnd (outer : Bool) : (fuel i : Nat) → P LiteralEnd
  | 0, i => pure (.reached i)
  | fuel + 1, i => do
    if k.stop ≤ i then return .reached i
    let brace (i : Nat) : P LiteralEnd := do
      let c := k.get i
      if outer && i + 1 < k.stop && k.get (i + 1) == c then return .doubled (i + 1) (i + 2)
      else if outer && c == '\x7d' then raiseHere "f-string: single '\x7d' is not allowed"
      else return .reached i
    let c := k.get i
    if !k.isRaw && c == '\\' && i + 1 < k.stop then
      let d := k.get (i + 1)
      if d == 'N' then
        if i + 2 < k.stop && k.get (i + 2) == '\x7b' then
          let close := (k.slice (i + 3) k.stop).takeWhile (· != '\x7d')
          literalEnd outer fuel (min k.stop (i + 3 + close.length + 1))
        else literalEnd outer fuel (min k.stop (i + 3))
      else if d == '\x7b' then
        warnEscape k.lexeme.place.line d
        brace (i + 1)
      else if d == '\x7d' then brace (i + 1)
      else literalEnd outer fuel (i + 2)
    else if c == '\x7b' || c == '\x7d' then brace i
    else literalEnd outer fuel (i + 1)

/-- State of the search for the end of a replacement field's expression. -/
structure Search where
  quote : Option Char := none
  triple : Bool := false
  open_ : List Char := []

/-- Finds the character that ends the expression of a replacement field. -/
def expressionEnd : (fuel : Nat) → Search → (i : Nat) → P (Search × Nat)
  | 0, s, i => pure (s, i)
  | fuel + 1, s, i => do
    if k.stop ≤ i then return (s, i)
    let c := k.get i
    let next := k.get (i + 1)
    let tripleHere := i + 2 < k.stop && next == c && k.get (i + 2) == c
    if c == '\\' then raiseHere "f-string expression part cannot include a backslash"
    else if let some q := s.quote then
      if c == q then
        if s.triple then
          if tripleHere then expressionEnd fuel { s with quote := none, triple := false } (i + 3)
          else expressionEnd fuel s (i + 1)
        else expressionEnd fuel { s with quote := none } (i + 1)
      else expressionEnd fuel s (i + 1)
    else if c == '\'' || c == '"' then
      if tripleHere then expressionEnd fuel { s with quote := some c, triple := true } (i + 3)
      else expressionEnd fuel { s with quote := some c, triple := false } (i + 1)
    else if c == '[' || c == '\x7b' || c == '(' then
      if maxBrackets ≤ s.open_.length then raiseHere "f-string: too many nested parenthesis"
      else expressionEnd fuel { s with open_ := c :: s.open_ } (i + 1)
    else if c == '#' then raiseHere "f-string expression part cannot include '#'"
    else if s.open_.isEmpty && ['!', ':', '\x7d', '=', '<', '>'].contains c then
      if i + 1 < k.stop && next == '=' && ['!', '=', '<', '>'].contains c then
        expressionEnd fuel s (i + 2)
      else if c == '>' || c == '<' then expressionEnd fuel s (i + 1)
      else return (s, i)
    else if c == ']' || c == '\x7d' || c == ')' then
      match s.open_ with
      | [] => raiseHere s!"f-string: unmatched '{c}'"
      | o :: rest =>
        if Scanner.closes o == c then expressionEnd fuel { s with open_ := rest } (i + 1)
        else
          raiseHere
            s!"f-string: closing parenthesis '{c}' does not match opening parenthesis '{o}'"
    else expressionEnd fuel s (i + 1)

def isFieldBlank (c : Char) : Bool := c == ' ' || c == '\t' || c == '\n' || c == '\x0c'

def expectingBrace {α : Type} : P α := raiseHere "f-string: expecting '\x7d'"

/-- Bytes of a stretch of the lexeme. -/
def bytesIn (start stop : Nat) : Nat :=
  (k.slice start stop).foldl (fun n c => n + c.utf8Size) 0

/-- Parses the expression between two indices, the first being just after the brace. -/
def expression (start stop : Nat) : P Tree := do
  let text := k.slice start stop
  if text.all isFieldBlank then
    let c := k.get stop
    if c == '!' || c == ':' || c == '=' then
      raiseHere s!"f-string: expression required before '{c}'"
    else raiseHere "f-string: empty expression not allowed"
  else
    let before := k.slice 0 (start - 1)
    let lines := before.count '\n'
    let lead := (before.reverse.takeWhile (· != '\n')).length
    let cols : Int := bytesIn k (start - 1 - lead) (start - 1)
    let blankFirst := (text.dropWhile fun c => c == ' ' || c == '\t' || c == '\x0c').head? == some '\n'
    let cols := if blankFirst then 0 else cols
    let col := if lines = 0 then k.lexeme.place.col + cols else cols
    let line := k.lexeme.place.line + lines
    k.parse ('(' :: text ++ [')']) line ⟨line, col⟩

/-- White space that may follow the equals sign of a self-documenting field. -/
def skipBlanks : (fuel i : Nat) → Nat
  | 0, i => i
  | fuel + 1, i =>
    let c := k.get i
    if c == ' ' || ('\t' ≤ c && c ≤ '\r') then skipBlanks fuel (i + 1) else i

/-- A conversion letter: its end, or a fault. -/
def conversion (start : Nat) : P Nat :=
  if k.stop ≤ start then expectingBrace
  else
    match k.get start with
    | 's' | 'r' | 'a' => return start + 1
    | _ => raiseHere "f-string: invalid conversion character: expected 's', 'r', or 'a'"

/-- A replacement field from its opening brace on: whether its own text is shown, the field, and the
index after it. `spec` parses a format specification. -/
def field (spec : Nat → P (Tree × Nat)) (i : Nat) : P (Bool × Tree × Nat) := do
  let start := i + 1
  let (s, stop) ← expressionEnd k (k.stop + 1) {} start
  if s.quote.isSome then raiseHere "f-string: unterminated string"
  else if let some o := s.open_.head? then raiseHere s!"f-string: unmatched '{o}'"
  else if k.stop ≤ stop then expectingBrace
  else
    let value ← expression k start stop
    let shown := k.get stop == '='
    if shown && (← P.getEnv).release < 8 then
      raiseHere ("f-string: self documenting expressions are only supported in "
        ++ "Python 3.8 and greater")
    let i := if shown then skipBlanks k k.stop (stop + 1) else stop
    if k.stop ≤ i then expectingBrace
    else
      let i ← if k.get i == '!' then conversion k (i + 1) else pure i
      let (format, i) ← (do
        if k.get i == ':' then
          if k.stop ≤ i + 1 then expectingBrace
          else
            let (t, i) ← spec (i + 1)
            return ([t], i)
        else return ([], i) : P (List Tree × Nat))
      if k.stop ≤ i || k.get i != '\x7d' then expectingBrace
      else return (shown, .placed .formattedValue k.whole (value :: format), i + 1)

/-- Literal text and replacement fields in turn. -/
def parts (outer : Bool) (spec : Option (Nat → P (Tree × Nat))) :
    (fuel : Nat) → Joining → (i : Nat) → P (Joining × Nat)
  | 0, j, i => pure (j, i)
  | fuel + 1, j, i => do
    match ← literalEnd k outer (k.stop + 1) i with
    | .doubled stop next =>
      let nonempty ← decodeStretch k i stop
      parts outer spec fuel (j.addText nonempty) next
    | .reached stop =>
      let nonempty ← decodeStretch k i stop
      let j := j.addText nonempty
      if k.stop ≤ stop || k.get stop == '\x7d' then return (j, stop)
      else
        match spec with
        | none => raiseHere "f-string: expressions nested too deeply"
        | some spec =>
          let (shown, f, next) ← field k spec stop
          parts outer (some spec) fuel ((j.addText shown).addField k.whole f) next

/-- A format specification; fields in it may nest as often as the budget says. -/
def specification : (budget : Nat) → (i : Nat) → P (Tree × Nat)
  | 0, i => do
    let (j, i) ← parts k false none (k.stop + 1) { isFormat := true } i
    if k.get i == '\x7d' then return (j.finish k.whole, i) else expectingBrace
  | budget + 1, i => do
    let (j, i) ←
      parts k false (some (specification budget)) (k.stop + 1) { isFormat := true } i
    if k.get i == '\x7d' then return (j.finish k.whole, i) else expectingBrace

/-- Adds a format string to a joined literal. -/
def join (start : Nat) (j : Joining) : P Joining := do
  let (j, i) ← parts k true (some (specification k 1)) (k.stop + 1) { j with isFormat := true } start
  if i + 1 < k.stop then raiseHere "f-string: unexpected end of string"
  else return j

end FormatString

/-- Adds one string lexeme to a joined literal. -/
def joinLiteral (parse : List Char → Nat → Scanner.Origin → P Tree) (whole : Place)
    (l : Lexeme) (p : LiteralParts) (chars : List Char) (j : Joining) : P Joining := do
  let body := (chars.drop p.start).take (p.stop - p.start)
  if p.isFormat then
    let e ← P.getEnv
    if e.release < 6 then
      raiseHere "Format strings are only supported in Python 3.6 and greater"
    else
      FormatString.join ⟨chars.toArray, l, p.isRaw, p.stop, whole, parse⟩ p.start j
  else if p.isBytes && body.any (fun c => 128 ≤ c.toNat) then
    raiseHere "bytes can only contain ASCII literal characters"
  else if p.isRaw || !body.contains '\\' then return j.addText (!body.isEmpty)
  else
    let decoded := if p.isBytes then Escape.decodeBytes (body.length + 1) 0 body ⟨[], none⟩
      else Escape.decodeText body
    match decoded with
    | .error message => raiseHere message
    | .ok d =>
      if let some c := d.unknown then FormatString.warnEscape l.place.line c
      return j.addText (!d.points.isEmpty)

/-- Adds string lexemes in turn; text and bytes do not mix. -/
def joinLiterals (parse : List Char → Nat → Scanner.Origin → P Tree) (whole : Place) :
    List Lexeme → (isBytes : Option Bool) → Joining → P Tree
  | [], isBytes, j =>
    pure (if isBytes = some true then .constantAt "bytes" whole else j.finish whole)
  | l :: ls, isBytes, j => do
    let chars := l.text.toList
    let p := LiteralParts.of chars
    let j ← if p.isFormat then pure j else joinLiteral parse whole l p chars j
    if isBytes.isSome && isBytes != some p.isBytes then
      raiseHere "cannot mix bytes and nonbytes literals"
    else
      let j ← if p.isFormat then joinLiteral parse whole l p chars j else pure j
      joinLiterals parse whole ls (some p.isBytes) j

/-- Parses the expression of a replacement field as a text of its own. -/
def parseField (start : P Tree) (text : List Char) (line : Nat) (origin : Scanner.Origin) :
    P Tree := fun e m =>
  let r := run start
    { scan := Scanner.scan text line (some origin), release := e.release, origin := some origin }
  let m := { m with doubts := r.doubts.reverse ++ m.doubts }
  match r.result with
  | .ok t => .ok t m
  | .error why => .abort why m

/-- One or more neighbouring string literals; `start` is the rule of a field's expression. -/
def stringLiterals (start : P Tree) : P Tree := do
  let ls ← many1 (ofKind .string)
  let whole := match ls.head?, ls.getLast? with
    | some a, some b => a.place.through b.place
    | _, _ => ⟨0, -1, 0, -1⟩
  joinLiterals (parseField start) whole ls none {}

end SourceUnit.Grammar
