import SourceUnit.Text.Class.Blank
import SourceUnit.Text.Line

/-! Files of environment variables: one `NAME=value` a line, optionally after `export`. A value may
be quoted, and refer to other variables. Lines that do not fit are skipped. -/
namespace SourceUnit.EnvFile

/-- White space within a line. -/
def isGap (c : Char) : Bool := Text.isBlank c.toNat && c != '\n' && c != '\r'

def isBreak (c : Char) : Bool := c == '\n' || c == '\r'

/-- The characters a backslash stands for, between double quotes. -/
def doubleEscape? : Char → Option Char
  | '\\' => some '\\'
  | '\'' => some '\''
  | '"' => some '"'
  | 'a' => some '\x07'
  | 'b' => some '\x08'
  | 'f' => some '\x0c'
  | 'n' => some '\n'
  | 'r' => some '\r'
  | 't' => some '\t'
  | 'v' => some '\x0b'
  | _ => none

/-- The characters a backslash stands for, between single quotes. -/
def singleEscape? : Char → Option Char
  | '\\' => some '\\'
  | '\'' => some '\''
  | _ => none

def unescape (escape? : Char → Option Char) : List Char → List Char
  | [] => []
  | [c] => [c]
  | '\\' :: c :: rest =>
    match escape? c with
    | some d => d :: unescape escape? rest
    | none => '\\' :: unescape escape? (c :: rest)
  | c :: rest => c :: unescape escape? rest

/-- Reads up to the closing quote. A quote after a backslash does not close, unless no other one
does: then the last of those closes. -/
def quotedValue (quote : Char) (read : List Char) (fallback : Option (List Char × List Char)) :
    List Char → Option (List Char × List Char)
  | [] => fallback
  | '\\' :: c :: rest =>
    if c = quote then
      quotedValue quote (c :: '\\' :: read) (some (('\\' :: read).reverse, rest)) rest
    else quotedValue quote ('\\' :: read) fallback (c :: rest)
  | c :: rest =>
    if c = quote then some (read.reverse, rest) else quotedValue quote (c :: read) fallback rest

/-- Removes white space at the end. -/
def trimEnd (s : List Char) : List Char :=
  (s.reverse.dropWhile fun c => Text.isBlank c.toNat).reverse

/-- Cuts off a comment: a hash mark after white space. -/
def cutComment (read : List Char) : List Char → List Char
  | [] => read.reverse
  | c :: rest =>
    if Text.isBlank c.toNat && (rest.dropWhile fun c => Text.isBlank c.toNat).head? == some '#' then
      read.reverse
    else cutComment (c :: read) rest

/-- A value and the rest of the text. -/
def value (s : List Char) : Option (List Char × List Char) :=
  match s with
  | '\'' :: rest => (quotedValue '\'' [] none rest).map fun (v, r) => (unescape singleEscape? v, r)
  | '"' :: rest => (quotedValue '"' [] none rest).map fun (v, r) => (unescape doubleEscape? v, r)
  | _ =>
    let line := s.takeWhile (!isBreak ·)
    some (trimEnd (cutComment [] line), s.dropWhile (!isBreak ·))

/-- Skips `export` and the gap after it. -/
def skipExport (s : List Char) : List Char :=
  match s with
  | 'e' :: 'x' :: 'p' :: 'o' :: 'r' :: 't' :: c :: rest =>
    if isGap c then rest.dropWhile isGap else s
  | _ => s

/-- A name and the rest of the text; a comment has no name. -/
def key (s : List Char) : Option (Option (List Char) × List Char) :=
  match s with
  | '#' :: _ => some (none, s)
  | '\'' :: rest =>
    let k := rest.takeWhile (· != '\'')
    match k, rest.dropWhile (· != '\'') with
    | _ :: _, _ :: rest => some (some k, rest)
    | _, _ => none
  | _ =>
    let isKey (c : Char) : Bool := c != '=' && c != '#' && !Text.isBlank c.toNat
    let k := s.takeWhile isKey
    if k.isEmpty then none else some (some k, s.dropWhile isKey)

/-- Skips a comment and the end of the line, if nothing else is left on it. -/
def lineEnd (s : List Char) : Option (List Char) :=
  let s := match s.dropWhile isGap with
    | '#' :: rest => rest.dropWhile (!isBreak ·)
    | _ => s
  match s.dropWhile isGap with
  | [] => some []
  | '\r' :: '\n' :: rest => some rest
  | c :: rest => if isBreak c then some rest else none

/-- Skips the rest of a line that does not fit. -/
def skipLine (s : List Char) : List Char := (s.dropWhile (!isBreak ·)).drop 1

/-- A line of a file: a name, if it has one, and its value. -/
structure Binding where
  key : Option (List Char) := none
  value : Option (List Char) := none

/-- Reads one binding from text that does not start with white space. What is returned if a part is
missing is the text from there on. -/
def binding (s : List Char) : Except (List Char) (Binding × List Char) :=
  let s := skipExport s
  match key s with
  | none => .error s
  | some (k, s) =>
    match s.dropWhile isGap with
    | '=' :: rest =>
      let rest := rest.dropWhile isGap
      match value rest with
      | none => .error rest
      | some (v, s) =>
        match lineEnd s with
        | some s => .ok (⟨k, some v⟩, s)
        | none => .error s
    | s =>
      match lineEnd s with
      | some s => .ok (⟨k, none⟩, s)
      | none => .error s

/-- Reads bindings; each takes at least one character. -/
def bindings : (fuel : Nat) → List Char → List Binding
  | 0, _ => []
  | fuel + 1, s =>
    match s.dropWhile fun c => Text.isBlank c.toNat with
    | [] => []
    | s =>
      match binding s with
      | .ok (b, rest) => b :: bindings fuel rest
      | .error rest => bindings fuel (skipLine rest)

/-- Replaces each reference to a variable by its value, its default, or nothing. -/
def expand (find? : String → Option String) : (fuel : Nat) → List Char → List Char
  | 0, s => s
  | _ + 1, [] => []
  | fuel + 1, '$' :: '\x7b' :: rest =>
    let name := rest.takeWhile fun c => c != '\x7d' && c != ':'
    let found (default : List Char) : List Char :=
      ((find? (String.ofList name)).map (·.toList)).getD default
    match rest.dropWhile fun c => c != '\x7d' && c != ':' with
    | '\x7d' :: rest => found [] ++ expand find? fuel rest
    | ':' :: '-' :: rest' =>
      match rest'.dropWhile (· != '\x7d') with
      | '\x7d' :: rest'' => found (rest'.takeWhile (· != '\x7d')) ++ expand find? fuel rest''
      | _ => '$' :: expand find? fuel ('\x7b' :: rest)
    | _ => '$' :: expand find? fuel ('\x7b' :: rest)
  | fuel + 1, c :: rest => c :: expand find? fuel rest

/-- The variables of a file in order, later ones first. A reference finds variables set above it
before those of the environment. -/
def resolve (environment : List (String × String)) :
    List (String × Option String) → List Binding → List (String × Option String)
  | done, [] => done
  | done, b :: bs =>
    match b.key with
    | none => resolve environment done bs
    | some k =>
      let find? (name : String) : Option String :=
        match done.lookup name with
        | some v => some (v.getD "")
        | none => environment.lookup name
      let v := b.value.map fun v => String.ofList (expand find? (v.length + 1) v)
      resolve environment ((String.ofList k, v) :: done) bs

/-- The variables that a file sets, the last setting of each first. -/
def entries (environment : List (String × String)) (text : List Char) :
    List (String × Option String) :=
  let s := Text.unifyBreaks text
  resolve environment [] (bindings (s.length + 1) s)

end SourceUnit.EnvFile
