import SourceUnit.Error
import SourceUnit.Text.Line

/-! A buffer holds one normalised text under a name and answers questions about its lines. The lines
are split once and remembered until the next assignment. -/
namespace SourceUnit

/-- A source as it is handed in. -/
inductive RawSource where
  | text (s : List CodePoint)
  | bytes (bs : List UInt8)
  /-- Neither text nor bytes. -/
  | other
deriving Repr

structure Buffer where
  name : String := "(string)"
  firstLine : Int := 1
  text : Option (List Char) := none
  remembered : Option (List (List Char)) := none

namespace Buffer

/-- Drops one byte order mark. -/
def dropMark : List Char → List Char
  | '\ufeff' :: rest => rest
  | s => s

/-- The text of a source. -/
def normalize (name : String) : RawSource → Except Error (List Char)
  | .bytes bs =>
    match Utf8.decode bs with
    | .ok s => .ok (dropMark s)
    | .error fault => .error (.undecodable name fault)
  | .text s =>
    match Utf8.chars s with
    | .ok s => .ok (dropMark s)
    | .error position => .error (.unencodable name position)
  | .other => .error .notText

/-- Assigns a source. -/
def assign (b : Buffer) (raw : RawSource) : Except Error Buffer :=
  match normalize b.name raw with
  | .ok s => .ok { b with text := some s, remembered := none }
  | .error e => .error e

def isAssigned (b : Buffer) : Bool := b.text.isSome

def source (b : Buffer) : Except Error (List Char) :=
  match b.text with
  | some s => .ok s
  | none => .error (.unassigned b.name)

/-- The lines, without their breaks. -/
def lines (b : Buffer) : Except Error (List (List Char)) :=
  match b.remembered with
  | some ls => .ok ls
  | none =>
    match b.source with
    | .ok s => .ok (Text.lines s)
    | .error e => .error e

/-- Splits the lines, if that has not been done. -/
def remember (b : Buffer) : Buffer :=
  match b.lines with
  | .ok ls => { b with remembered := some ls }
  | .error _ => b

/-- A line by its number, if there is such a line. Numbers before the first line are turned down
without a look at the text. -/
def line (b : Buffer) (n : Int) : Except Error (Option (List Char)) :=
  if b.firstLine ≤ n then
    match b.lines with
    | .ok ls => .ok ls[(n - b.firstLine).toNat]?
    | .error e => .error e
  else .ok none

/-- The buffer after a line was looked up. -/
def rememberAt (b : Buffer) (n : Int) : Buffer := if b.firstLine ≤ n then b.remember else b

def isAscii (s : List Char) : Bool := s.all (·.toNat < 128)

/-- How many of `size` things a count takes from the start; a negative count leaves some off the end. -/
def countFromStart (size : Nat) (count : Int) : Nat :=
  if 0 ≤ count then count.toNat else (size + count).toNat

/-- The character column of a byte column: how many characters can be read from the bytes before it.
A byte column on a line that is not there, or that holds nothing but ASCII, is its own character
column. -/
def columnIn (text : Option (List Char)) (offset : Int) : Int :=
  match text with
  | none => offset
  | some s =>
    if isAscii s then offset
    else
      let bytes := Utf8.encode s
      (Utf8.decodeIgnoring (bytes.take (countFromStart bytes.length offset))).length

def charColumn (b : Buffer) (n offset : Int) : Except Error Int :=
  match b.line n with
  | .ok text => .ok (columnIn text offset)
  | .error e => .error e

theorem isAssigned_of_assign {b b' : Buffer} {raw : RawSource} (h : b.assign raw = .ok b') :
    b'.isAssigned = true := by
  unfold assign at h
  cases hraw : normalize b.name raw with
  | error e => simp [hraw] at h
  | ok s =>
    simp only [hraw, Except.ok.injEq] at h
    exact h ▸ rfl

theorem isAssigned_remember (b : Buffer) : b.remember.isAssigned = b.isAssigned := by
  unfold remember
  cases b.lines with
  | ok ls => rfl
  | error e => rfl

/-- Every column of an assigned buffer can be read. -/
theorem exists_charColumn {b : Buffer} (h : b.isAssigned = true) (n offset : Int) :
    ∃ column, b.charColumn n offset = .ok column := by
  have hlines : ∃ ls, b.lines = .ok ls := by
    obtain ⟨s, hs⟩ := Option.isSome_iff_exists.mp h
    unfold lines source
    cases b.remembered with
    | some ls => exact ⟨ls, rfl⟩
    | none => exact ⟨Text.lines s, by rw [hs]⟩
  obtain ⟨ls, hls⟩ := hlines
  unfold charColumn line
  by_cases hn : b.firstLine ≤ n
  · rw [if_pos hn, hls]
    exact ⟨_, rfl⟩
  · rw [if_neg hn]
    exact ⟨_, rfl⟩

def describe (b : Buffer) : String := "SourceBuffer(name=" ++ Quoted.string b.name ++ ")"

/-- What can be asked of a buffer. -/
inductive Access where
  | assign (raw : RawSource)
  | source
  | lines
  | line (n : Int)
  | charColumn (n offset : Int)
  | isAssigned

inductive Answer where
  | done
  | text (s : List Char)
  | texts (ls : List (List Char))
  | maybeText (s : Option (List Char))
  | column (n : Int)
  | flag (b : Bool)
deriving DecidableEq

/-- Answers one request; what is read about lines is remembered. -/
def access (b : Buffer) : Access → Except Error Answer × Buffer
  | .assign raw =>
    match b.assign raw with
    | .ok b' => (.ok .done, b')
    | .error e => (.error e, b)
  | .source => (b.source.map .text, b)
  | .lines => (b.lines.map .texts, b.remember)
  | .line n => ((b.line n).map .maybeText, b.rememberAt n)
  | .charColumn n offset => ((b.charColumn n offset).map .column, b.rememberAt n)
  | .isAssigned => (.ok (.flag b.isAssigned), b)

end Buffer

end SourceUnit
