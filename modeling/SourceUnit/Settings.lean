import SourceUnit.Settings.EnvFile
import SourceUnit.Text.Class.Capital
import SourceUnit.Value

/-! Settings. Each field is taken from the first place that gives it: the caller, the environment, a
file of environment variables, or its default. All fields that are wrong are reported, in order. -/
namespace SourceUnit

inductive LogFormat where
  | json
  | console
deriving DecidableEq, Repr

structure Settings where
  /-- The release to use when a caller gives none. -/
  release : String := "3.12"
  /-- Every diagnostic stops the parse. -/
  allErrorsFatal : Bool := false
  ignoreWarnings : Bool := false
  /-- The line after which nothing counts. -/
  endMarker : String := "__END__"
  logLevel : String := "INFO"
  logFormat : LogFormat := .console
deriving DecidableEq, Repr

namespace Settings

inductive Field where
  | release
  | allErrorsFatal
  | ignoreWarnings
  | endMarker
  | logLevel
  | logFormat
deriving DecidableEq, Repr

/-- The name of a field, as a caller and the environment spell it. -/
def Field.name : Field → String
  | .release => "dialect_version"
  | .allErrorsFatal => "all_errors_are_fatal"
  | .ignoreWarnings => "ignore_warnings"
  | .endMarker => "end_marker"
  | .logLevel => "log_level"
  | .logFormat => "log_format"

/-- Why a value does not fit its field. -/
inductive Misfit where
  | notText
  | notBool
  /-- A value that could be a truth value, but is none. -/
  | unreadableBool
  | notAChoice
deriving DecidableEq, Repr

def Misfit.name : Misfit → String
  | .notText => "string_type"
  | .notBool => "bool_type"
  | .unreadableBool => "bool_parsing"
  | .notAChoice => "literal_error"

def lower (s : String) : String :=
  -- the sign for the unit kelvin is the one character outside ASCII whose small letter is inside
  s.map fun c => if c == '\u212a' then 'k' else c.toLower

def truthWords : List String := ["true", "t", "yes", "y", "on", "1"]

def falsityWords : List String := ["false", "f", "no", "n", "off", "0"]

def asText : Value → Except Misfit String
  | .str s => .ok (CodePoint.toText s)
  | _ => .error .notText

/-- Whole numbers that fit a machine word are candidates; only zero and one are truth values. -/
def asBool : Value → Except Misfit Bool
  | .bool b => .ok b
  | .int n =>
    if n = 0 then .ok false
    else if n = 1 then .ok true
    else if -0x8000000000000000 ≤ n ∧ n < 0x8000000000000000 then .error .unreadableBool
    else .error .notBool
  | .float x =>
    if x == 0.0 then .ok false
    else if x == 1.0 then .ok true
    else if x.floor == x && x.abs < 9223372036854775808.0 then .error .unreadableBool
    else .error .notBool
  | .str s =>
    let w := (CodePoint.toText s).map Char.toLower
    if truthWords.contains w then .ok true
    else if falsityWords.contains w then .ok false
    else .error .unreadableBool
  | _ => .error .notBool

def asFormat : Value → Except Misfit LogFormat
  | .str s =>
    match CodePoint.toText s with
    | "json" => .ok .json
    | "console" => .ok .console
    | _ => .error .notAChoice
  | _ => .error .notAChoice

/-- The places settings come from. -/
structure Sources where
  /-- What every variable's name starts with. -/
  stem : String := "CODEGRAPH_SOURCE_"
  arguments : List (String × Value) := []
  environment : List (String × String) := []
  /-- The text of a file of variables. -/
  file : Option (List Char) := none

/-- The last variable of a name, whatever the case of its letters. -/
def findVariable? {α : Type} (vars : List (String × α)) (name : String) : Option α :=
  ((vars.filter fun v => lower v.1 == name).getLast?).map (·.2)

/-- What the sources give for a field. -/
def Sources.find? (s : Sources) (f : Field) : Option Value :=
  let full := lower (s.stem ++ f.name)
  let fromFile : Option String := do
    let text ← s.file
    (← findVariable? (EnvFile.entries s.environment text).reverse full)
  ((s.arguments.filter (·.1 == f.name)).getLast?.map (·.2))
    |>.or ((findVariable? s.environment full).map .string)
    |>.or (fromFile.map .string)

/-- Reads a field, or takes its default. -/
def Sources.read {α : Type} (s : Sources) (f : Field) (default : α)
    (convert : Value → Except Misfit α) : Except (Field × Misfit) α :=
  match s.find? f with
  | none => .ok default
  | some v =>
    match convert v with
    | .ok a => .ok a
    | .error m => .error (f, m)

/-- What is wrong with a field. -/
def misfits {α : Type} : Except (Field × Misfit) α → List (Field × Misfit)
  | .ok _ => []
  | .error e => [e]

/-- Reads all fields. -/
def load (s : Sources) : Except (List (Field × Misfit)) Settings :=
  let d : Settings := {}
  let release := s.read .release d.release asText
  let fatal := s.read .allErrorsFatal d.allErrorsFatal asBool
  let ignore := s.read .ignoreWarnings d.ignoreWarnings asBool
  let marker := s.read .endMarker d.endMarker asText
  let level := s.read .logLevel d.logLevel fun v => (asText v).map Text.toCapitals
  let format := s.read .logFormat d.logFormat asFormat
  match release, fatal, ignore, marker, level, format with
  | .ok release, .ok fatal, .ok ignore, .ok marker, .ok level, .ok format =>
    .ok ⟨release, fatal, ignore, marker, level, format⟩
  | _, _, _, _, _, _ =>
    .error (misfits release ++ misfits fatal ++ misfits ignore ++ misfits marker ++ misfits level
      ++ misfits format)

/-- Loads settings where the defaults are loaded first from the environment and the file alone, and
fail first. -/
def loadAfterDefaults (s : Sources) : Except (List (Field × Misfit)) Settings :=
  match load { s with arguments := [] } with
  | .error e => .error e
  | .ok _ => load s

end Settings

end SourceUnit
