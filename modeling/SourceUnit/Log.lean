import SourceUnit.Settings

/-! Log lines. A line carries an event, its level, the name of its logger and further keys, written
as JSON or aligned for a terminal. Only the first setup sets the level below which nothing is
written. The time of an event is not known here and stands as a placeholder. -/
namespace SourceUnit.Log

inductive Level where
  | notSet
  | debug
  | info
  | warning
  | error
  | critical
deriving DecidableEq, Repr

namespace Level

def rank : Level → Nat
  | .notSet => 0
  | .debug => 10
  | .info => 20
  | .warning => 30
  | .error => 40
  | .critical => 50

/-- The name of a level in capitals. -/
def title : Level → String
  | .notSet => "NOTSET"
  | .debug => "DEBUG"
  | .info => "INFO"
  | .warning => "WARNING"
  | .error => "ERROR"
  | .critical => "CRITICAL"

/-- The name of a level in a log line. -/
def word : Level → String
  | .notSet => "notset"
  | .debug => "debug"
  | .info => "info"
  | .warning => "warning"
  | .error => "error"
  | .critical => "critical"

/-- The level of a method that logs. -/
def ofMethod? : String → Option Level
  | "debug" => some .debug
  | "info" => some .info
  | "warning" | "warn" => some .warning
  | "error" => some .error
  | "critical" | "fatal" => some .critical
  | _ => none

end Level

/-- Why a setup is refused. -/
inductive Fault where
  /-- The level is not text. -/
  | levelNotText
  /-- The name belongs to something that is text but no level. -/
  | levelIsText
  /-- The name belongs to something that cannot be a level at all. -/
  | levelIsTable
deriving DecidableEq, Repr

/-- The level of a name in capitals. A name that means nothing stands for the usual level. -/
def levelNamed (name : String) : Except Fault Level :=
  match name with
  | "NOTSET" => .ok .notSet
  | "DEBUG" => .ok .debug
  | "INFO" => .ok .info
  | "WARN" | "WARNING" => .ok .warning
  | "ERROR" => .ok .error
  | "FATAL" | "CRITICAL" => .ok .critical
  | "BASIC_FORMAT" => .error .levelIsText
  | "_STYLES" => .error .levelIsTable
  | _ => .ok .info

/-- The state of logging. -/
structure State where
  level : Level := .warning
  /-- Whether the level has been settled. -/
  settled : Bool := false
  /-- How lines are written, once that is known. -/
  format : Option LogFormat := none

/-- The steps that a line goes through, by name. -/
def steps : LogFormat → List String
  | .json => ["merge_contextvars", "add_log_level", "add_logger_name", "TimeStamper",
      "ExceptionRenderer", "JSONRenderer"]
  | .console => ["merge_contextvars", "add_log_level", "add_logger_name", "TimeStamper",
      "ConsoleRenderer"]

/-- Sets logging up. A level that is refused leaves the level settled as it was. -/
def State.setup (s : State) (level : Value) (format : LogFormat) : Except Fault Unit × State :=
  match level with
  | .str name =>
    if s.settled then (.ok (), { s with format := some format })
    else
      match levelNamed (Text.toCapitals (CodePoint.toText name)) with
      | .ok level => (.ok (), ⟨level, true, some format⟩)
      | .error e => (.error e, { s with settled := true })
  | _ => (.error .levelNotText, s)

/-- Any format but JSON is for a terminal. -/
def formatNamed : Value → LogFormat
  | .str s => if CodePoint.toText s = "json" then .json else .console
  | _ => .console

/-! ### JSON -/

/-- A UTF-16 unit as an escape. -/
def escapeUnit (n : Nat) : List Char := '\\' :: 'u' :: Quoted.hex 4 n

def jsonChar (c : Nat) : List Char :=
  if c = 34 then ['\\', '"']
  else if c = 92 then ['\\', '\\']
  else if c = 10 then ['\\', 'n']
  else if c = 13 then ['\\', 'r']
  else if c = 9 then ['\\', 't']
  else if c = 12 then ['\\', 'f']
  else if c = 8 then ['\\', 'b']
  else if 32 ≤ c ∧ c < 127 then [Char.ofNat c]
  else if c < 0x10000 then escapeUnit c
  else escapeUnit (0xD800 + (c - 0x10000) / 1024) ++ escapeUnit (0xDC00 + (c - 0x10000) % 1024)

def jsonText (s : List CodePoint) : String :=
  String.ofList ('"' :: s.flatMap (fun c => jsonChar c.val) ++ ['"'])

mutual

/-- A value as JSON. What JSON has no form for is written as quoted text. -/
def json : Value → String
  | .none => "null"
  | .bool b => if b then "true" else "false"
  | .int n => toString n
  | .float x =>
    match Decimal.float x with
    | "nan" => "NaN"
    | "inf" => "Infinity"
    | "-inf" => "-Infinity"
    | s => s
  | .str s => jsonText s
  | .list vs | .tuple vs => "[" ++ ", ".intercalate (jsonAll vs) ++ "]"
  | .dict es => "\x7b" ++ ", ".intercalate (jsonEntries es) ++ "\x7d"
  | v => jsonText (CodePoint.ofText v.quoted)

def jsonAll : List Value → List String
  | [] => []
  | v :: vs => json v :: jsonAll vs

def jsonEntries : List (Value × Value) → List String
  | [] => []
  | (k, v) :: es => (jsonText (CodePoint.ofText k.plain) ++ ": " ++ json v) :: jsonEntries es

end

/-! ### Lines -/

/-- The keys of an event in order, with a key set to a value. -/
def put (es : List (String × Value)) (k : String) (v : Value) : List (String × Value) :=
  if es.any (·.1 == k) then es.map fun e => if e.1 == k then (k, v) else e else es ++ [(k, v)]

/-- Stands for the time of an event. -/
def time : String := "<time>"

def padRight (width : Nat) (s : String) : String :=
  s ++ String.ofList (List.replicate (width - s.length) ' ')

/-- Text stands as it is unless it holds something that would blur where it ends. -/
def consoleValue : Value → String
  | .str s =>
    let mark (c : CodePoint) : Bool := [32, 9, 61, 13, 10, 34, 39].contains c.val
    if s.any mark then Quoted.text s else CodePoint.toText s
  | v => v.quoted

def jsonLine (fields : List (String × Value)) : String :=
  "\x7b" ++ ", ".intercalate
    (fields.map fun (k, v) => jsonText (CodePoint.ofText k) ++ ": " ++ json v) ++ "\x7d"

/-- The columns of a terminal line: time, level, event, logger, and the other keys in order. -/
def consoleLine (level : Level) (event logger : String) (keys : List (String × Value)) : String :=
  let others := keys.filter fun e => ["timestamp", "level", "event", "logger"].contains e.1 == false
  let sorted := others.mergeSort fun a b => a.1 ≤ b.1
  let columns := [time, "[" ++ padRight 9 level.word ++ "]", padRight 30 event,
    "[" ++ logger ++ "]"] ++ sorted.map fun (k, v) => k ++ "=" ++ consoleValue v
  String.ofList ((" ".intercalate columns).toList.reverse.dropWhile (· == ' ')).reverse

/-- The line of an event, or nothing if its level lies below the one set or logging has not been set
up. -/
def State.line (s : State) (logger : String) (level : Level) (event : String)
    (keys : List (String × Value)) : String :=
  match s.format with
  | none => ""
  | some format =>
    if level.rank < s.level.rank then ""
    else
      let fields := keys.foldl (fun acc e => put acc e.1 e.2) []
      match format with
      | .json =>
        let fields := put fields "event" (.string event)
        let fields := put fields "level" (.string level.word)
        let fields := put fields "logger" (.string logger)
        jsonLine (put fields "timestamp" (.string time)) ++ "\n"
      | .console => consoleLine level event logger fields ++ "\n"

end SourceUnit.Log
