import VlanBridge.Data.Json
import VlanBridge.Simulation
/-!
# Options of the program

The program takes options by long or short names. A value stands behind an equals sign, right behind
a short name, or as the next argument, which may then not look like an option itself. No option is
given twice, and nothing but options is given.
-/

namespace VlanBridge

open VlanBridge.Data VlanBridge.Text.Number

/-- How much the program tells about itself while it runs. -/
inductive LogLevel where
  | error
  | warn
  | info
  | debug
  | trace
  deriving DecidableEq, Repr

namespace LogLevel

def word : LogLevel → String
  | .error => "error"
  | .warn => "warn"
  | .info => "info"
  | .debug => "debug"
  | .trace => "trace"

def ofWord? : String → Option LogLevel := named? [.error, .warn, .info, .debug, .trace] word

theorem ofWord?_word (l : LogLevel) : ofWord? l.word = some l := by
  cases l <;> decide

end LogLevel

structure Options where
  scenario : Option String := none
  logLevel : Option LogLevel := none
  changes : Simulation.Changes := {}
  /-- Whether the report stands on one line. -/
  compact : Bool := false
  deriving DecidableEq, Repr

namespace Options

inductive Name where
  | config
  | logLevel
  | frames
  | churn
  | compact
  deriving DecidableEq, Repr

def Name.long : Name → String
  | .config => "config"
  | .logLevel => "log-level"
  | .frames => "frames"
  | .churn => "churn"
  | .compact => "compact"

def Name.ofLong? : String → Option Name :=
  named? [.config, .logLevel, .frames, .churn, .compact] Name.long

def Name.ofShort? : Char → Option Name
  | 'c' => some .config
  | 'l' => some .logLevel
  | 'n' => some .frames
  | _ => none

inductive Fault where
  | unknown (argument : String)
  | valueMissing (name : Name)
  | valueUnexpected (name : Name)
  | repeated (name : Name)
  | valueWrong (name : Name) (value : String)
  deriving DecidableEq, Repr

def Fault.message : Fault → String
  | .unknown argument => "unexpected argument " ++ argument
  | .valueMissing name => "--" ++ name.long ++ " needs a value"
  | .valueUnexpected name => "--" ++ name.long ++ " takes no value"
  | .repeated name => "--" ++ name.long ++ " is given twice"
  | .valueWrong name value => "invalid value " ++ Json.quote value ++ " for --" ++ name.long

/-- The value that stands behind a name after an equals sign. -/
def attached : List Char → Option String
  | '=' :: value => some (String.ofList value)
  | _ => none

/-- The option that an argument names, and the value that is written into the same argument. -/
def split? (argument : String) : Option (Name × Option String) :=
  match argument.toList with
  | '-' :: '-' :: cs =>
    (Name.ofLong? (String.ofList (cs.takeWhile (· != '=')))).map
      (·, attached (cs.dropWhile (· != '=')))
  | '-' :: c :: cs =>
    let value := match cs with
      | [] => none
      | '=' :: value => some value
      | value => some value
    (Name.ofShort? c).map (·, value.map String.ofList)
  | _ => none

/-- Whether an argument cannot be the value of the option before it. -/
def looksLikeOption (argument : String) : Bool :=
  match argument.toList with
  | '-' :: _ :: _ => true
  | _ => false

def has (o : Options) : Name → Bool
  | .config => o.scenario.isSome
  | .logLevel => o.logLevel.isSome
  | .frames => o.changes.framesPerPort.isSome
  | .churn => o.changes.churnPort.isSome
  | .compact => o.compact

/-- Takes the value of an option, if it has the right form. -/
def withValue? (o : Options) (name : Name) (value : String) : Option Options :=
  match name with
  | .config => some { o with scenario := some value }
  | .logLevel => (LogLevel.ofWord? value).map fun l => { o with logLevel := some l }
  | .frames =>
    (parseSigned? 10 (UInt64.size - 1) value.toList).map fun n =>
      { o with changes.framesPerPort := some n }
  | .churn => some { o with changes.churnPort := some value }
  | .compact => none

def set (o : Options) (name : Name) (value : String) : Except Fault Options :=
  if o.has name then .error (.repeated name)
  else match o.withValue? name value with
    | some o => .ok o
    | none => .error (.valueWrong name value)

def setCompact (o : Options) (value : Option String) : Except Fault Options :=
  if value.isSome then .error (.valueUnexpected .compact)
  else if o.compact then .error (.repeated .compact)
  else .ok { o with compact := true }

/-- Reads arguments into the options that are there; `fuel` bounds how many. -/
def read : (fuel : Nat) → Options → List String → Except Fault Options
  | _, o, [] => .ok o
  | 0, _, argument :: _ => .error (.unknown argument)
  | fuel + 1, o, argument :: rest =>
    match split? argument with
    | none => .error (.unknown argument)
    | some (.compact, value) =>
      match o.setCompact value with
      | .ok o => read fuel o rest
      | .error e => .error e
    | some (name, some value) =>
      match o.set name value with
      | .ok o => read fuel o rest
      | .error e => .error e
    | some (name, none) =>
      match rest with
      | [] => .error (.valueMissing name)
      | value :: rest =>
        if looksLikeOption value then .error (.valueMissing name)
        else match o.set name value with
          | .ok o => read fuel o rest
          | .error e => .error e

def parse (arguments : List String) : Except Fault Options := read arguments.length {} arguments

def render (o : Options) (v : Value) : String := if o.compact then Json.compact v else Json.pretty v

end Options

end VlanBridge
