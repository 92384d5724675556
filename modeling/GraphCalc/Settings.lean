import GraphCalc.CalcError
import GraphCalc.Text.Uppercase

/-!
# Settings

What a calculator session is set up with: how plots are labelled and where they go, the number that a
plot command is worth, and which log records are shown. A log level is given by its name in any case.
-/

namespace GraphCalc

inductive LogLevel where
  | critical
  | fatal
  | error
  | warn
  | warning
  | info
  | debug
  | notset
deriving DecidableEq, Repr

namespace LogLevel

def name : LogLevel → String
  | critical => "CRITICAL"
  | fatal => "FATAL"
  | error => "ERROR"
  | warn => "WARN"
  | warning => "WARNING"
  | info => "INFO"
  | debug => "DEBUG"
  | notset => "NOTSET"

/-- The rank of a level. Records below the rank of the logger are not shown. -/
def severity : LogLevel → Nat
  | critical | fatal => 50
  | error => 40
  | warn | warning => 30
  | info => 20
  | debug => 10
  | notset => 0

def all : List LogLevel := [critical, fatal, error, warn, warning, info, debug, notset]

/-- The level of a name in any mixture of cases. -/
def ofText (text : String) : Except CalcError LogLevel :=
  match all.find? (·.name = Text.uppercase text) with
  | some level => .ok level
  | none => .error (.unknownLogLevel (Text.uppercase text))

end LogLevel

structure Settings where
  /-- The label of every plotted series. -/
  seriesLabel : String := "plot"
  /-- The identifier of the place that plots go to. -/
  outputId : String := "output"
  /-- What a plot command is worth, and what the sampled name stands for while a plotted formula is
  checked for names without a binding. -/
  placeholder : Float := 1.0
  logLevel : LogLevel := .warning
deriving DecidableEq

namespace Settings

/-- Settings that show errors only. -/
def quiet : Settings := { logLevel := .error }

/-- Settings that show every fold, binding and sampling. -/
def verbose : Settings := { logLevel := .debug }

/-- Settings of their parts, of which each may be left out. -/
def create (seriesLabel outputId : Option String) (placeholder : Option Float)
    (level : Option String) : Except CalcError Settings := do
  let default : Settings := {}
  let logLevel ← match level with
    | some text => LogLevel.ofText text
    | none => pure default.logLevel
  return { seriesLabel := seriesLabel.getD default.seriesLabel
           outputId := outputId.getD default.outputId
           placeholder := placeholder.getD default.placeholder
           logLevel }

/-- Whether settings equal the default ones, with the placeholder compared as a number. -/
def isDefault (s : Settings) : Bool :=
  let default : Settings := {}
  s.seriesLabel == default.seriesLabel && s.outputId == default.outputId &&
    s.placeholder == default.placeholder && s.logLevel = default.logLevel

/-- The settings on one line. -/
def describe (s : Settings) : String :=
  "Config(series_label=" ++ Text.quoted s.seriesLabel ++ ", output_id=" ++ Text.quoted s.outputId ++
    ", placeholder=" ++ Double.text s.placeholder ++ ", log_level=" ++ Text.quoted s.logLevel.name ++
    ")"

end Settings

/-- The logger that sessions share: the rank that it shows records from, and how many outputs it has. -/
structure Logger where
  threshold : Nat := 0
  handlers : Nat := 0
deriving DecidableEq, Repr

/-- Applying settings sets the threshold and adds an output to a logger without one. -/
def Logger.configure (logger : Logger) (settings : Settings) : Logger :=
  { threshold := settings.logLevel.severity
    handlers := if logger.handlers = 0 then 1 else logger.handlers }

end GraphCalc
