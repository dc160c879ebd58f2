import QuizOverrides.Site.Records

set_option autoImplicit false

/-!
# Log lines

What a site writes while it works: the lines of its components, which are always written, and the
lines of the console, which have a threshold.

## Main definitions

* `QuizOverrides.LogLine` — a line of a component.
* `QuizOverrides.Console` — the lines written to the console and its threshold.
* `QuizOverrides.Console.admits` — whether lines of a level are written.
-/

namespace QuizOverrides

/-! ## Components -/

/-- **The weight of a line.** -/
inductive LogWeight where
  | log
  | warn
  | error
  | debug
deriving DecidableEq, Repr, Inhabited

/-- The word for a weight. -/
def LogWeight.name : LogWeight → String
  | log => "log"
  | warn => "warn"
  | error => "error"
  | debug => "debug"

/-- **What a line has besides its message**: a trace, or the entity that it is about. -/
inductive LogDetail where
  | trace (trace : Trace)
  | entity (id type : Option Payload)
deriving Repr

/-- **A line of a component.** -/
structure LogLine where
  weight : LogWeight
  component : String
  message : String
  details : List LogDetail := []
deriving Repr

/-! ## The console -/

/-- The levels of the console, from the lowest to the highest. -/
def consoleLevels : List String := ["debug", "info", "warn", "error"]

/-- The text is a level of the console. -/
def isConsoleLevel (s : String) : Bool := consoleLevels.contains s

/-- The rank of a level, counted from one; a text that is no level has the rank zero. -/
def consoleRank (s : String) : Nat :=
  match consoleLevels.findIdx? (· == s) with
  | some i => i + 1
  | none => 0

/-- **A line of the console**: a headed line, with the channel that it is written to, its heading,
its context and its message, a trace on a line of its own, or any other line. -/
inductive ConsoleLine where
  | headed (channel : LogWeight) (heading context message : String)
  | trace (trace : Trace)
  | plain (channel : LogWeight) (message : String)
deriving DecidableEq, Repr

/-- **The console**: its threshold and what has been written to it. -/
structure Console where
  threshold : String := "debug"
  lines : List ConsoleLine := []
deriving DecidableEq, Repr, Inhabited

namespace Console

/-- **Lines of a level are written** if the level is not below the threshold. -/
def admits (c : Console) (level : String) : Bool :=
  consoleRank c.threshold ≤ consoleRank level

/-- The console after one more line. -/
def add (c : Console) (line : ConsoleLine) : Console :=
  { c with lines := c.lines ++ [line] }

/-- The context named in a line; without one the line belongs to the application. -/
def contextName (context : Option String) : String := context.getD "App"

/-- The console after a headed line of a level. -/
def write (c : Console) (level : String) (channel : LogWeight) (heading : String)
    (context : Option String) (message : String) : Console :=
  if c.admits level then c.add (.headed channel heading (contextName context) message) else c

/-- The console after a message. -/
def log (c : Console) (message : String) (context : Option String) : Console :=
  c.write "info" .log "LOG" context message

/-- The console after a warning. -/
def warn (c : Console) (message : String) (context : Option String) : Console :=
  c.write "warn" .warn "WARN" context message

/-- The console after a message for developers. -/
def debug (c : Console) (message : String) (context : Option String) : Console :=
  c.write "debug" .debug "DEBUG" context message

/-- The trace is an empty text, which is not written. -/
def isEmptyTrace : Trace → Bool
  | .callStack => false
  | .text s => s == ""

/-- **The console after an error**, which is written whatever the threshold, with its trace on a
line of its own. -/
def error (c : Console) (message : String) (trace : Trace) (context : Option String) : Console :=
  let c := c.add (.headed .error "ERROR" (contextName context) message)
  if isEmptyTrace trace then c else c.add (.trace trace)

/-- The console with another threshold, whatever its text. -/
def setThreshold (c : Console) (level : String) : Console :=
  { c with threshold := level }

end Console

end QuizOverrides
