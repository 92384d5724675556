import GraphCalc.Event
import GraphCalc.Operand
import GraphCalc.Recorder
import GraphCalc.UnboundNames

/-!
# Sessions

One calculator at work: what names stand for, the plots recorded so far, the settings, and the events
reported. An `Action` runs in a session. It returns a value or fails with an error, and in both cases it
leaves a session behind, so what a failure has changed stays visible.

`withBinding` binds a name for the time of another action. However that action ends, the name then stands for
what it stood for before: `find?_withBinding` says so for every action.
-/

namespace GraphCalc

structure Session where
  bindings : Bindings
  recorder : Recorder
  settings : Settings
  /-- The events so far, oldest first. -/
  journal : List Event

/-- A computation in a session. -/
abbrev Action (α : Type) := ExceptT CalcError (StateM Session) α

namespace Action

variable {α : Type}

/-- The result of an action and the session that it leaves. -/
def runIn (action : Action α) (s : Session) : Except CalcError α × Session :=
  action.run.run s

/-- A result that depends on no session. -/
def ofExcept (result : Except CalcError α) : Action α := ExceptT.mk (pure result)

/-- A result that is computed from the bindings, which stay as they are. -/
def query (f : Bindings → Except CalcError α) : Action α :=
  ExceptT.mk fun s => (f s.bindings, s)

end Action

namespace Session

variable {α : Type}

def bind (s : Session) (name : String) (e : Expr) : Session :=
  { s with bindings := s.bindings.insert name e }

def unbind (s : Session) (name : String) : Session :=
  { s with bindings := s.bindings.erase name }

/-- The session with a name standing for what it stood for before, or for nothing. -/
def restore (s : Session) (name : String) : Option Expr → Session
  | some previous => s.bind name previous
  | none => s.unbind name

def report (s : Session) (event : Event) : Session :=
  { s with journal := s.journal ++ [event] }

/-- Of the pairs with one name only the last value, in the place of the first. -/
def lastOfEach (pairs : List (String × α)) : List (String × α) :=
  pairs.foldl
    (fun kept pair =>
      if kept.any (·.1 = pair.1) then
        kept.map fun other => if other.1 = pair.1 then pair else other
      else kept ++ [pair])
    []

/-- A session at its start. Of several values for one name the last one counts, and only it has to be
one that a name can stand for. -/
def create (recorder : Recorder) (settings : Settings) (definitions : List (String × Operand)) :
    Except CalcError Session := do
  let pairs ← (lastOfEach definitions).mapM fun (name, value) => do
    return (name, ← value.toExpr)
  return { bindings := NameMap.ofList pairs, recorder, settings, journal := [] }

/-- The names that stand for something, and what the plots go to, on one line. -/
def describe (s : Session) : String :=
  "Environment(\x7b" ++ ", ".intercalate s.bindings.names ++ "\x7d, sink=RecordingSink)"

def log (event : Event) : Action Unit := modify (·.report event)

def bindName (name : String) (e : Expr) : Action Unit := modify (·.bind name e)

/-- Removes what a name stands for and returns it. -/
def unbindName (name : String) : Action (Option Expr) := do
  let s ← get
  set (s.unbind name)
  return s.bindings.find? name

/-- The value of a formula under the present bindings. -/
def evaluate [MathLibrary] (e : Expr) : Action Float := .query (·.toDouble [] e)

/-- The reduced form of a formula under the present bindings. -/
def reduce [MathLibrary] (e : Expr) : Action Expr := do
  modify fun s => { s with journal := s.journal ++ (s.bindings.folds [] e).map .folded }
  .query (·.simplify [] e)

/-- Binds a name while an action runs. When the action is over, whether it returned or failed, and
whatever it did to the name, the name stands again for what it stood for before, and for nothing if it
stood for nothing. -/
def withBinding (name : String) (e : Expr) (action : Action α) : Action α :=
  ExceptT.mk fun s =>
    let previous := s.bindings.find? name
    let (result, inner) := action.runIn ((s.bind name e).report (.bound name))
    (result, (inner.restore name previous).report (.released name))

theorem find?_restore (s : Session) (name other : String) (previous : Option Expr) :
    (s.restore name previous).bindings.find? other =
      if other = name then previous else s.bindings.find? other := by
  cases previous with
  | none => exact NameMap.find?_erase s.bindings name other
  | some e => exact NameMap.find?_insert s.bindings name other e

/-- After the action the name is as before, and every other name as the action itself left it. -/
theorem find?_withBinding (name other : String) (e : Expr) (action : Action α) (s : Session) :
    ((withBinding name e action).runIn s).2.bindings.find? other =
      if other = name then s.bindings.find? name
      else (action.runIn ((s.bind name e).report (.bound name))).2.bindings.find? other :=
  find?_restore _ name other _

end Session

end GraphCalc
