import GraphCalc.Proofs.InputLines
import GraphCalc.Proofs.Reachability

/-!
# Bindings without circles

Bindings are acyclic if no name leads back to itself from one definition to the next. Under such bindings
nothing ever reports a circle: not evaluation, simplification or the search for unbound names, and not a plot
or a line of input either, although a plot works under bindings of its own for a while.

`Acyclic.insert` says which bindings may be added. A definition whose names stand for nothing leads nowhere, so
it closes no circle, whatever the name stood for before and wherever it is used.
-/

namespace GraphCalc

open Relation Results

variable {α β : Type}

/-- An outcome is no report of a circle. -/
def Uncircled (outcome : Except CalcError α) : Prop :=
  ∀ names, outcome ≠ .error (.cyclicDefinition names)

namespace Uncircled

theorem ok (a : α) : Uncircled (.ok a : Except CalcError α) := fun _ => nofun

theorem bind {outcome : Except CalcError α} {next : α → Except CalcError β} (first : Uncircled outcome)
    (rest : ∀ a, outcome = .ok a → Uncircled (next a)) : Uncircled (outcome >>= next) := by
  intro names failed
  rcases bind_eq_error_iff.mp failed with here | ⟨a, result, later⟩
  · exact first names here
  · exact rest a result names later

end Uncircled

/-- No value is refused as circular. -/
theorem Operand.uncircled_toExpr (operand : Operand) : Uncircled operand.toExpr := by
  intro names refused
  unfold toExpr at refused
  split at refused
  · cases refused
  · cases refused
  · split at refused <;> cases refused
  · cases refused

/-- A command refuses a formula for its name or its number of arguments. -/
theorem Command.uncircled_requestOf (command : Command) (node : Expr) :
    Uncircled (command.requestOf node) := by
  intro names refused
  unfold requestOf at refused
  split at refused
  · split at refused
    · split at refused <;> cases refused
    · cases refused
  · cases refused

namespace Bindings

variable {E : Bindings} {chain names : List String} {name a b c : String} {e : Expr}

/-- No name leads back to itself. -/
def Acyclic (E : Bindings) : Prop := ∀ name, ¬TransGen (Defines E) name name

theorem acyclic_empty : Acyclic ∅ := by
  intro name round
  obtain ⟨_, ⟨_, found, _⟩, _⟩ := TransGen.head'_iff.mp round
  cases found

theorem Acyclic.circleFree (acyclic : Acyclic E) (e : Expr) : CircleFree E e :=
  fun name _ => acyclic name

theorem Acyclic.not_reports (acyclic : Acyclic E) : ¬Reports E [] e names :=
  (acyclic.circleFree e).not_reports

theorem Acyclic.isCalculable (acyclic : Acyclic E) (e : Expr) : Uncircled (E.isCalculable [] e) :=
  fun _ failed => acyclic.not_reports (reports_of_isCalculable failed)

theorem Acyclic.unboundNames (acyclic : Acyclic E) (e : Expr) : Uncircled (E.unboundNames [] e) :=
  fun _ failed => acyclic.not_reports (reports_of_unboundNames failed)

/-- A link that leads on, under bindings with a definition that leads nowhere, is not that definition's. -/
theorem defines_of_insert (settled : Settled E e) (apart : name ∉ e.freeNames)
    (step : Defines (E.insert name e) a b) (onwards : Defines (E.insert name e) b c) :
    Defines E a b := by
  obtain ⟨bound, found, member⟩ := step
  rw [NameMap.find?_insert] at found
  split at found
  · cases found
    have different : b ≠ name := fun same => apart (same ▸ member)
    obtain ⟨_, other, _⟩ := onwards
    rw [NameMap.find?_insert, if_neg different, settled b member] at other
    cases other
  · exact ⟨bound, found, member⟩

/-- So a path that leads on has been there before. -/
theorem transGen_defines_of_insert (settled : Settled E e) (apart : name ∉ e.freeNames)
    (path : TransGen (Defines (E.insert name e)) a b) (onwards : Defines (E.insert name e) b c) :
    TransGen (Defines E) a b := by
  induction path generalizing c with
  | single step => exact .single (defines_of_insert settled apart step onwards)
  | tail _ step ih => exact .tail (ih step) (defines_of_insert settled apart step onwards)

/-- A definition whose names stand for nothing, its own name not among them, closes no circle. -/
theorem Acyclic.insert (acyclic : Acyclic E) (settled : Settled E e) (apart : name ∉ e.freeNames) :
    Acyclic (NameMap.insert E name e) := by
  intro other round
  obtain ⟨_, step, _⟩ := TransGen.head'_iff.mp round
  exact acyclic other (transGen_defines_of_insert settled apart round step)

theorem Acyclic.insert_number (acyclic : Acyclic E) (name : String) (x : Float) :
    Acyclic (NameMap.insert E name (.number x)) :=
  acyclic.insert (settled_number x) (by simp)

variable [MathLibrary]

theorem Acyclic.toDouble (acyclic : Acyclic E) (e : Expr) : Uncircled (E.toDouble [] e) :=
  fun _ failed => acyclic.not_reports (reports_of_toDouble failed)

theorem Acyclic.simplify (acyclic : Acyclic E) (e : Expr) : Uncircled (E.simplify [] e) :=
  fun _ failed => acyclic.not_reports (reports_of_simplify .nil failed)

/-- A plot meets no circle either. -/
theorem Acyclic.sampled (acyclic : Acyclic E) (settings : Settings) (request : PlotRequest) :
    Uncircled (E.sampled settings request) := by
  intro names failed
  cases sampleFault_of_error failed with
  | refusal refusal => cases refusal
  | operand _ refused => exact Operand.uncircled_toExpr _ names refused
  | range failed => exact acyclic.toDouble _ names failed
  | search failed => exact (acyclic.insert_number _ _).unboundNames _ names failed
  | position failed => exact (acyclic.insert_number _ _).toDouble _ names failed

theorem Acyclic.answer (acyclic : Acyclic E) (settings : Settings) (request : Request) :
    Uncircled (E.answer settings request) := by
  cases request with
  | toDouble e => exact (acyclic.toDouble e).bind fun x _ => .ok _
  | simplify e => exact acyclic.simplify e
  | plot request => exact (acyclic.sampled settings request).bind fun _ _ => .ok _

theorem Acyclic.answerCommand (acyclic : Acyclic E) (settings : Settings) (command : Command)
    (node : Expr) : Uncircled (E.answerCommand settings command node) :=
  (command.uncircled_requestOf node).bind fun request _ => acyclic.answer settings request

theorem Acyclic.answerLine (acyclic : Acyclic E) (settings : Settings) (node : Expr) :
    Uncircled (E.answerLine settings node) := by
  unfold Bindings.answerLine
  split
  · exact acyclic.answerCommand settings _ node
  · exact acyclic.simplify node

end Bindings

end GraphCalc
