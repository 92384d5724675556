import GraphCalc.Simplification
import GraphCalc.UnboundNames

/-!
# Resolutions under observation

Evaluation, simplification, the test for a number in disguise and the search for unbound names all resolve names: they
look a name up and go on in its definition, where further names may have to be resolved before this one is done. Here
each of the four runs under observation. Whenever a name is about to be resolved, the names that are then being
resolved are recorded, outermost first. And there is a limit to their number: a computation that would nest more
resolutions is cut off and has no outcome.

The recursion ends because of the limit alone. Neither the chain nor the bindings are asked for that, so whether an
observed computation has an outcome says something about the computation that is observed.
-/

namespace GraphCalc.Bindings

/-- Computations that keep a record of the names being resolved, one entry for each resolution, the latest first. One
that is cut off has no outcome. -/
abbrev Observed (α : Type) := ExceptT CalcError (OptionT (StateM (List (List String)))) α

namespace Observed

variable {α : Type}

/-- The outcome of a computation that starts with a record, and the record that it leaves. -/
def observe (action : Observed α) (record : List (List String)) :
    Option (Except CalcError α) × List (List String) :=
  action.run.run.run record

/-- A result that takes no resolutions. -/
def ofExcept (result : Except CalcError α) : Observed α := ExceptT.mk (pure result)

/-- Begins to resolve the last of some names while the others are being resolved, and returns how many resolutions may
still be nested in this one. -/
def opening (limit : Nat) (names : List String) : Observed {rest : Nat // rest < limit} :=
  match limit with
  | 0 => ExceptT.mk (OptionT.mk (pure none))
  | rest + 1 => do
    modify (names :: ·)
    return ⟨rest, Nat.lt_succ_self rest⟩

end Observed

variable [MathLibrary]

/-- Evaluation under observation, while the pending names are being resolved. -/
def observedToDouble (E : Bindings) (limit : Nat) (pending chain : List String) : Expr → Observed Float
  | .number x => return x
  | .var name => do
    let (bound, extended) ← .ofExcept (E.resolve name chain)
    let ⟨rest, _⟩ ← Observed.opening limit (pending ++ [name])
    observedToDouble E rest (pending ++ [name]) extended bound
  | .operation name args =>
    match Op.named? name with
    | none => throw (.unknownOperation name none)
    | some (.command _) => throw (.unknownOperation name (some CalcError.numericContext))
    | some (.binary op) =>
      match args with
      | [a, b] => do
        return op.apply (← observedToDouble E limit pending chain a) (← observedToDouble E limit pending chain b)
      | _ => throw (.wrongArity name 2 args.length)
    | some (.unary op) =>
      match args with
      | [a] => do return op.apply (← observedToDouble E limit pending chain a)
      | _ => throw (.wrongArity name 1 args.length)
termination_by e => (limit, sizeOf e)

/-- The test for a number in disguise under observation. -/
def observedIsCalculable (E : Bindings) (limit : Nat) (pending chain : List String) : Expr → Observed Bool
  | .number _ => return true
  | .var name =>
    if name ∈ chain then throw (.cyclicDefinition (chain ++ [name]))
    else
      match E.find? name with
      | none => return false
      | some bound => do
        let ⟨rest, _⟩ ← Observed.opening limit (pending ++ [name])
        observedIsCalculable E rest (pending ++ [name]) (chain ++ [name]) bound
  | .operation _ _ => return false
termination_by limit

/-- Simplification under observation. What becomes of a definition and of an operation is the same as without. -/
def observedSimplify (E : Bindings) (limit : Nat) (pending chain : List String) : Expr → Observed Expr
  | .number x => return .number x
  | .var name =>
    if (E.find? name).isNone then return .var name
    else do
      let (bound, extended) ← .ofExcept (E.resolve name chain)
      let ⟨rest, _⟩ ← Observed.opening limit (pending ++ [name])
      reduceBound (E.observedIsCalculable rest (pending ++ [name]) extended bound)
        (E.observedToDouble rest (pending ++ [name]) extended bound)
        (observedSimplify E rest (pending ++ [name]) extended bound)
  | .operation name args =>
    reduceOperation name (.ofExcept (Expr.checkArity name args)) (args.mapM (observedSimplify E limit pending chain))
      (foldValueBy (E.observedIsCalculable limit pending chain) (E.observedToDouble limit pending chain))
termination_by e => (limit, sizeOf e)

/-- The search for unbound names under observation. -/
def observedUnboundNames (E : Bindings) (limit : Nat) (pending chain : List String) : Expr → Observed NameSet
  | .number _ => return ∅
  | .var name =>
    if name ∈ chain then throw (.cyclicDefinition (chain ++ [name]))
    else
      match E.find? name with
      | none => return .singleton name
      | some bound => do
        let ⟨rest, _⟩ ← Observed.opening limit (pending ++ [name])
        observedUnboundNames E rest (pending ++ [name]) (chain ++ [name]) bound
  | .operation _ args => do
    let sets ← args.mapM (observedUnboundNames E limit pending chain)
    return sets.foldl (· ∪ ·) ∅
termination_by e => (limit, sizeOf e)

end GraphCalc.Bindings
