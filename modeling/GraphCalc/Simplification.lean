import GraphCalc.Evaluation

/-!
# Simplification

The most reduced form of a formula under bindings: bound names give way to what they stand for, and
`+`, `*` and `negate` of numbers to their value. The other operations stay as written, even between
numbers, and unbound names stay as well.

`simplify_number`, `simplify_var` and `simplify_operation` restate the definition case by case, and so do
the equations of `isCalculable`.
-/

namespace GraphCalc.Bindings

/-- Whether a formula is a number, or a name that leads to one. Operations never are. -/
def isCalculable (E : Bindings) (chain : List String) : Expr → Except CalcError Bool
  | .number _ => .ok true
  | .var name =>
    if _fresh : name ∈ chain then .error (.cyclicDefinition (chain ++ [name]))
    else
      match _found : E.find? name with
      | none => .ok false
      | some bound => isCalculable E (chain ++ [name]) bound
  | .operation _ _ => .ok false
termination_by E.unvisited chain
decreasing_by exact unvisited_append_lt _found _fresh

@[simp] theorem isCalculable_number (E : Bindings) (chain : List String) (x : Float) :
    E.isCalculable chain (.number x) = .ok true := by
  rw [isCalculable]

@[simp] theorem isCalculable_operation (E : Bindings) (chain : List String) (name : String)
    (args : List Expr) : E.isCalculable chain (.operation name args) = .ok false := by
  rw [isCalculable]

theorem isCalculable_var (E : Bindings) (chain : List String) (name : String) :
    E.isCalculable chain (.var name) =
      if name ∈ chain then .error (.cyclicDefinition (chain ++ [name]))
      else
        match E.find? name with
        | none => .ok false
        | some bound => E.isCalculable (chain ++ [name]) bound := by
  rw [isCalculable]
  split
  · rfl
  · split <;> rename_i found <;> rw [found]

variable [MathLibrary]

section

variable {m : Type → Type} [Monad m]

/-- The value that an operation on simplified arguments gives way to, if it folds and they are all calculable. What is
asked of the arguments may be asked in any kind of computation. -/
def foldValueBy (isCalculable : Expr → m Bool) (toDouble : Expr → m Float) (op : Op) (args : List Expr) :
    m (Option Float) :=
  match op, args with
  | .binary op, [a, b] => do
    if op.folds then
      if ← isCalculable a then
        if ← isCalculable b then
          return some (op.apply (← toDouble a) (← toDouble b))
    return none
  | .unary op, [a] => do
    if op.folds then
      if ← isCalculable a then
        return some (op.apply (← toDouble a))
    return none
  | _, _ => return none

/-- The reduced form of what a name stands for. -/
@[macro_inline] def reduceBound (calculable : m Bool) (value : m Float) (simplified : m Expr) : m Expr := do
  if ← calculable then return .number (← value) else simplified

/-- The reduced form of an operation. It is refused before its arguments are looked at, and they are simplified before
it is asked whether it folds. -/
@[macro_inline] def reduceOperation (name : String) (checked : m Op) (simplified : m (List Expr))
    (foldValue : Op → List Expr → m (Option Float)) : m Expr := do
  let op ← checked
  let args ← simplified
  match ← foldValue op args with
  | some value => return .number value
  | none => return .operation name args

end

def foldValue? (E : Bindings) (chain : List String) : Op → List Expr → Except CalcError (Option Float) :=
  foldValueBy (E.isCalculable chain) (E.toDouble chain)

/-- The reduced form of a formula, met while the names of a chain are being followed. -/
def simplify (E : Bindings) (chain : List String) : Expr → Except CalcError Expr
  | .number x => .ok (.number x)
  | .var name =>
    if (E.find? name).isNone then .ok (.var name)
    else
      match _link : E.resolve name chain with
      | .error e => .error e
      | .ok (bound, extended) =>
        reduceBound (E.isCalculable extended bound) (E.toDouble extended bound) (simplify E extended bound)
  | .operation name args =>
    reduceOperation name (Expr.checkArity name args) (args.mapM (simplify E chain)) (E.foldValue? chain)
termination_by e => (E.unvisited chain, sizeOf e)
decreasing_by
  · exact Prod.Lex.left _ _ (unvisited_lt_of_resolve _link)
  · apply Prod.Lex.right
    decreasing_tactic

@[simp] theorem simplify_number (E : Bindings) (chain : List String) (x : Float) :
    E.simplify chain (.number x) = .ok (.number x) := by
  rw [simplify]

theorem simplify_var (E : Bindings) (chain : List String) (name : String) :
    E.simplify chain (.var name) =
      if (E.find? name).isNone then .ok (.var name)
      else
        (E.resolve name chain).bind fun link =>
          reduceBound (E.isCalculable link.2 link.1) (E.toDouble link.2 link.1) (E.simplify link.2 link.1) := by
  rw [simplify]
  split
  · rfl
  · split <;> rename_i link <;> rw [link] <;> rfl

theorem simplify_operation (E : Bindings) (chain : List String) (name : String) (args : List Expr) :
    E.simplify chain (.operation name args) =
      reduceOperation name (Expr.checkArity name args) (args.mapM (E.simplify chain)) (E.foldValue? chain) := by
  rw [simplify]

end GraphCalc.Bindings
