import GraphCalc.Simplification

/-!
# The folds of a simplification

Which operations give way to their values, in the order in which that happens. It is what a journal of a
simplification shows, whether the simplification succeeds or not.

Simplification itself keeps no record. An operation has given way to its value exactly if a number comes of it, so
the record can be read off from what comes of the parts of a formula.
-/

namespace GraphCalc.Bindings

/-- An operation that gave way to its value. -/
structure Fold where
  formula : Expr
  value : Float

variable [MathLibrary]

/-- The fold of an operation itself, after those in its arguments. -/
def lastFold (E : Bindings) (chain : List String) (e : Expr) : List Fold :=
  match E.simplify chain e with
  | .ok (.number value) => [⟨e, value⟩]
  | _ => []

/-- The operations that simplification works out, in the order in which it does, up to the first failure. -/
def folds (E : Bindings) (chain : List String) : Expr → List Fold
  | .number _ => []
  | .var name =>
    match _link : E.resolve name chain with
    | .error _ => []
    | .ok (bound, extended) => folds E extended bound
  | .operation name args =>
    if (Expr.checkArity name args).isOk then
      args.foldr (fun arg later => folds E chain arg ++ if (E.simplify chain arg).isOk then later else [])
        (E.lastFold chain (.operation name args))
    else []
termination_by e => (E.unvisited chain, sizeOf e)
decreasing_by
  · exact Prod.Lex.left _ _ (unvisited_lt_of_resolve _link)
  · apply Prod.Lex.right
    decreasing_tactic

end GraphCalc.Bindings
