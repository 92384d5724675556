import GraphCalc.Bindings

/-!
# Names without a binding

The names that a formula mentions, itself or through bindings, and that nothing is bound to. Operations
play no part in this: neither their names nor their numbers of arguments.
-/

namespace GraphCalc.Bindings

/-- The unbound names below a formula, met while the names of a chain are being followed. -/
def unboundNames (E : Bindings) (chain : List String) : Expr → Except CalcError NameSet
  | .number _ => .ok ∅
  | .var name =>
    if _fresh : name ∈ chain then .error (.cyclicDefinition (chain ++ [name]))
    else
      match _found : E.find? name with
      | none => .ok (.singleton name)
      | some bound => unboundNames E (chain ++ [name]) bound
  | .operation _ args => do
    let sets ← args.mapM (unboundNames E chain)
    return sets.foldl (· ∪ ·) ∅
termination_by e => (E.unvisited chain, sizeOf e)
decreasing_by
  · exact Prod.Lex.left _ _ (unvisited_append_lt _found _fresh)
  · apply Prod.Lex.right
    decreasing_tactic

@[simp] theorem unboundNames_number (E : Bindings) (chain : List String) (x : Float) :
    E.unboundNames chain (.number x) = .ok ∅ := by
  rw [unboundNames]

theorem unboundNames_var (E : Bindings) (chain : List String) (name : String) :
    E.unboundNames chain (.var name) =
      if name ∈ chain then .error (.cyclicDefinition (chain ++ [name]))
      else
        match E.find? name with
        | none => .ok (.singleton name)
        | some bound => E.unboundNames (chain ++ [name]) bound := by
  rw [unboundNames]
  split
  · rfl
  · split <;> rename_i found <;> rw [found]

theorem unboundNames_operation (E : Bindings) (chain : List String) (name : String)
    (args : List Expr) :
    E.unboundNames chain (.operation name args) = do
      let sets ← args.mapM (E.unboundNames chain)
      return sets.foldl (· ∪ ·) ∅ := by
  rw [unboundNames]

end GraphCalc.Bindings
