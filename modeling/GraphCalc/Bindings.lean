import GraphCalc.CalcError

/-!
# Bindings

The formulas that names stand for. A formula may mention further names, so names are followed link by
link; the chain of the names already being followed tells when a definition runs in a circle.

`unvisited_append_lt` says that each link leaves fewer bound names off the chain. Every computation that
follows names ends for this reason, whatever circles the bindings hold.
-/

namespace GraphCalc

abbrev Bindings := NameMap Expr

namespace Bindings

/-- One link: the formula of a name, and the chain with the name at its end. A name that is on the
chain already makes a circle, whether it is bound or not. -/
def resolve (E : Bindings) (name : String) (chain : List String) :
    Except CalcError (Expr × List String) :=
  if name ∈ chain then .error (.cyclicDefinition (chain ++ [name]))
  else
    match E.find? name with
    | none => .error (.undefinedVariable name)
    | some bound => .ok (bound, chain ++ [name])

theorem resolve_eq_ok_iff {E : Bindings} {name : String} {chain extended : List String}
    {bound : Expr} :
    E.resolve name chain = .ok (bound, extended) ↔
      name ∉ chain ∧ E.find? name = some bound ∧ extended = chain ++ [name] := by
  unfold resolve
  split
  · simp_all
  · cases E.find? name <;> simp_all [eq_comm]

/-- A link that is not followed has been met before or leads nowhere. -/
theorem resolve_error {E : Bindings} {name : String} {chain : List String} {error : CalcError}
    (failed : E.resolve name chain = .error error) :
    (name ∈ chain ∧ error = .cyclicDefinition (chain ++ [name])) ∨
      (E.find? name = none ∧ error = .undefinedVariable name) := by
  unfold resolve at failed
  split at failed
  · cases failed
    exact .inl ⟨‹_›, rfl⟩
  · split at failed <;> cases failed
    exact .inr ⟨‹_›, rfl⟩

/-- How many bound names are not on a chain. -/
def unvisited (E : Bindings) (chain : List String) : Nat :=
  (E.names.filter (· ∉ chain)).length

theorem unvisited_append_lt {E : Bindings} {name : String} {chain : List String} {bound : Expr}
    (found : E.find? name = some bound) (fresh : name ∉ chain) :
    E.unvisited (chain ++ [name]) < E.unvisited chain := by
  have listed : name ∈ E.names := by
    apply Classical.byContradiction
    intro absent
    simp [NameMap.find?_eq_none_iff.mpr absent] at found
  have split : E.names.filter (· ∉ chain ++ [name]) =
      (E.names.filter (· ∉ chain)).filter (· ≠ name) := by
    rw [List.filter_filter]
    congr 1
    funext n
    simp [and_comm]
  unfold unvisited
  rw [split]
  refine List.length_filter_lt_length_iff_exists.mpr ⟨name, ?_, by simp⟩
  simp [listed, fresh]

/-- A link that is followed leaves fewer names to follow. -/
theorem unvisited_lt_of_resolve {E : Bindings} {name : String} {chain extended : List String}
    {bound : Expr} (h : E.resolve name chain = .ok (bound, extended)) :
    E.unvisited extended < E.unvisited chain := by
  obtain ⟨fresh, found, rfl⟩ := resolve_eq_ok_iff.mp h
  exact unvisited_append_lt found fresh

end Bindings

end GraphCalc
