import GraphCalc.Expr.Basic
import Mathlib.Logic.Relation

/-!
# Walks over formulas

Every computation over bindings walks from a formula to the formulas that it needs, and from a name to
what the name stands for. It keeps the names that it is following on a chain and gives up at a name
that is on the chain already. The relation `R` says which formulas a walk leads to next; each
computation brings its own.

`Grounded.not_returns` is why the chain refuses nothing that could be worked out: where every walk
ends, none comes back to a formula that it has left.
-/

namespace GraphCalc

open Relation

variable {R : Expr → Expr → Prop} {chain : List String} {e f : Expr}

/-- Every walk from the formula ends. -/
def Grounded (R : Expr → Expr → Prop) (e : Expr) : Prop := Acc (Function.swap R) e

/-- Some walk from the formula comes round to where it was before, or meets a name of the chain. -/
def Returns (R : Expr → Expr → Prop) (chain : List String) (e : Expr) : Prop :=
  ∃ f, ReflTransGen R e f ∧ (TransGen R f f ∨ ∃ name ∈ chain, f = .var name)

theorem Grounded.of_steps (steps : ∀ f, R e f → Grounded R f) : Grounded R e := Acc.intro e steps

theorem Grounded.walk (grounded : Grounded R e) (walk : ReflTransGen R e f) : Grounded R f := by
  induction walk with
  | refl => exact grounded
  | tail _ step ih => exact ih.inv step

theorem Grounded.not_round (grounded : Grounded R e) : ¬TransGen R e e := by
  intro round
  have ends : Acc (TransGen (Function.swap R)) e := acc_transGen_iff.mpr grounded
  have turned : TransGen (Function.swap R) e e := transGen_swap.mpr round
  induction ends with
  | intro e _ ih => exact ih e turned (grounded.walk .refl) round turned

theorem Returns.here {name : String} (member : name ∈ chain) : Returns R chain (.var name) :=
  ⟨.var name, .refl, .inr ⟨name, member, rfl⟩⟩

theorem Returns.step (step : R e f) (returns : Returns R chain f) : Returns R chain e := by
  obtain ⟨g, walk, comesBack⟩ := returns
  exact ⟨g, walk.head step, comesBack⟩

/-- A walk that comes back to the name just entered on the chain has come round. -/
theorem Returns.link {name : String} (step : R (.var name) f)
    (returns : Returns R (chain ++ [name]) f) : Returns R chain (.var name) := by
  obtain ⟨g, walk, round | ⟨other, member, same⟩⟩ := returns
  · exact ⟨g, walk.head step, .inl round⟩
  · rcases List.mem_append.mp member with earlier | last
    · exact ⟨g, walk.head step, .inr ⟨other, earlier, same⟩⟩
    · obtain rfl : other = name := List.mem_singleton.mp last
      subst same
      exact ⟨.var other, .refl, .inl (TransGen.head' step walk)⟩

/-- Where nothing leads back, a name is not on the chain yet and can be entered. -/
theorem Returns.not_link {name : String} (step : R (.var name) f)
    (clear : ¬Returns R chain (.var name)) : name ∉ chain ∧ ¬Returns R (chain ++ [name]) f :=
  ⟨fun member => clear (.here member), fun returns => clear (.link step returns)⟩

theorem Grounded.not_returns (grounded : Grounded R e) : ¬Returns R [] e := by
  rintro ⟨f, walk, round | ⟨name, member, _⟩⟩
  · exact (grounded.walk walk).not_round round
  · cases member

end GraphCalc
