import GraphCalc.Proofs.IncrementalSimplification
import GraphCalc.Proofs.MissingNames
import GraphCalc.Proofs.Renders

/-!
# Plots of simplified commands

A plot command can be simplified before it is run. Its formula is then reduced while the sampled name is
unbound, and evaluated where the name stands for a position, so a definition that mentions the name is
written out beforehand instead of being followed at every sample. `interpret_simplified_plot` says that
nothing of this shows: the two commands draw the same render, or fail with the same error.

A formula with a reduced form is caught in no circle, and binding the sampled name to a double closes none.
This is why even reports of circles, which simplification may change elsewhere, are no exception here.
-/

namespace GraphCalc

namespace Bindings

open Results

variable {E E' : Bindings} {e r body body' minimum minimum' maximum maximum' step step' : Expr}
  {name : String}
variable [MathLibrary]

/-- What has a reduced form has a value or a fault. -/
theorem Reduces.meaning (reduces : Reduces E e r) :
    (∃ x, Evaluates E e x) ∨ ∃ error, Fails E e error := by
  induction reduces with
  | number x => exact .inl ⟨x, .number x⟩
  | unbound missing => exact .inr ⟨_, .unbound missing⟩
  | link found _ ih =>
    rcases ih with ⟨x, value⟩ | ⟨error, fault⟩
    · exact .inl ⟨x, .link found value⟩
    · exact .inr ⟨error, .link found fault⟩
  | @operation op args reduced arity paired each ih =>
    have meanings : ∀ a ∈ args, (∃ x, Evaluates E a x) ∨ ∃ error, Fails E a error := by
      intro a member
      obtain ⟨_, _, meaning⟩ := exists_of_mem_left (forall₂_of_zip paired ih) member
      exact meaning
    cases op with
    | binary op =>
      obtain ⟨a, b, rfl⟩ := List.length_eq_two.mp arity
      rcases meanings a (by simp) with ⟨x, left⟩ | ⟨error, fault⟩
      · rcases meanings b (by simp) with ⟨y, right⟩ | ⟨error, fault⟩
        · exact .inl ⟨_, .binary op left right⟩
        · exact .inr ⟨error, .right op left fault⟩
      · exact .inr ⟨error, .left op fault⟩
    | unary op =>
      obtain ⟨a, rfl⟩ := List.length_eq_one_iff.mp arity
      rcases meanings a (by simp) with ⟨x, operand⟩ | ⟨error, fault⟩
      · exact .inl ⟨_, .unary op operand⟩
      · exact .inr ⟨error, .operand op fault⟩
    | command command => exact .inr ⟨_, .command command⟩

/-- Where a formula still reduces under larger bindings, its reduced form is evaluated like itself,
without exception. -/
theorem Reduces.toDouble_eq (reduces : Reduces E e r) (larger : Extends E' E)
    (reducible : Reducible E' e) : E'.toDouble [] e = E'.toDouble [] r := by
  have same := reduces.sameMeaning larger
  obtain ⟨q, still⟩ := reducible
  rcases still.meaning with ⟨x, value⟩ | ⟨error, fault⟩
  · rw [value.toDouble_nil, ((same.evaluates x).mp value).toDouble_nil]
  · rw [fault.toDouble_nil, ((same.fails error).mp fault).toDouble_nil]

/-- Likewise, the walk lists the same unbound names. -/
theorem Reduces.unboundNames_eq (reduces : Reduces E e r) (larger : Extends E' E)
    (reducible : Reducible E' e) : E'.unboundNames [] e = E'.unboundNames [] r := by
  obtain ⟨q, still⟩ := reducible
  obtain ⟨names, first⟩ := still.exists_unboundNames
  obtain ⟨others, second⟩ := (((reduces.sameReduction larger).reduces q).mp still).exists_unboundNames
  have same : names = others := by
    refine NameSet.ext fun name => ?_
    rw [mem_unboundNames_iff first, mem_unboundNames_iff second]
    exact reduces.lacks_iff larger
  rw [first, second, same]

/-- To bind a name to a double closes no circle. -/
theorem Reduces.reducible_insert (reduces : Reduces E e r) (unbound : E.find? name = none) (x : Float) :
    Reducible (E.insert name (.number x)) e := by
  have larger := extends_insert unbound (.number x)
  induction reduces with
  | number y => exact ⟨_, .number y⟩
  | @unbound other missing =>
    have found := NameMap.find?_insert E name other (.number x)
    split at found
    · exact ⟨_, .link found (.number x)⟩
    · exact ⟨_, .unbound (found.trans missing)⟩
  | link found _ ih =>
    obtain ⟨q, reduces⟩ := ih
    exact ⟨q, .link (larger _ _ found) reduces⟩
  | @operation op args _ arity paired _ ih =>
    have each : ∀ a ∈ args, Reducible (E.insert name (.number x)) a := by
      intro a member
      obtain ⟨_, _, reducible⟩ := exists_of_mem_left (forall₂_of_zip paired ih) member
      exact reducible
    obtain ⟨others, pairs⟩ := exists_forall₂ each
    exact ⟨_, .of_pairs op arity pairs⟩

theorem gridOf_ofExprs (E : Bindings) (body parameter minimum maximum step : Expr) :
    E.gridOf (.ofExprs body parameter minimum maximum step) = do
      let minimum ← E.toDouble [] minimum
      let maximum ← E.toDouble [] maximum
      let step ← E.toDouble [] step
      return { minimum, maximum, step } := rfl

theorem sampled_ofExprs (E : Bindings) (settings : Settings) (body minimum maximum step : Expr)
    (name : String) :
    E.sampled settings (.ofExprs body (.var name) minimum maximum step) = do
      let grid ← E.gridOf (.ofExprs body (.var name) minimum maximum step)
      E.checkGrid name grid
      checkBody (E.insert name (.number settings.placeholder)) body
      let points ← grid.tabulate (E.valueAt name body) 0
      return .ofPoints points := rfl

/-- The samples of reduced formulas over an unbound name are those of the formulas themselves. -/
theorem sampled_reduced (unbound : E.find? name = none) (settings : Settings)
    (bodies : Reduces E body body') (minima : Reduces E minimum minimum')
    (maxima : Reduces E maximum maximum') (steps : Reduces E step step') :
    E.sampled settings (.ofExprs body (.var name) minimum maximum step) =
      E.sampled settings (.ofExprs body' (.var name) minimum' maximum' step') := by
  have here {e r : Expr} (reduces : Reduces E e r) : E.toDouble [] e = E.toDouble [] r :=
    reduces.toDouble_eq (fun _ _ found => found) ⟨r, reduces⟩
  have grids : E.gridOf (.ofExprs body (.var name) minimum maximum step) =
      E.gridOf (.ofExprs body' (.var name) minimum' maximum' step') := by
    rw [gridOf_ofExprs, gridOf_ofExprs, here minima, here maxima, here steps]
  have checks (x : Float) : checkBody (E.insert name (.number x)) body =
      checkBody (E.insert name (.number x)) body' := by
    unfold checkBody
    rw [bodies.unboundNames_eq (extends_insert unbound _) (bodies.reducible_insert unbound x)]
  have values : E.valueAt name body = E.valueAt name body' := by
    funext x
    exact bodies.toDouble_eq (extends_insert unbound _) (bodies.reducible_insert unbound x)
  rw [sampled_ofExprs, sampled_ofExprs, grids, checks, values]

end Bindings

namespace Session

open GraphCalc.Bindings Results

variable {s : Session} {name : String} {body minimum maximum step node : Expr}

/-- Simplifying a plot command over an unbound name leaves a plot command over that name. -/
theorem exists_of_simplify_plot [MathLibrary] (unbound : s.bindings.find? name = none)
    (simplified : s.bindings.simplify []
      (.operation Command.plot.name [body, .var name, minimum, maximum, step]) = .ok node) :
    ∃ body' minimum' maximum' step',
      node = .operation Command.plot.name [body', .var name, minimum', maximum', step'] ∧
        Reduces s.bindings body body' ∧ Reduces s.bindings minimum minimum' ∧
        Reduces s.bindings maximum maximum' ∧ Reduces s.bindings step step' := by
  have reduces : Reduces s.bindings
      (.operation (Op.command .plot).name [body, .var name, minimum, maximum, step]) node :=
    simplify_eq_ok_iff_reduces.mp simplified
  obtain ⟨_, reduced, pairs, rfl⟩ := reduces_operation_iff.mp reduces
  obtain _ | ⟨bodies, _ | ⟨names, _ | ⟨minima, _ | ⟨maxima, _ | ⟨steps, ⟨⟩⟩⟩⟩⟩⟩ := pairs
  obtain rfl := names.unique (.unbound unbound)
  exact ⟨_, _, _, _, rfl, bodies, minima, maxima, steps⟩

/-- To simplify a plot command over an unbound name before running it changes nothing. Both runs return
the placeholder and hand over the render that the command as written is for, with its label, name, place
and samples bit for bit, or both fail with the error of that render and hand over nothing. -/
theorem interpret_simplified_plot [MathLibrary] (unbound : s.bindings.find? name = none)
    (simplified : s.bindings.simplify []
      (.operation Command.plot.name [body, .var name, minimum, maximum, step]) = .ok node) :
    let outcome := s.rendering (.ofExprs body (.var name) minimum maximum step)
    Draws s (interpret (.operation Command.plot.name [body, .var name, minimum, maximum, step]))
        outcome ∧
      Draws s (interpret node) outcome := by
  obtain ⟨body', minimum', maximum', step', rfl, bodies, minima, maxima, steps⟩ :=
    exists_of_simplify_plot unbound simplified
  have same : s.rendering (.ofExprs body (.var name) minimum maximum step) =
      s.rendering (.ofExprs body' (.var name) minimum' maximum' step') := by
    rw [rendering_eq, rendering_eq, sampled_reduced unbound s.settings bodies minima maxima steps]
    rfl
  refine ⟨draws_interpret rfl s, ?_⟩
  rw [same]
  exact draws_interpret rfl s

/-- The plotted name stands for a line over the sampled one, and the end of the range for a double. -/
theorem interpret_simplified_plot_where_line_is_named :
    let line : Expr := .operation BinaryOp.mul.name [.var "slope", .var "x"]
    let E : Bindings := (NameMap.insert ∅ "slope" (.number 2)).insert "line" line
    let s : Session := ⟨E, .single, {}, []⟩
    let command : Expr :=
      .operation Command.plot.name [.var "line", .var "x", .number 1, .var "slope", .number 1]
    let reduced : Expr := .operation Command.plot.name
      [.operation BinaryOp.mul.name [.number 2, .var "x"], .var "x", .number 1, .number 2, .number 1]
    let outcome :=
      s.rendering (.ofExprs (.var "line") (.var "x") (.number 1) (.var "slope") (.number 1))
    E.find? "x" = none ∧ E.simplify [] command = .ok reduced ∧
      outcome = .ok ⟨"plot", "x", "output", ⟨[1, 2], [2, 4]⟩⟩ ∧
      Draws s (interpret command) outcome ∧ Draws s (interpret reduced) outcome := by
  intro line E s command reduced outcome
  have unbound : E.find? "x" = none := by decide
  have simplified : E.simplify [] command = .ok reduced := by
    have slope : Reduces E (.var "slope") (.number 2) := .link (by decide) (.number 2)
    have product : Reduces E line (.operation BinaryOp.mul.name [.number 2, .var "x"]) :=
      .of_pairs (.binary .mul) rfl (.cons slope (.cons (.unbound unbound) .nil))
    have plot : Reduces E command reduced := by
      refine .of_pairs (.command .plot) rfl (.cons (.link (by decide) product) ?_)
      exact .cons (.unbound unbound) (.cons (.number 1) (.cons slope (.cons (.number 1) .nil)))
    exact simplify_eq_ok_iff_reduces.mpr plot
  -- what the three names stand for while `x` is sampled
  have lineFound (x : Float) : (E.insert "x" (.number x)).find? "line" = some line :=
    extends_insert unbound _ _ _ (by decide)
  have slopeFound (x : Float) : (E.insert "x" (.number x)).find? "slope" = some (.number 2) :=
    extends_insert unbound _ _ _ (by decide)
  have xFound (x : Float) : (E.insert "x" (.number x)).find? "x" = some (.number x) :=
    (NameMap.find?_insert ..).trans (if_pos rfl)
  have grid : E.gridOf (.ofExprs (.var "line") (.var "x") (.number 1) (.var "slope") (.number 1)) =
      .ok ⟨1, 2, 1⟩ := by
    have maximum : E.toDouble [] (.var "slope") = .ok 2 :=
      Evaluates.toDouble_nil (.link (by decide) (.number 2))
    rw [gridOf_ofExprs, maximum, toDouble_number]
    rfl
  have checked : E.checkGrid "x" ⟨1, 2, 1⟩ = .ok () := by
    unfold Bindings.checkGrid
    rw [if_neg (by decide), if_neg (by decide), if_neg (by decide)]
    rfl
  have complete :
      Bindings.checkBody (E.insert "x" (.number s.settings.placeholder)) (.var "line") = .ok () := by
    have walked : Bindings.unboundNames (E.insert "x" (.number s.settings.placeholder)) []
        (.var "line") = .ok (∅ ∪ ∅ ∪ ∅) := by
      simp [unboundNames_var, unboundNames_operation, lineFound, slopeFound, xFound, line,
        Bind.bind, Except.bind, pure, Except.pure]
    unfold Bindings.checkBody
    rw [walked]
    rfl
  have values : E.valueAt "x" (.var "line") = fun x => .ok (2 * x) := by
    funext x
    have product : Evaluates (E.insert "x" (.number x)) line (2 * x) :=
      .binary .mul (.link (slopeFound x) (.number 2)) (.link (xFound x) (.number x))
    exact Evaluates.toDouble_nil (.link (lineFound x) product)
  have points : Grid.tabulate ⟨1, 2, 1⟩ (E.valueAt "x" (.var "line")) 0 =
      .ok [(1, 2), (2, 4)] := by
    rw [values, Grid.tabulate_inside _ (by decide), Grid.tabulate_inside _ (by decide),
      Grid.tabulate_outside _ (by decide)]
    decide +kernel
  have sampled : s.bindings.sampled s.settings
      (.ofExprs (.var "line") (.var "x") (.number 1) (.var "slope") (.number 1)) =
        .ok ⟨[1, 2], [2, 4]⟩ := by
    rw [sampled_ofExprs, show s.bindings = E from rfl, grid]
    simp only [Bind.bind, Except.bind, checked, complete, points]
    rfl
  have drawn : outcome = .ok ⟨"plot", "x", "output", ⟨[1, 2], [2, 4]⟩⟩ := by
    unfold outcome
    rw [rendering_eq, sampled]
    rfl
  exact ⟨unbound, simplified, drawn, interpret_simplified_plot (s := s) unbound simplified⟩

end Session

end GraphCalc
