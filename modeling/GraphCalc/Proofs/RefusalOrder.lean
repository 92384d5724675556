import GraphCalc.Proofs.SimplifiedPlots
import GraphCalc.Proofs.SampledSeries
import Mathlib.Data.List.Sort

/-!
# The order of refusals

A plot request can be wrong in several ways at once. `Refuses` says of each check by itself what it finds fault with,
in terms of the bindings that the request meets; `sample_reports_first_fault` says that sampling reports the fault of
the first check that finds one, and gets to its samples if none does.

The last check works under other bindings, in which the name to sample over stands for the placeholder. It may as well
search the formula under the bindings as they are and pass over that name: `unboundNames_insert_number`. So the
placeholder does not matter.
-/

namespace GraphCalc

open Results

/-- The checks of a plot request. -/
inductive PlotCheck where
  | parameter
  | minimum
  | maximum
  | step
  | range
  | freshName
  | direction
  | circles
  | completeness
deriving DecidableEq

/-- The place of a check in the order in which they are made. -/
def PlotCheck.place : PlotCheck → Nat
  | parameter => 0
  | minimum => 1
  | maximum => 2
  | step => 3
  | range => 4
  | freshName => 5
  | direction => 6
  | circles => 7
  | completeness => 8

namespace Bindings

variable {E : Bindings} {chain : List String} {e : Expr} {name : String} {check : PlotCheck} {error : CalcError}
  {body parameter minimum maximum step : Expr}

/-- Where a name without a binding is bound to a number, it is no longer listed as missing, and nothing else about
the search changes. -/
theorem unboundNames_insert_number (free : E.find? name = none) (apart : name ∉ chain) (x : Float) :
    unboundNames (E.insert name (.number x)) chain e = (E.unboundNames chain e).map (·.erase name) := by
  have found (other : String) := NameMap.find?_insert E name other (.number x)
  fun_induction unboundNames E chain e with
  | case1 chain y =>
    rw [unboundNames_number]
    rfl
  | case2 chain other member =>
    rw [unboundNames_var, if_pos member]
    rfl
  | case3 chain other fresh missing =>
    rw [unboundNames_var, if_neg fresh, found other]
    by_cases same : other = name
    · subst same
      rw [if_pos rfl]
      dsimp only
      rw [unboundNames_number]
      exact congrArg Except.ok (NameSet.ext fun n => by simp)
    · rw [if_neg same, missing]
      refine congrArg Except.ok (NameSet.ext fun n => ?_)
      rw [NameSet.mem_erase, NameSet.mem_singleton, iff_self_and]
      rintro rfl
      exact same
  | case4 chain other fresh bound given ih =>
    have different : other ≠ name := fun same => by cases (same ▸ free).symm.trans given
    rw [unboundNames_var, if_neg fresh, found other, if_neg different, given]
    exact ih (by simpa [apart] using Ne.symm different)
  | case5 chain f args ih =>
    rw [unboundNames_operation, mapM_congr fun a member => ih a member apart, mapM_map]
    cases args.mapM (E.unboundNames chain) with
    | error error => rfl
    | ok sets =>
      refine congrArg Except.ok (NameSet.ext fun n => ?_)
      rw [List.foldl_map, NameSet.mem_foldl_union, NameSet.mem_erase, NameSet.mem_foldl_union]
      simp [← and_assoc]

/-- The check of a formula to plot, in terms of the bindings without the placeholder. -/
theorem checkBody_insert (free : E.find? name = none) (x : Float) (body : Expr) :
    checkBody (E.insert name (.number x)) body =
      (E.unboundNames [] body).bind fun missing =>
        if (missing.erase name).names ≠ [] then .error (.undefinedInPlot (missing.erase name).names)
        else .ok () := by
  rw [checkBody, unboundNames_insert_number free (by simp)]
  cases E.unboundNames [] body <;> rfl

/-- The names that a check of completeness reports are those that the walk lists. -/
theorem names_erase_eq {missing : NameSet} {names : List String} (ascending : names.Pairwise (· < ·))
    (listed : ∀ other, other ∈ names ↔ other ∈ missing ∧ other ≠ name) :
    (missing.erase name).names = names := by
  refine (NameMap.names_ascending _).eq_of_mem_iff ascending fun other => ?_
  rw [NameSet.mem_names, NameSet.mem_erase, listed]

variable [MathLibrary]

/-- A check finds fault with a request of five formulas. -/
inductive Refuses (E : Bindings) (body parameter minimum maximum step : Expr) : PlotCheck → CalcError → Prop
  | parameter (other : ∀ name, parameter ≠ .var name) :
      Refuses E body parameter minimum maximum step .parameter (.notAVariable parameter.text)
  | minimum {error : CalcError} (failed : E.toDouble [] minimum = .error error) :
      Refuses E body parameter minimum maximum step .minimum error
  | maximum {error : CalcError} (failed : E.toDouble [] maximum = .error error) :
      Refuses E body parameter minimum maximum step .maximum error
  | step {error : CalcError} (failed : E.toDouble [] step = .error error) :
      Refuses E body parameter minimum maximum step .step error
  /-- The range is empty, or an end of it is infinite or not a number. -/
  | range {low high : Float} (lowest : E.toDouble [] minimum = .ok low)
      (highest : E.toDouble [] maximum = .ok high) (invalid : high < low ∨ ¬low.isFinite ∨ ¬high.isFinite) :
      Refuses E body parameter minimum maximum step .range (.invalidRange low high)
  | freshName {name : String} {bound : Expr} (named : parameter = .var name)
      (found : E.find? name = some bound) :
      Refuses E body parameter minimum maximum step .freshName (.alreadyBound name)
  | direction {dx : Float} (worked : E.toDouble [] step = .ok dx) (notUp : ¬0 < dx) :
      Refuses E body parameter minimum maximum step .direction (.stepNotPositive dx)
  | circles {names : List String} (searched : E.unboundNames [] body = .error (.cyclicDefinition names)) :
      Refuses E body parameter minimum maximum step .circles (.cyclicDefinition names)
  /-- The formula lacks other names than the one to sample over; they are listed in ascending order. -/
  | completeness {name : String} {missing : NameSet} {names : List String} (named : parameter = .var name)
      (searched : E.unboundNames [] body = .ok missing) (ascending : names.Pairwise (· < ·))
      (listed : ∀ other, other ∈ names ↔ other ∈ missing ∧ other ≠ name) (some : names ≠ []) :
      Refuses E body parameter minimum maximum step .completeness (.undefinedInPlot names)

/-- No check before a certain place finds fault. -/
def Passes (E : Bindings) (body parameter minimum maximum step : Expr) (place : Nat) : Prop :=
  ∀ check error, check.place < place → ¬Refuses E body parameter minimum maximum step check error

/-- A check finds fault, and none before it does. -/
structure RefusesFirst (E : Bindings) (body parameter minimum maximum step : Expr) (check : PlotCheck)
    (error : CalcError) : Prop where
  refuses : Refuses E body parameter minimum maximum step check error
  earlier : Passes E body parameter minimum maximum step check.place

/-- What comes of a request does not depend on the settings. -/
theorem sampled_settings (E : Bindings) (settings others : Settings) (request : PlotRequest) :
    E.sampled settings request = E.sampled others request := by
  unfold sampled
  cases request.parameterName with
  | error error => rfl
  | ok name =>
    cases request.body.toExpr with
    | error error => rfl
    | ok body =>
      cases E.gridOf request with
      | error error => rfl
      | ok grid =>
        cases checked : E.checkGrid name grid with
        | error error => simp only [bind, Except.bind, checked]
        | ok =>
          have free := (checkGrid_eq_ok_iff.mp checked).2
          have same := (checkBody_insert free settings.placeholder body).trans
            (checkBody_insert free others.placeholder body).symm
          simp only [bind, Except.bind, checked, same]

namespace Passes

variable {place : Nat} (passes : Passes E body parameter minimum maximum step place)

include passes

theorem exists_name (later : PlotCheck.parameter.place < place) : ∃ name, parameter = .var name := by
  by_contra! other
  exact passes _ _ later (.parameter other)

theorem exists_minimum (later : PlotCheck.minimum.place < place) : ∃ low, E.toDouble [] minimum = .ok low :=
  exists_ok_of_not_error fun _ failed => passes _ _ later (.minimum failed)

theorem exists_maximum (later : PlotCheck.maximum.place < place) : ∃ high, E.toDouble [] maximum = .ok high :=
  exists_ok_of_not_error fun _ failed => passes _ _ later (.maximum failed)

theorem exists_step (later : PlotCheck.step.place < place) : ∃ dx, E.toDouble [] step = .ok dx :=
  exists_ok_of_not_error fun _ failed => passes _ _ later (.step failed)

/-- Beyond the checks of the parts, a request has a name to sample over and a grid. -/
theorem exists_grid (later : PlotCheck.step.place < place) :
    ∃ (name : String) (grid : Grid), parameter = .var name ∧ E.toDouble [] minimum = .ok grid.minimum ∧
      E.toDouble [] maximum = .ok grid.maximum ∧ E.toDouble [] step = .ok grid.step := by
  obtain ⟨name, named⟩ := passes.exists_name (Nat.lt_trans (by decide) later)
  obtain ⟨low, lowest⟩ := passes.exists_minimum (Nat.lt_trans (by decide) later)
  obtain ⟨high, highest⟩ := passes.exists_maximum (Nat.lt_trans (by decide) later)
  obtain ⟨dx, worked⟩ := passes.exists_step later
  exact ⟨name, ⟨low, high, dx⟩, named, lowest, highest, worked⟩

theorem range {low high : Float} (later : PlotCheck.range.place < place)
    (lowest : E.toDouble [] minimum = .ok low) (highest : E.toDouble [] maximum = .ok high) :
    ¬(high < low ∨ ¬(low.isFinite ∧ high.isFinite)) := by
  rw [not_and_or]
  exact fun invalid => passes _ _ later (.range lowest highest invalid)

theorem free (later : PlotCheck.freshName.place < place) (named : parameter = .var name) :
    E.find? name = none :=
  Option.eq_none_iff_forall_ne_some.mpr fun _ found => passes _ _ later (.freshName named found)

theorem up {dx : Float} (later : PlotCheck.direction.place < place) (worked : E.toDouble [] step = .ok dx) :
    0 < dx := by
  by_contra notUp
  exact passes _ _ later (.direction worked notUp)

/-- Beyond the checks of the grid, it is accepted. -/
theorem checkGrid_eq_ok {grid : Grid} (later : PlotCheck.direction.place < place) (named : parameter = .var name)
    (lowest : E.toDouble [] minimum = .ok grid.minimum) (highest : E.toDouble [] maximum = .ok grid.maximum)
    (worked : E.toDouble [] step = .ok grid.step) : E.checkGrid name grid = .ok () := by
  have range := passes.range (Nat.lt_trans (by decide) later) lowest highest
  have free := passes.free (Nat.lt_trans (by decide) later) named
  rw [checkGrid_eq, if_neg range, if_neg (by simp [NameMap.contains, free]),
    if_neg (not_not.mpr (passes.up later worked))]

theorem exists_missing (later : PlotCheck.circles.place < place) :
    ∃ missing, E.unboundNames [] body = .ok missing := by
  refine exists_ok_of_not_error fun error searched => ?_
  obtain ⟨names, rfl⟩ := unboundNames_error searched
  exact passes _ _ later (.circles searched)

theorem complete {missing : NameSet} (later : PlotCheck.completeness.place < place)
    (named : parameter = .var name) (searched : E.unboundNames [] body = .ok missing) :
    (missing.erase name).names = [] := by
  by_contra some
  refine passes _ _ later (.completeness named searched (NameMap.names_ascending _) (fun other => ?_) some)
  rw [NameSet.mem_names, NameSet.mem_erase]

end Passes

theorem gridOf_eq_ok_iff {grid : Grid} :
    E.gridOf (.ofExprs body parameter minimum maximum step) = .ok grid ↔
      E.toDouble [] minimum = .ok grid.minimum ∧ E.toDouble [] maximum = .ok grid.maximum ∧
        E.toDouble [] step = .ok grid.step := by
  rw [gridOf_ofExprs]
  constructor
  · intro formed
    obtain ⟨low, lowest, rest⟩ := bind_eq_ok_iff.mp formed
    obtain ⟨high, highest, rest⟩ := bind_eq_ok_iff.mp rest
    obtain ⟨dx, worked, rest⟩ := bind_eq_ok_iff.mp rest
    cases rest
    exact ⟨lowest, highest, worked⟩
  · rintro ⟨lowest, highest, worked⟩
    rw [lowest, highest, worked]
    rfl

/-- A request that every check lets pass is admitted. -/
theorem exists_admits (settings : Settings)
    (clear : ∀ check error, ¬Refuses E body parameter minimum maximum step check error) :
    ∃ name grid, E.Admits settings (.ofExprs body parameter minimum maximum step) name body grid := by
  have passes : Passes E body parameter minimum maximum step 9 := fun check error _ => clear check error
  obtain ⟨name, grid, rfl, lowest, highest, worked⟩ := passes.exists_grid (by decide)
  have free := passes.free (by decide) rfl
  obtain ⟨missing, searched⟩ := passes.exists_missing (by decide)
  have complete := passes.complete (by decide) rfl searched
  refine ⟨name, grid, rfl, rfl, gridOf_eq_ok_iff.mpr ⟨lowest, highest, worked⟩, ?_, ?_⟩
  · exact passes.checkGrid_eq_ok (by decide) rfl lowest highest worked
  · rw [checkBody_insert free, searched]
    simp only [Except.bind, if_neg (not_not.mpr complete)]

/-- No check finds fault with a request that is admitted. -/
theorem Admits.not_refuses {settings : Settings} {grid : Grid}
    (admits : E.Admits settings (.ofExprs body parameter minimum maximum step) name body grid) :
    ¬Refuses E body parameter minimum maximum step check error := by
  obtain ⟨lowest, highest, worked⟩ := gridOf_eq_ok_iff.mp admits.range
  obtain ⟨⟨low, high, ordered, up⟩, free⟩ := checkGrid_eq_ok_iff.mp admits.checked
  have named : parameter = .var name :=
    Operand.formula.inj (PlotRequest.parameterName_eq_ok_iff.mp admits.parameter)
  have complete := admits.complete
  rw [checkBody_insert free] at complete
  intro refuses
  cases refuses with
  | parameter other => exact other name named
  | minimum failed => cases lowest.symm.trans failed
  | maximum failed => cases highest.symm.trans failed
  | step failed => cases worked.symm.trans failed
  | range lowest' highest' invalid =>
    cases lowest.symm.trans lowest'
    cases highest.symm.trans highest'
    rcases invalid with less | infinite | infinite
    · exact (Double.not_lt_iff_le high low).mpr ordered less
    · exact infinite low
    · exact infinite high
  | freshName other found =>
    cases named.symm.trans other
    cases free.symm.trans found
  | direction worked' notUp =>
    cases worked.symm.trans worked'
    exact notUp up
  | circles searched =>
    rw [searched] at complete
    cases complete
  | completeness other searched ascending listed some =>
    cases named.symm.trans other
    rw [searched] at complete
    simp only [Except.bind, names_erase_eq ascending listed, if_pos some] at complete
    cases complete

variable {settings : Settings} {grid : Grid}

theorem sampled_of_checkGrid (lowest : E.toDouble [] minimum = .ok grid.minimum)
    (highest : E.toDouble [] maximum = .ok grid.maximum) (worked : E.toDouble [] step = .ok grid.step)
    (refused : E.checkGrid name grid = .error error) :
    E.sampled settings (.ofExprs body (.var name) minimum maximum step) = .error error := by
  rw [sampled_ofExprs, gridOf_eq_ok_iff.mpr ⟨lowest, highest, worked⟩]
  simp only [bind, Except.bind, refused]

theorem sampled_of_checkBody (lowest : E.toDouble [] minimum = .ok grid.minimum)
    (highest : E.toDouble [] maximum = .ok grid.maximum) (worked : E.toDouble [] step = .ok grid.step)
    (checked : E.checkGrid name grid = .ok ())
    (refused : checkBody (E.insert name (.number settings.placeholder)) body = .error error) :
    E.sampled settings (.ofExprs body (.var name) minimum maximum step) = .error error := by
  rw [sampled_ofExprs, gridOf_eq_ok_iff.mpr ⟨lowest, highest, worked⟩]
  simp only [bind, Except.bind, checked, refused]

/-- The fault of the first check that finds one is what comes of a request. -/
theorem RefusesFirst.sampled_eq (first : RefusesFirst E body parameter minimum maximum step check error)
    (settings : Settings) :
    E.sampled settings (.ofExprs body parameter minimum maximum step) = .error error := by
  obtain ⟨refuses, earlier⟩ := first
  cases refuses with
  | parameter other =>
    have refused : (PlotRequest.ofExprs body parameter minimum maximum step).parameterName =
        .error (.notAVariable parameter.text) := by
      cases parameter with
      | var name => exact absurd rfl (other name)
      | number | operation => rfl
    rw [sampled, refused]
    rfl
  | minimum failed =>
    obtain ⟨name, rfl⟩ := earlier.exists_name (by decide)
    rw [sampled_ofExprs, gridOf_ofExprs, failed]
    rfl
  | maximum failed =>
    obtain ⟨name, rfl⟩ := earlier.exists_name (by decide)
    obtain ⟨low, lowest⟩ := earlier.exists_minimum (by decide)
    rw [sampled_ofExprs, gridOf_ofExprs, lowest, failed]
    rfl
  | step failed =>
    obtain ⟨name, rfl⟩ := earlier.exists_name (by decide)
    obtain ⟨low, lowest⟩ := earlier.exists_minimum (by decide)
    obtain ⟨high, highest⟩ := earlier.exists_maximum (by decide)
    rw [sampled_ofExprs, gridOf_ofExprs, lowest, highest, failed]
    rfl
  | @range low high lowest highest invalid =>
    obtain ⟨name, rfl⟩ := earlier.exists_name (by decide)
    obtain ⟨dx, worked⟩ := earlier.exists_step (by decide)
    have refused : E.checkGrid name ⟨low, high, dx⟩ = .error (.invalidRange low high) := by
      rw [checkGrid_eq, if_pos (invalid.imp_right not_and_or.mpr)]
    exact sampled_of_checkGrid lowest highest worked refused
  | @freshName name bound named found =>
    obtain ⟨_, grid, _, lowest, highest, worked⟩ := earlier.exists_grid (by decide)
    subst named
    refine sampled_of_checkGrid lowest highest worked ?_
    rw [checkGrid_eq, if_neg (earlier.range (by decide) lowest highest),
      if_pos (by simp [NameMap.contains, found])]
  | direction worked notUp =>
    obtain ⟨name, grid, rfl, lowest, highest, given⟩ := earlier.exists_grid (by decide)
    cases worked.symm.trans given
    have free := earlier.free (by decide) rfl
    refine sampled_of_checkGrid lowest highest worked ?_
    rw [checkGrid_eq, if_neg (earlier.range (by decide) lowest highest),
      if_neg (by simp [NameMap.contains, free]), if_pos notUp]
  | circles searched =>
    obtain ⟨name, grid, rfl, lowest, highest, worked⟩ := earlier.exists_grid (by decide)
    have checked := earlier.checkGrid_eq_ok (by decide) rfl lowest highest worked
    refine sampled_of_checkBody lowest highest worked checked ?_
    rw [checkBody_insert (earlier.free (by decide) rfl), searched]
    rfl
  | completeness named searched ascending listed some =>
    obtain ⟨_, grid, _, lowest, highest, worked⟩ := earlier.exists_grid (by decide)
    subst named
    have checked := earlier.checkGrid_eq_ok (by decide) rfl lowest highest worked
    refine sampled_of_checkBody lowest highest worked checked ?_
    rw [checkBody_insert (earlier.free (by decide) rfl), searched]
    simp only [Except.bind, names_erase_eq ascending listed, if_pos some]

/-- Where some check finds fault, one is the first to do so. -/
theorem Refuses.exists_first (refuses : Refuses E body parameter minimum maximum step check error) :
    ∃ check error, RefusesFirst E body parameter minimum maximum step check error := by
  induction place : check.place using Nat.strong_induction_on generalizing check error with
  | _ n ih =>
    by_cases passes : Passes E body parameter minimum maximum step check.place
    · exact ⟨check, error, refuses, passes⟩
    · unfold Passes at passes
      push Not at passes
      obtain ⟨before, fault, earlier, refused⟩ := passes
      exact ih before.place (place ▸ earlier) refused rfl

end Bindings

namespace Session

open GraphCalc.Bindings

/-- What comes of a request that can be wrong in several ways is the fault of the first check that finds one, in the
order of `PlotCheck.place`; each check is made under the bindings of the session. A request is admitted, and sampling
gets to its samples, exactly if there is no such check. The placeholder and all other settings play no part. -/
theorem sample_reports_first_fault [MathLibrary] (s : Session) (body parameter minimum maximum step : Expr) :
    let request : PlotRequest := .ofExprs body parameter minimum maximum step
    (∀ check error, RefusesFirst s.bindings body parameter minimum maximum step check error →
        ((sample request).runIn s).1 = .error error) ∧
      ((¬∃ check error, RefusesFirst s.bindings body parameter minimum maximum step check error) ↔
        ∃ name grid, s.bindings.Admits s.settings request name body grid) ∧
      ∀ settings, ((sample request).runIn { s with settings }).1 = ((sample request).runIn s).1 := by
  intro request
  refine ⟨fun check error first => ?_, ⟨fun none => ?_, ?_⟩, fun settings => ?_⟩
  · rw [result_sample]
    exact first.sampled_eq s.settings
  · refine exists_admits s.settings fun check error refuses => none ?_
    exact refuses.exists_first
  · rintro ⟨name, grid, admits⟩ ⟨check, error, first⟩
    exact admits.not_refuses first.refuses
  · rw [result_sample, result_sample]
    exact sampled_settings ..

/-- The name to sample over is taken, the range is empty, the step does not go up and `y` stands for nothing. The
range is what is reported. -/
theorem sample_reports_first_fault_of_four :
    let s : Session := ⟨NameMap.ofList [("x", .number 5)], .single, {}, []⟩
    let refuses := Refuses s.bindings (.var "y") (.var "x") (.number 2) (.number 1) (.number 0)
    refuses .range (.invalidRange 2 1) ∧ refuses .freshName (.alreadyBound "x") ∧
      refuses .direction (.stepNotPositive 0) ∧ refuses .completeness (.undefinedInPlot ["y"]) ∧
      ((sample (.ofExprs (.var "y") (.var "x") (.number 2) (.number 1) (.number 0))).runIn s).1 =
        .error (.invalidRange 2 1) := by
  intro s refuses
  have found : s.bindings.find? "x" = some (.number 5) := by decide
  have missing : s.bindings.find? "y" = none := by decide
  have range : refuses .range (.invalidRange 2 1) :=
    .range (toDouble_number _ _ _) (toDouble_number _ _ _) (.inl (by decide))
  have first : RefusesFirst s.bindings (.var "y") (.var "x") (.number 2) (.number 1) (.number 0) .range
      (.invalidRange 2 1) := by
    refine ⟨range, fun check error earlier refused => ?_⟩
    cases refused with
    | parameter other => exact other "x" rfl
    | minimum failed | maximum failed | step failed => simp at failed
    | range | freshName | direction | circles | completeness => exact absurd earlier (by decide)
  refine ⟨range, .freshName rfl found, .direction (toDouble_number _ _ _) (by decide), ?_,
    (sample_reports_first_fault s _ _ _ _ _).1 _ _ first⟩
  have searched : s.bindings.unboundNames [] (.var "y") = .ok (.singleton "y") := by
    simp [unboundNames_var, missing]
  refine .completeness rfl searched (by simp) (fun other => ?_) (by simp)
  rw [NameSet.mem_singleton, List.mem_singleton, iff_self_and]
  rintro rfl
  decide

end Session

end GraphCalc
