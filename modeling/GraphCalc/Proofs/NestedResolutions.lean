import GraphCalc.Proofs.Resolutions
import GraphCalc.Proofs.GuardedEvaluation
import Mathlib.Data.List.Perm.Subperm

/-!
# Nested resolutions

A definition is in general larger than the name that it stands for, so nothing gets smaller on the way along names.
What ends the recursion is that the names being resolved are all different and all bound: there are no more of them
than names that are bound.

`Shows` says what is seen of a computation under observation. It passes from the parts of a computation to the whole,
so each computation needs one induction along its own recursion, with `Standing` for the names being resolved and what
is left of the limit. `resolutions_end` puts the four together.
-/

namespace GraphCalc.Bindings

variable {E : Bindings} {start pending chain extended : List String} {name : String} {bound e : Expr} {limit : Nat}

/-- The names being resolved beyond the chain that a computation started with: all different, all bound, and none of
them on that chain. -/
structure Pending (E : Bindings) (start pending : List String) : Prop where
  distinct : pending.Nodup
  bound : ∀ name ∈ pending, E.find? name ≠ none
  fresh : ∀ name ∈ pending, name ∉ start

namespace Pending

theorem nil : Pending E start [] := ⟨.nil, nofun, nofun⟩

/-- There are no more names being resolved than names that are bound. -/
theorem length_le (resolving : Pending E start pending) : pending.length ≤ E.size := by
  have listed : pending ⊆ E.names := by
    intro name member
    by_contra absent
    exact resolving.bound name member (NameMap.find?_eq_none_iff.mpr absent)
  have few : pending.length ≤ E.names.length := (resolving.distinct.subperm listed).length_le
  rwa [NameMap.names, List.length_map] at few

/-- A name that is followed is a new one. -/
theorem follow (resolving : Pending E start pending)
    (link : E.resolve name (start ++ pending) = .ok (bound, extended)) :
    Pending E start (pending ++ [name]) ∧ extended = start ++ (pending ++ [name]) := by
  obtain ⟨unvisited, found, rfl⟩ := resolve_eq_ok_iff.mp link
  obtain ⟨fresh, new⟩ := not_or.mp (List.mem_append.not.mp unvisited)
  refine ⟨⟨?_, ?_, ?_⟩, List.append_assoc ..⟩
  · have apart : ∀ other ∈ pending, other ≠ name := fun other member same => new (same ▸ member)
    simpa [List.nodup_append, resolving.distinct] using apart
  · intro other member
    rcases List.mem_append.mp member with earlier | last
    · exact resolving.bound other earlier
    · obtain rfl := List.mem_singleton.mp last
      simp [found]
  · intro other member
    rcases List.mem_append.mp member with earlier | last
    · exact resolving.fresh other earlier
    · exact List.mem_singleton.mp last ▸ fresh

end Pending

theorem unvisited_le_size : E.unvisited chain ≤ E.size := by
  have some : (E.names.filter (· ∉ chain)).length ≤ E.names.length := List.length_filter_le ..
  rwa [NameMap.names, List.length_map] at some

/-- Where a computation stands: its chain is the one that it started with and then the names being resolved, and the
limit is enough for the names left to visit. -/
structure Standing (E : Bindings) (start pending chain : List String) (limit : Nat) : Prop where
  placed : chain = start ++ pending
  resolving : Pending E start pending
  enough : E.unvisited chain ≤ limit

theorem Standing.first : Standing E chain [] chain E.size :=
  ⟨(List.append_nil chain).symm, .nil, unvisited_le_size⟩

/-- Where a name is followed, one more resolution is within the limit. -/
theorem Standing.follow (standing : Standing E start pending chain limit)
    (link : E.resolve name chain = .ok (bound, extended)) :
    ∃ rest, limit = rest + 1 ∧ Standing E start (pending ++ [name]) extended rest := by
  obtain ⟨rfl, resolving, enough⟩ := standing
  obtain ⟨further, placed⟩ := resolving.follow link
  have fewer := unvisited_lt_of_resolve link
  exact ⟨limit - 1, by omega, placed, further, by omega⟩

namespace Observed

variable {α β : Type} {P : List String → Prop}

/-- Under observation a computation comes to a result within its limit, and at every resolution on the way the names
being resolved are as required. -/
def Shows (P : List String → Prop) (action : Observed α) (result : Except CalcError α) : Prop :=
  ∀ record, ∃ seen, action.observe record = (some result, seen ++ record) ∧ ∀ names ∈ seen, P names

theorem Shows.mono {Q : List String → Prop} {action : Observed α} {result : Except CalcError α}
    (shows : Shows P action result) (implied : ∀ names, P names → Q names) : Shows Q action result := fun record =>
  have ⟨seen, observed, each⟩ := shows record
  ⟨seen, observed, fun names member => implied names (each names member)⟩

theorem shows_ofExcept (result : Except CalcError α) : Shows P (ofExcept result) result :=
  fun _ => ⟨[], rfl, nofun⟩

theorem shows_pure (a : α) : Shows P (pure a) (.ok a) := fun _ => ⟨[], rfl, nofun⟩

theorem shows_throw (error : CalcError) : Shows P (throw error : Observed α) (.error error) :=
  fun _ => ⟨[], rfl, nofun⟩

theorem observe_bind (action : Observed α) (next : α → Observed β) (record : List (List String)) :
    (action >>= next).observe record =
      match action.observe record with
      | (some (.ok a), left) => (next a).observe left
      | (some (.error error), left) => (some (.error error), left)
      | (none, left) => (none, left) := by
  show ((ExceptT.bind action next).run.run.run record) = _
  unfold observe
  simp only [ExceptT.bind, ExceptT.run, ExceptT.mk, OptionT.run, bind, OptionT.bind, OptionT.mk, StateT.bind,
    StateT.run]
  rcases (action record) with ⟨_ | _ | _, left⟩ <;> rfl

/-- What is seen of a computation is what is seen of its first step, and then of the rest. -/
theorem Shows.bind {action : Observed α} {next : α → Observed β} {given : Except CalcError α}
    {after : α → Except CalcError β} (first : Shows P action given)
    (rest : ∀ a, given = .ok a → Shows P (next a) (after a)) : Shows P (action >>= next) (given >>= after) := by
  intro record
  obtain ⟨seen, observed, each⟩ := first record
  cases given with
  | error error =>
    refine ⟨seen, ?_, each⟩
    rw [observe_bind, observed]
    rfl
  | ok a =>
    obtain ⟨later, ended, eachLater⟩ := rest a rfl (seen ++ record)
    refine ⟨later ++ seen, ?_, List.forall_mem_append.mpr ⟨eachLater, each⟩⟩
    rw [observe_bind, observed, List.append_assoc]
    exact ended

theorem Shows.ite {condition : Bool} {yes no : Observed α} {yes' no' : Except CalcError α}
    (positive : Shows P yes yes') (negative : Shows P no no') :
    Shows P (if condition then yes else no) (if condition then yes' else no') := by
  cases condition with
  | false => exact negative
  | true => exact positive

theorem Shows.mapM {f : α → Observed β} {g : α → Except CalcError β} {as : List α}
    (each : ∀ a ∈ as, Shows P (f a) (g a)) : Shows P (as.mapM f) (as.mapM g) := by
  induction as with
  | nil => exact shows_pure []
  | cons a as ih =>
    obtain ⟨first, others⟩ := List.forall_mem_cons.mp each
    rw [List.mapM_cons, List.mapM_cons]
    exact first.bind fun b _ => (ih others).bind fun bs _ => shows_pure (b :: bs)

theorem Shows.reduceBound {calculable : Observed Bool} {calculable' : Except CalcError Bool} {value : Observed Float}
    {value' : Except CalcError Float} {simplified : Observed Expr} {simplified' : Except CalcError Expr}
    (asked : Shows P calculable calculable') (evaluated : Shows P value value')
    (otherwise : Shows P simplified simplified') :
    Shows P (reduceBound calculable value simplified) (reduceBound calculable' value' simplified') :=
  asked.bind fun _ _ => .ite (evaluated.bind fun _ _ => shows_pure _) otherwise

theorem Shows.reduceOperation {checked : Observed Op} {checked' : Except CalcError Op}
    {simplified : Observed (List Expr)} {simplified' : Except CalcError (List Expr)}
    {foldValue : Op → List Expr → Observed (Option Float)}
    {foldValue' : Op → List Expr → Except CalcError (Option Float)} (name : String)
    (accepted : Shows P checked checked') (worked : Shows P simplified simplified')
    (folded : ∀ op args, Shows P (foldValue op args) (foldValue' op args)) :
    Shows P (reduceOperation name checked simplified foldValue)
      (reduceOperation name checked' simplified' foldValue') := by
  refine accepted.bind fun op _ => worked.bind fun args _ => (folded op args).bind fun value _ => ?_
  cases value <;> exact shows_pure _

/-- Within the limit a name is resolved, and seen. -/
theorem Shows.opening {names : List String} {next : {rest : Nat // rest < limit + 1} → Observed β}
    {result : Except CalcError β} (holds : P names) (rest : Shows P (next ⟨limit, Nat.lt_succ_self limit⟩) result) :
    Shows P (Observed.opening (limit + 1) names >>= next) result := by
  intro record
  obtain ⟨seen, observed, each⟩ := rest (names :: record)
  refine ⟨seen ++ [names], ?_, List.forall_mem_append.mpr ⟨each, List.forall_mem_singleton.mpr holds⟩⟩
  rw [observe_bind, List.append_assoc]
  exact observed

/-- A result that is there already takes nothing. -/
theorem ofExcept_bind (a : α) (next : α → Observed β) : Observed.ofExcept (.ok a) >>= next = next a := rfl

theorem Shows.foldValueBy [MathLibrary] {isCalculable : Expr → Observed Bool}
    {isCalculable' : Expr → Except CalcError Bool} {toDouble : Expr → Observed Float}
    {toDouble' : Expr → Except CalcError Float} (op : Op) (args : List Expr)
    (calculable : ∀ e, Shows P (isCalculable e) (isCalculable' e))
    (evaluated : ∀ e, Shows P (toDouble e) (toDouble' e)) :
    Shows P (foldValueBy isCalculable toDouble op args) (foldValueBy isCalculable' toDouble' op args) := by
  have kept : Shows P (pure none) (.ok none : Except CalcError (Option Float)) := shows_pure none
  fun_cases Bindings.foldValueBy isCalculable toDouble op args with
  | case1 op a b _ folds =>
    simp only [Bindings.foldValueBy, if_pos folds]
    refine (calculable a).bind fun _ _ => .ite ?_ kept
    refine (calculable b).bind fun _ _ => .ite ?_ kept
    exact (evaluated a).bind fun x _ => (evaluated b).bind fun y _ => shows_pure _
  | case2 op a b _ inert =>
    simp only [Bindings.foldValueBy, if_neg inert]
    exact kept
  | case3 op a _ folds =>
    simp only [Bindings.foldValueBy, if_pos folds]
    refine (calculable a).bind fun _ _ => .ite ?_ kept
    exact (evaluated a).bind fun x _ => shows_pure _
  | case4 op a _ inert =>
    simp only [Bindings.foldValueBy, if_neg inert]
    exact kept
  | case5 op args notBinary notUnary =>
    rw [Bindings.foldValueBy]
    · exact kept
    · exact notBinary
    · exact notUnary

end Observed

open Observed

/-- A name that is followed is resolved within the limit, and the rest of the computation goes on from there. -/
theorem shows_follow {α : Type} {next : {rest : Nat // rest < limit} → Observed α} {result : Except CalcError α}
    (standing : Standing E start pending chain limit) (link : E.resolve name chain = .ok (bound, extended))
    (onwards : ∀ rest fewer, Standing E start (pending ++ [name]) extended rest →
      Shows (Pending E start) (next ⟨rest, fewer⟩) result) :
    Shows (Pending E start) (Observed.opening limit (pending ++ [name]) >>= next) result := by
  obtain ⟨rest, rfl, further⟩ := standing.follow link
  exact .opening further.resolving (onwards rest _ further)

theorem shows_isCalculable (standing : Standing E start pending chain limit) :
    Shows (Pending E start) (E.observedIsCalculable limit pending chain e) (E.isCalculable chain e) := by
  fun_induction isCalculable E chain e generalizing limit pending with
  | case1 chain x =>
    rw [observedIsCalculable]
    exact shows_pure true
  | case2 chain name circle =>
    rw [observedIsCalculable, if_pos circle]
    exact shows_throw _
  | case3 chain name fresh unbound =>
    rw [observedIsCalculable, if_neg fresh, unbound]
    exact shows_pure false
  | case4 chain name fresh bound found ih =>
    rw [observedIsCalculable, if_neg fresh, found]
    exact shows_follow standing (resolve_eq_ok_iff.mpr ⟨fresh, found, rfl⟩) fun _ _ => ih
  | case5 chain name args =>
    rw [observedIsCalculable]
    exact shows_pure false

theorem shows_unboundNames (standing : Standing E start pending chain limit) :
    Shows (Pending E start) (E.observedUnboundNames limit pending chain e) (E.unboundNames chain e) := by
  fun_induction unboundNames E chain e generalizing limit pending with
  | case1 chain x =>
    rw [observedUnboundNames]
    exact shows_pure ∅
  | case2 chain name circle =>
    rw [observedUnboundNames, if_pos circle]
    exact shows_throw _
  | case3 chain name fresh unbound =>
    rw [observedUnboundNames, if_neg fresh, unbound]
    exact shows_pure _
  | case4 chain name fresh bound found ih =>
    rw [observedUnboundNames, if_neg fresh, found]
    exact shows_follow standing (resolve_eq_ok_iff.mpr ⟨fresh, found, rfl⟩) fun _ _ => ih
  | case5 chain name args ih =>
    rw [observedUnboundNames]
    exact (Shows.mapM fun a member => ih a member standing).bind fun sets _ => shows_pure _

/-- What the names being resolved, one inside the other, are like in a computation that started with a chain. -/
def Nested (E : Bindings) (start names : List String) : Prop := Pending E start names ∧ names.length ≤ E.size

theorem Pending.nested (resolving : Pending E start pending) : Nested E start pending :=
  ⟨resolving, resolving.length_le⟩

variable [MathLibrary]

theorem shows_toDouble (standing : Standing E start pending chain limit) :
    Shows (Pending E start) (E.observedToDouble limit pending chain e) (E.toDouble chain e) := by
  fun_induction toDouble E chain e generalizing limit pending with
  | case1 chain x =>
    rw [observedToDouble]
    exact shows_pure x
  | case2 chain name error link =>
    rw [observedToDouble, link]
    exact shows_throw error
  | case3 chain name bound extended link ih =>
    rw [observedToDouble, link, ofExcept_bind]
    exact shows_follow standing link fun _ _ => ih
  | case4 chain name args unknown =>
    simp only [observedToDouble, unknown]
    exact shows_throw _
  | case5 chain name args command known =>
    simp only [observedToDouble, known]
    exact shows_throw _
  | case6 chain name op known a b ihA ihB =>
    simp only [observedToDouble, known]
    exact (ihA standing).bind fun x _ => (ihB standing).bind fun y _ => shows_pure _
  | case7 chain name args op known wrong =>
    simp only [observedToDouble, known]
    exact shows_throw _
  | case8 chain name op known a ih =>
    simp only [observedToDouble, known]
    exact (ih standing).bind fun x _ => shows_pure _
  | case9 chain name args op known wrong =>
    simp only [observedToDouble, known]
    exact shows_throw _

theorem shows_simplify (standing : Standing E start pending chain limit) :
    Shows (Pending E start) (E.observedSimplify limit pending chain e) (E.simplify chain e) := by
  fun_induction simplify E chain e generalizing limit pending with
  | case1 chain x =>
    rw [observedSimplify]
    exact shows_pure _
  | case2 chain name unbound =>
    rw [observedSimplify, if_pos unbound]
    exact shows_pure _
  | case3 chain name bound error link =>
    rw [observedSimplify, if_neg bound, link]
    exact shows_throw error
  | case4 chain name bound formula extended link ih =>
    rw [observedSimplify, if_neg bound, link, ofExcept_bind]
    exact shows_follow standing link fun rest _ standing =>
      .reduceBound (shows_isCalculable standing) (shows_toDouble standing) (ih standing)
  | case5 chain name args ih =>
    rw [observedSimplify]
    exact .reduceOperation name (shows_ofExcept _) (Shows.mapM fun a member => ih a member standing) fun op args =>
      .foldValueBy op args (fun _ => shows_isCalculable standing) fun _ => shows_toDouble standing

/-- Recursion along names ends, whatever circles the bindings hold and whatever chain it starts with. Under a limit of
as many nested resolutions as names are bound, none of the four computations is cut off: each has an outcome, the one
that it has without observation. At every moment the names being resolved beyond the chain are all different, all bound
and not on the chain, and there are no more of them than names that are bound. -/
theorem resolutions_end (E : Bindings) (chain : List String) (e : Expr) :
    Shows (Nested E chain) (E.observedToDouble E.size [] chain e) (E.toDouble chain e) ∧
      Shows (Nested E chain) (E.observedSimplify E.size [] chain e) (E.simplify chain e) ∧
      Shows (Nested E chain) (E.observedIsCalculable E.size [] chain e) (E.isCalculable chain e) ∧
      Shows (Nested E chain) (E.observedUnboundNames E.size [] chain e) (E.unboundNames chain e) :=
  ⟨(shows_toDouble .first).mono fun _ => Pending.nested, (shows_simplify .first).mono fun _ => Pending.nested,
    (shows_isCalculable .first).mono fun _ => Pending.nested,
    (shows_unboundNames .first).mono fun _ => Pending.nested⟩

end GraphCalc.Bindings
