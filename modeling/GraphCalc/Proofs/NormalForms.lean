import GraphCalc.Proofs.GuardedSimplification

/-!
# Normal forms

A formula is normal under bindings if nothing in it is left to reduce: no name in it is bound, every
operation is known and has the arguments it takes, and every operation that folds has an argument that
is no literal. `simplify_reaches_normal_forms` says that simplification returns normal formulas only,
and that the normal formulas are exactly those it returns unchanged.
-/

namespace GraphCalc

/-- One formula is another, or stands somewhere below it. -/
inductive Expr.Within : Expr → Expr → Prop
  | self (e : Expr) : Within e e
  | inside {f a : Expr} {name : String} {args : List Expr} (member : a ∈ args)
      (within : Within f a) : Within f (.operation name args)

theorem Expr.Within.trans {e f g : Expr} (first : Within g f) (second : Within f e) : Within g e := by
  induction second with
  | self => exact first
  | inside member _ ih => exact .inside member ih

theorem Expr.mem_freeNames_iff_within {name : String} {e : Expr} :
    name ∈ e.freeNames ↔ Within (.var name) e := by
  induction e using Expr.argumentInduction with
  | number x => exact iff_of_false (not_mem_freeNames_number x name) nofun
  | var other =>
    rw [mem_freeNames_var]
    constructor
    · rintro rfl
      exact .self _
    · intro within
      cases within
      rfl
  | operation f args ih =>
    rw [mem_freeNames_operation]
    constructor
    · rintro ⟨a, below, occurs⟩
      exact .inside below ((ih a below).mp occurs)
    · intro within
      cases within with
      | inside below within => exact ⟨_, below, (ih _ below).mpr within⟩

/-- The names of the operations that are worked out on literals. -/
def foldedNames : List String := ["+", "*", "negate"]

theorem Op.folds_iff {op : Op} : op.folds ↔ op.name ∈ foldedNames := by
  rcases op with op | op | op <;> cases op <;> decide

namespace Bindings

open Results

variable {E : Bindings} {e r t : Expr} {name : String} {args : List Expr}

/-- No name in a formula is bound. -/
def Settled (E : Bindings) (e : Expr) : Prop := ∀ name ∈ e.freeNames, E.find? name = none

theorem settled_number (x : Float) : Settled E (.number x) := by simp [Settled]

theorem settled_var_iff : Settled E (.var name) ↔ E.find? name = none := by simp [Settled]

theorem settled_operation_iff : Settled E (.operation name args) ↔ ∀ a ∈ args, Settled E a := by
  constructor
  · exact fun settled a member other occurs =>
      settled other (Expr.mem_freeNames_operation.mpr ⟨a, member, occurs⟩)
  · intro each other occurs
    obtain ⟨a, member, occurs⟩ := Expr.mem_freeNames_operation.mp occurs
    exact each a member other occurs

/-- Nothing in a formula is left to reduce. -/
structure Normal (E : Bindings) (t : Expr) : Prop where
  unbound : ∀ name, Expr.Within (.var name) t → E.find? name = none
  sound : ∀ name args, Expr.Within (.operation name args) t →
    ∃ op : Op, op.name = name ∧ args.length = op.arity
  unfolded : ∀ name args, Expr.Within (.operation name args) t → name ∈ foldedNames →
    ∃ a ∈ args, a.isNumber = false

theorem Normal.settled (normal : Normal E t) : Settled E t :=
  fun name member => normal.unbound name (Expr.mem_freeNames_iff_within.mp member)

theorem Normal.number (x : Float) : Normal E (.number x) := ⟨nofun, nofun, nofun⟩

theorem normal_var_iff : Normal E (.var name) ↔ E.find? name = none := by
  constructor
  · exact fun normal => normal.unbound name (.self _)
  · intro missing
    refine ⟨fun other within => ?_, nofun, nofun⟩
    cases within
    exact missing

theorem normal_operation_iff :
    Normal E (.operation name args) ↔
      (∃ op : Op, op.name = name ∧ args.length = op.arity) ∧
        (name ∈ foldedNames → ∃ a ∈ args, a.isNumber = false) ∧ ∀ a ∈ args, Normal E a := by
  constructor
  · intro normal
    refine ⟨normal.sound name args (.self _), normal.unfolded name args (.self _), ?_⟩
    intro a member
    exact ⟨fun other within => normal.unbound other (.inside member within),
      fun other others within => normal.sound other others (.inside member within),
      fun other others within => normal.unfolded other others (.inside member within)⟩
  · rintro ⟨sound, unfolded, each⟩
    refine ⟨?_, ?_, ?_⟩
    · intro other within
      cases within with
      | inside member within => exact (each _ member).unbound other within
    · intro other others within
      cases within with
      | self => exact sound
      | inside member within => exact (each _ member).sound other others within
    · intro other others within
      cases within with
      | self => exact unfolded
      | inside member within => exact (each _ member).unfolded other others within

variable [MathLibrary]

/-- Every reduced form is normal. -/
theorem Reduces.normal (reduces : Reduces E e r) : Normal E r := by
  induction reduces with
  | number x => exact .number x
  | unbound missing => exact normal_var_iff.mpr missing
  | link _ _ ih => exact ih
  | @operation op args reduced arity paired _ ih =>
    cases constant : op.constant? reduced with
    | some x => exact Op.reduce_of_constant constant ▸ .number x
    | none =>
      rw [Op.reduce_of_not_constant constant]
      have sameArity : reduced.length = op.arity := paired ▸ arity
      refine normal_operation_iff.mpr ⟨⟨op, rfl, sameArity⟩, fun folded => ?_, fun b member => ?_⟩
      · exact (Op.constant?_eq_none_iff sameArity).mp constant (Op.folds_iff.mpr folded)
      · obtain ⟨_, _, normal⟩ := exists_of_mem_right (forall₂_of_zip paired ih) member
        exact normal

/-- A normal formula is its own reduced form. -/
theorem Normal.reduces (normal : Normal E t) : Reduces E t t := by
  induction t using Expr.argumentInduction with
  | number x => exact .number x
  | var name => exact .unbound (normal_var_iff.mp normal)
  | operation name args ih =>
    obtain ⟨⟨op, rfl, arity⟩, unfolded, each⟩ := normal_operation_iff.mp normal
    have kept : op.constant? args = none :=
      (Op.constant?_eq_none_iff arity).mpr fun folds => unfolded (Op.folds_iff.mp folds)
    have pairs : List.Forall₂ (Reduces E) args args :=
      List.forall₂_same.mpr fun a member => ih a member (each a member)
    have form := Reduces.of_pairs op arity pairs
    rwa [Op.reduce_of_not_constant kept] at form

/-- Simplification reaches a normal form, and the formulas that it leaves as they are, node for node
and bit for bit, are exactly the normal ones. To simplify twice is therefore to simplify once. -/
theorem simplify_reaches_normal_forms (E : Bindings) :
    (∀ e r, E.simplify [] e = .ok r → Normal E r) ∧
      (∀ t, E.simplify [] t = .ok t ↔ Normal E t) ∧
      ∀ e r, E.simplify [] e = .ok r → E.simplify [] r = .ok r := by
  have reaches : ∀ e r, E.simplify [] e = .ok r → Normal E r := fun e r result =>
    (simplify_eq_ok_iff_reduces.mp result).normal
  have keeps : ∀ t, Normal E t → E.simplify [] t = .ok t := fun t normal =>
    simplify_eq_ok_iff_reduces.mpr normal.reduces
  exact ⟨reaches, fun t => ⟨reaches t t, keeps t⟩, fun e r result => keeps r (reaches e r result)⟩

end Bindings

end GraphCalc
