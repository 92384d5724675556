import GraphCalc.Proofs.Obstructions
import GraphCalc.Proofs.Reachability

/-!
# What simplification accepts and what it leaves

Simplification works out numbers on the way, which could fail in ways of its own, and it looks ahead along names
before it follows them. None of this shows in the result: `simplify_domain` says that it succeeds exactly on the
formulas that lead into no circle of definitions and meet no operation that is unknown or has the wrong number of
arguments, and that such operations and circles are all that it reports.

`freeNames_of_simplify` says which names stand in the result: those that the formula leads to and that stand for
nothing, as the search for unbound names lists them.
-/

namespace GraphCalc.Bindings

open Results

variable {E : Bindings} {e f r : Expr} {name : String} {error : CalcError}

/-- Every operation that is met is known and has the arguments that it takes. -/
def SoundOperations (E : Bindings) (e : Expr) : Prop :=
  ∀ name args, Meets E e (.operation name args) → ∃ op : Op, op.name = name ∧ args.length = op.arity

/-- Some operation that is met is unknown or has the wrong number of arguments, and an error says so. -/
inductive Refused (E : Bindings) (e : Expr) : CalcError → Prop
  | unknown {name : String} {args : List Expr} (meets : Meets E e (.operation name args))
      (unnamed : Op.named? name = none) : Refused E e (.unknownOperation name none)
  | arity (op : Op) {args : List Expr} (meets : Meets E e (.operation op.name args))
      (wrong : args.length ≠ op.arity) : Refused E e (.wrongArity op.name op.arity args.length)

theorem Meets.of_mentions (mentions : Mentions E e f) {g : Expr} (meets : Meets E f g) : Meets E e g :=
  meets_iff_walk.mpr ((meets_iff_walk.mp meets).head mentions)

theorem SoundOperations.step (sound : SoundOperations E e) (mentions : Mentions E e f) :
    SoundOperations E f :=
  fun name args meets => sound name args (.of_mentions mentions meets)

theorem Refused.of_mentions (mentions : Mentions E e f) (refused : Refused E f error) :
    Refused E e error := by
  cases refused with
  | unknown meets unnamed => exact .unknown (.of_mentions mentions meets) unnamed
  | arity op meets wrong => exact .arity op (.of_mentions mentions meets) wrong

/-- A formula in which no name is bound leads to no other names than those in it. -/
theorem Settled.lacks_iff (settled : Settled E r) : Lacks E r name ↔ name ∈ r.freeNames := by
  rw [Bindings.lacks_iff]
  constructor
  · rintro ⟨leads, -⟩
    induction leads with
    | occurs member => exact member
    | onwards _ defines ih =>
      obtain ⟨_, found, _⟩ := defines
      cases (settled _ ih).symm.trans found
  · exact fun member => ⟨.occurs member, settled name member⟩

section

variable [MathLibrary]

/-- An obstruction is one of the operations met. -/
theorem Obstructed.refused (obstructed : Obstructed E e error) : Refused E e error := by
  induction obstructed with
  | link found _ ih => exact ih.of_mentions (.link found)
  | unknown unnamed => exact .unknown (.within (.self _)) unnamed
  | arity op wrong => exact .arity op (.within (.self _)) wrong
  | argument op _ _ _ ih => exact ih.of_mentions (.argument (by simp))

theorem Reducible.soundOperations (reducible : Reducible E e) : SoundOperations E e := by
  intro name args meets
  obtain ⟨_, reduces⟩ := (reducible.walk (meets_iff_walk.mp meets)).2
  obtain ⟨op, named, arity, _⟩ := reduces.sound
  exact ⟨op, named, arity⟩

theorem SoundOperations.reducible (sound : SoundOperations E e) (grounded : Grounded (Mentions E) e) :
    Reducible E e := by
  induction grounded with
  | intro e _ ih =>
    cases e with
    | number x => exact ⟨_, .number x⟩
    | var name =>
      cases found : E.find? name with
      | none => exact ⟨_, .unbound found⟩
      | some bound =>
        obtain ⟨r, reduces⟩ := ih bound (.link found) (sound.step (.link found))
        exact ⟨r, .link found reduces⟩
    | operation name args =>
      obtain ⟨op, rfl, arity⟩ := sound name args (.within (.self _))
      have each : ∀ a ∈ args, Reducible E a := fun a member =>
        ih a (.argument member) (sound.step (.argument member))
      obtain ⟨reduced, pairs⟩ := exists_forall₂ each
      exact ⟨_, .of_pairs op arity pairs⟩

/-- A formula has a reduced form exactly if it leads into no circle and all operations on the way are sound. -/
theorem reducible_iff : Reducible E e ↔ CircleFree E e ∧ SoundOperations E e := by
  constructor
  · intro reducible
    obtain ⟨_, reduces⟩ := reducible
    exact ⟨circleFree_iff_grounded.mpr reduces.grounded, Reducible.soundOperations ⟨_, reduces⟩⟩
  · rintro ⟨clear, sound⟩
    exact sound.reducible (circleFree_iff_grounded.mp clear)

/-- Simplification reports refused operations and circles, and nothing else. -/
theorem refused_or_circle_of_simplify (failed : E.simplify [] e = .error error) :
    Refused E e error ∨ ∃ names, error = .cyclicDefinition names ∧ Circle E e names := by
  rcases obstructed_of_simplify .nil failed with obstructed | ⟨names, rfl⟩
  · exact .inl obstructed.refused
  · exact .inr ⟨names, rfl, (reports_of_simplify .nil failed).circle⟩

/-- Simplification succeeds exactly if the formula leads into no circle of definitions and every operation in it,
or in what its names lead to, is known and has the arguments that it takes. If it fails, it reports one of these
operations, without a context, or a circle; never a name that stands for nothing, and never a command that
has no value as a number. -/
theorem simplify_domain (E : Bindings) (e : Expr) :
    ((∃ r, E.simplify [] e = .ok r) ↔ CircleFree E e ∧ SoundOperations E e) ∧
      (∀ error, E.simplify [] e = .error error →
        Refused E e error ∨ ∃ names, error = .cyclicDefinition names ∧ Circle E e names) ∧
      (∀ name, E.simplify [] e ≠ .error (.undefinedVariable name)) ∧
      ∀ name, E.simplify [] e ≠ .error (.unknownOperation name (some CalcError.numericContext)) := by
  have succeeds : (∃ r, E.simplify [] e = .ok r) ↔ Reducible E e :=
    exists_congr fun _ => simplify_eq_ok_iff_reduces
  refine ⟨succeeds.trans reducible_iff, fun _ => refused_or_circle_of_simplify, ?_, ?_⟩
  · intro name failed
    rcases refused_or_circle_of_simplify failed with refused | ⟨_, none, _⟩
    · cases refused
    · cases none
  · intro name failed
    rcases refused_or_circle_of_simplify failed with refused | ⟨_, none, _⟩
    · cases refused
    · cases none

/-- The names left in a reduced form are the missing ones of the formula. -/
theorem Reduces.mem_freeNames_iff (reduces : Reduces E e r) : name ∈ r.freeNames ↔ Lacks E e name := by
  rw [reduces.lacks_iff (fun _ _ found => found), reduces.normal.settled.lacks_iff]

/-- If simplification succeeds, so does the search for unbound names, and it lists the names of the result: those
that the formula leads to and that stand for nothing. -/
theorem freeNames_of_simplify (simplified : E.simplify [] e = .ok r) :
    E.unboundNames [] e = .ok r.freeNames ∧
      ∀ name, name ∈ r.freeNames ↔ LeadsTo E e name ∧ E.find? name = none := by
  have reduces : Reduces E e r := simplify_eq_ok_iff_reduces.mp simplified
  obtain ⟨set, walked⟩ := reduces.exists_unboundNames
  have same : set = r.freeNames := NameSet.ext fun name => by
    rw [mem_unboundNames_iff walked, reduces.mem_freeNames_iff]
  exact ⟨same ▸ walked, fun name => reduces.mem_freeNames_iff.trans lacks_iff⟩

end

/-- The names `c` and `d` are left by a command that stands behind two definitions; the name `b`, used twice, and
the number that it is multiplied by are not. -/
theorem freeNames_of_simplify_behind_names :
    let product : Expr := .operation BinaryOp.mul.name [.var "c", .number 2]
    let command (operand : Expr) : Expr :=
      .operation Command.simplify.name [.operation BinaryOp.div.name [operand, .var "d"]]
    let E : Bindings := NameMap.ofList [("a", command (.var "b")), ("b", product)]
    let e : Expr := .operation BinaryOp.sub.name [.var "a", .var "b"]
    let r : Expr := .operation BinaryOp.sub.name [command product, product]
    E.simplify [] e = .ok r ∧ E.unboundNames [] e = .ok r.freeNames ∧
      ∀ name, name ∈ r.freeNames ↔ LeadsTo E e name ∧ E.find? name = none := by
  intro product command E e r
  have right : Reduces E (.var "b") product := by
    have reduced : Reduces E product product :=
      .of_pairs (.binary .mul) rfl (.cons (.unbound (by decide)) (.cons (.number 2) .nil))
    exact .link (by decide) reduced
  have left : Reduces E (.var "a") (command product) := by
    have quotient : Reduces E (.operation BinaryOp.div.name [.var "b", .var "d"])
        (.operation BinaryOp.div.name [product, .var "d"]) :=
      .of_pairs (.binary .div) rfl (.cons right (.cons (.unbound (by decide)) .nil))
    have reduced : Reduces E (command (.var "b")) (command product) :=
      .of_pairs (.command .simplify) rfl (.cons quotient .nil)
    exact .link (by decide) reduced
  have difference : Reduces E e r := .of_pairs (.binary .sub) rfl (.cons left (.cons right .nil))
  have simplified : E.simplify [] e = .ok r := simplify_eq_ok_iff_reduces.mpr difference
  exact ⟨simplified, freeNames_of_simplify simplified⟩

end GraphCalc.Bindings
