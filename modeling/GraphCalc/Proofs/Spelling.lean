import GraphCalc.Expr.Text
import GraphCalc.Proofs.Numerals
import GraphCalc.Proofs.NormalForms

/-!
# Spelling

Formulas that are written alike are either the same or differ in one of two ways. A zero is written without its
sign, and a negative literal is written like the negation of its magnitude. `aligned` takes both differences away
in favour of literals and `spelled` in favour of negations. Two formulas agree under the one exactly if they agree
under the other, `aligned_eq_iff_spelled_eq`, and what is spelled out is still written the same, `text_spelled`.
-/

namespace GraphCalc.Expr

open Double (Unsigned)

variable {a b e : Expr} {x : Float} {name : String} {args : List Expr}

/-- An operation; a negation of a positive literal becomes a literal. -/
def foldNegation (name : String) (args : List Expr) : Expr :=
  match args with
  | [number x] => if name = UnaryOp.negate.name ∧ 0 < x then number (-x) else operation name args
  | _ => operation name args

/-- A formula without signs of zero, in which every negation of a positive literal is a literal. -/
def aligned : Expr → Expr
  | number x => number (Double.aligned x)
  | var name => var name
  | operation name args => foldNegation name (args.map aligned)

/-- A formula without signs of zero, in which every negative literal is a negation. -/
def spelled : Expr → Expr
  | number x =>
    if x < 0 then operation UnaryOp.negate.name [number (-x)] else number (Double.aligned x)
  | var name => var name
  | operation name args => operation name (args.map spelled)

theorem spelled_of_neg (negative : x < 0) :
    (number x).spelled = operation UnaryOp.negate.name [number (-x)] := by
  rw [spelled, if_pos negative]

theorem spelled_of_not_neg (notNegative : ¬x < 0) : (number x).spelled = number (Double.aligned x) := by
  rw [spelled, if_neg notNegative]

theorem spelled_of_pos (positive : 0 < x) : (number x).spelled = number x := by
  have unsigned := Double.unsigned_of_pos positive
  rw [spelled_of_not_neg unsigned.notNegative, unsigned.aligned]

/-- Lists whose items become the same become the same. -/
theorem map_map_eq {f g h : Expr → Expr} (each : ∀ a ∈ args, f (g a) = h a) :
    (args.map g).map f = args.map h := by
  rw [List.map_map]
  exact List.map_congr_left each

theorem foldNegation_cases (name : String) (args : List Expr) :
    (∃ x, 0 < x ∧ name = UnaryOp.negate.name ∧ args = [number x] ∧ foldNegation name args = number (-x)) ∨
      foldNegation name args = operation name args := by
  unfold foldNegation
  split
  · rename_i x
    by_cases folds : name = UnaryOp.negate.name ∧ 0 < x
    · exact .inl ⟨x, folds.2, folds.1, rfl, if_pos folds⟩
    · exact .inr (if_neg folds)
  · exact .inr rfl

theorem aligned_spelled (e : Expr) : e.spelled.aligned = e.aligned := by
  induction e using argumentInduction with
  | number x =>
    by_cases negative : x < 0
    · have positive : 0 < -x := Double.neg_pos.mpr negative
      rw [spelled_of_neg negative, aligned, aligned, List.map_singleton, aligned, Double.aligned_of_pos positive,
        Double.aligned_of_neg negative, foldNegation, if_pos ⟨rfl, positive⟩, Double.neg_neg]
    · rw [spelled_of_not_neg negative, aligned, aligned, Double.aligned_aligned]
  | var name => rw [spelled]
  | operation name args ih => rw [spelled, aligned, aligned, map_map_eq ih]

theorem spelled_aligned (e : Expr) : e.aligned.spelled = e.spelled := by
  induction e using argumentInduction with
  | number x =>
    rw [aligned]
    by_cases negative : x < 0
    · rw [Double.aligned_of_neg negative]
    · have unsigned := Double.unsigned_aligned negative
      rw [spelled_of_not_neg negative, spelled_of_not_neg unsigned.notNegative, unsigned.aligned]
  | var name => rw [aligned]
  | operation name args ih =>
    rw [aligned, spelled, ← map_map_eq ih]
    rcases foldNegation_cases name (args.map aligned) with ⟨x, positive, rfl, single, folded⟩ | kept
    · rw [folded, single, spelled_of_neg (Double.neg_lt_zero.mpr positive), Double.neg_neg, List.map_singleton,
        spelled_of_pos positive]
    · rw [kept, spelled]

/-- Formulas agree after alignment exactly if they agree when they are spelled out. -/
theorem aligned_eq_iff_spelled_eq : a.aligned = b.aligned ↔ a.spelled = b.spelled := by
  constructor
  · intro same
    rw [← spelled_aligned a, same, spelled_aligned b]
  · intro same
    rw [← aligned_spelled a, same, aligned_spelled b]

theorem operationText_single (name operand : String) :
    operationText name [operand] =
      if name = UnaryOp.negate.name then negated operand else name ++ "(" ++ operand ++ ")" := rfl

/-- The text of an unsigned literal does not start with a minus sign. -/
theorem head_numeral_ne (unsigned : Unsigned x) : (Double.numeral x).toList.head? ≠ some '-' := by
  rcases unsigned.numeral_cases with text | text | ⟨⟨c, rest, text, first⟩, _⟩
  · rw [text]
    decide
  · rw [text]
    decide
  · rw [text, List.head?_cons]
    rintro ⟨⟩
    cases first

/-- A formula is written as it is spelled. -/
theorem text_spelled (e : Expr) : e.spelled.text = e.text := by
  induction e using argumentInduction with
  | number x =>
    by_cases negative : x < 0
    · have unsigned := Double.unsigned_of_pos (Double.neg_pos.mpr negative)
      rw [spelled_of_neg negative, text, text, Double.numeral_of_neg negative]
      show negated (number (-x)).text = _
      rw [text, negated, if_neg (head_numeral_ne unsigned)]
    · rw [spelled_of_not_neg negative, text, text, Double.numeral_aligned]
  | var name => rw [spelled]
  | operation name args ih =>
    rw [spelled, text, text, List.map_map]
    exact congrArg (operationText name) (List.map_congr_left ih)

/-- ASCII letters, and all characters beyond ASCII, where the letters of other scripts are. -/
def isLetter (c : Char) : Bool := c.isAlpha || 128 ≤ c.toNat

/-- Letters, digits and underscores, a digit not first. -/
def isIdentifier (name : String) : Bool :=
  match name.toList with
  | [] => false
  | c :: cs => (isLetter c || c == '_') && cs.all fun d => isLetter d || d.isDigit || d == '_'

/-- A name that cannot be taken for a literal. -/
structure IsName (name : String) : Prop where
  identifier : isIdentifier name = true
  notInfinite : name ≠ "inf"
  notNan : name ≠ "nan"

/-- Every operation of a formula is known and has its arguments, and every name in it is an identifier that is no
literal. -/
structure WellWritten (e : Expr) : Prop where
  sound : ∀ name args, Within (.operation name args) e → ∃ op : Op, op.name = name ∧ args.length = op.arity
  named : ∀ name, Within (.var name) e → IsName name

theorem WellWritten.argument (written : WellWritten (operation name args)) (member : a ∈ args) : WellWritten a :=
  ⟨fun f others within => written.sound f others (.inside member within),
    fun other within => written.named other (.inside member within)⟩

theorem wellWritten_number (x : Float) : WellWritten (number x) := ⟨nofun, nofun⟩

theorem wellWritten_operation (op : Op) (arity : args.length = op.arity) (each : ∀ a ∈ args, WellWritten a) :
    WellWritten (operation op.name args) := by
  refine ⟨fun name others within => ?_, fun name within => ?_⟩
  · cases within with
    | self => exact ⟨op, rfl, arity⟩
    | inside member within => exact (each _ member).sound name others within
  · cases within with
    | inside member within => exact (each _ member).named name within

/-- A text without a structure of its own: an unsigned literal or a name. -/
inductive Atom : Expr → Prop
  | number {x : Float} (unsigned : Unsigned x) : Atom (number x)
  | var {name : String} (named : IsName name) : Atom (var name)

/-- The names that are written before a list of arguments. -/
def isCall (op : Op) : Bool := !op.isBinary && op != .unary .negate

/-- A well-written formula that is spelled out, by the way it is written. -/
inductive Plain : Expr → Prop
  | atom {e : Expr} (atom : Atom e) : Plain e
  | between (op : BinaryOp) {a b : Expr} (left : Plain a) (right : Plain b) : Plain (operation op.name [a, b])
  | negation {a : Expr} (inner : Plain a) : Plain (operation UnaryOp.negate.name [a])
  | call {op : Op} {args : List Expr} (called : isCall op = true) (arity : args.length = op.arity)
      (each : ∀ a ∈ args, Plain a) : Plain (operation op.name args)

theorem WellWritten.plain (written : WellWritten e) : Plain e.spelled := by
  induction e using argumentInduction with
  | number x =>
    by_cases negative : x < 0
    · rw [spelled_of_neg negative]
      exact .negation (.atom (.number (Double.unsigned_of_pos (Double.neg_pos.mpr negative))))
    · rw [spelled_of_not_neg negative]
      exact .atom (.number (Double.unsigned_aligned negative))
  | var name =>
    rw [spelled]
    exact .atom (.var (written.named name (.self _)))
  | operation name args ih =>
    obtain ⟨op, rfl, arity⟩ := written.sound name args (.self _)
    have each : ∀ a ∈ args.map spelled, Plain a := by
      intro b member
      obtain ⟨a, below, rfl⟩ := List.mem_map.mp member
      exact ih a below (written.argument below)
    rw [spelled]
    rw [← List.length_map (f := spelled)] at arity
    generalize args.map spelled = args at arity each
    match op with
    | .binary op =>
      obtain ⟨a, b, rfl⟩ := List.length_eq_two.mp arity
      exact .between op (each a (by simp)) (each b (by simp))
    | .unary .negate =>
      obtain ⟨a, rfl⟩ := List.length_eq_one_iff.mp arity
      exact .negation (each a (by simp))
    | .unary .sin | .unary .cos | .command _ => exact .call rfl arity each

end GraphCalc.Expr
