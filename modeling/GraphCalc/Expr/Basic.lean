import GraphCalc.NameMap

/-!
# Formulas

A formula is a literal double, a name, or an operation applied to an ordered list of formulas. The
operation is kept as the text that was written: its name may be unknown and its number of arguments
wrong, and both are only found out where the formula is used.

There are two kinds of sameness. `=` is strict: node for node, doubles bit for bit. `==` compares
literals as numbers, so it takes `0` and `-0` for the same and nothing for the same as what is not a
number.
-/

namespace GraphCalc

inductive Expr where
  | number (value : Float)
  | var (name : String)
  | operation (name : String) (args : List Expr)
deriving Inhabited

namespace Expr

/-- The formulas right below a formula. -/
def children : Expr → List Expr
  | operation _ args => args
  | _ => []

def isNumber : Expr → Bool
  | number _ => true
  | _ => false

def isVariable : Expr → Bool
  | var _ => true
  | _ => false

def isOperation : Expr → Bool
  | operation _ _ => true
  | _ => false

/-- An operation with other arguments; literals and names have none to replace. -/
def withChildren : Expr → List Expr → Expr
  | operation name _, children => operation name children
  | e, _ => e

/-- The names that occur in a formula. -/
def freeNames : Expr → NameSet
  | number _ => ∅
  | var name => .singleton name
  | operation _ args => args.foldl (fun names child => names ∪ child.freeNames) ∅

@[simp] theorem not_mem_freeNames_number (x : Float) (name : String) :
    name ∉ (number x).freeNames := by
  rw [freeNames]
  exact NameSet.not_mem_empty name

@[simp] theorem mem_freeNames_var {name other : String} :
    other ∈ (var name).freeNames ↔ other = name := by
  rw [freeNames, NameSet.mem_singleton]

theorem mem_freeNames_operation {name other : String} {args : List Expr} :
    other ∈ (operation name args).freeNames ↔ ∃ a ∈ args, other ∈ a.freeNames := by
  rw [freeNames, NameSet.mem_foldl_union]
  simp

mutual

/-- Equality with literals compared as numbers. -/
def beq : Expr → Expr → Bool
  | number x, number y => x == y
  | var m, var n => m == n
  | operation f args, operation g others => f == g && beqAll args others
  | _, _ => false

def beqAll : List Expr → List Expr → Bool
  | [], [] => true
  | e :: es, f :: fs => beq e f && beqAll es fs
  | _, _ => false

end

instance : BEq Expr := ⟨beq⟩

mutual

def decEq : (e f : Expr) → Decidable (e = f)
  | number x, number y => decidable_of_iff (x = y) (by simp)
  | var m, var n => decidable_of_iff (m = n) (by simp)
  | operation f args, operation g others =>
    have := decEqAll args others
    decidable_of_iff (f = g ∧ args = others) (by simp)
  | number _, var _ => isFalse nofun
  | number _, operation _ _ => isFalse nofun
  | var _, number _ => isFalse nofun
  | var _, operation _ _ => isFalse nofun
  | operation _ _, number _ => isFalse nofun
  | operation _ _, var _ => isFalse nofun

def decEqAll : (es fs : List Expr) → Decidable (es = fs)
  | [], [] => isTrue rfl
  | e :: es, f :: fs =>
    have := decEq e f
    have := decEqAll es fs
    decidable_of_iff (e = f ∧ es = fs) (by simp)
  | [], _ :: _ => isFalse nofun
  | _ :: _, [] => isFalse nofun

end

instance : DecidableEq Expr := decEq

/-- The formulas of a list with repetitions under `==` left out, first occurrences kept. -/
def distinct (exprs : List Expr) : List Expr :=
  exprs.foldl (fun kept e => if kept.any (· == e) then kept else kept ++ [e]) []

end Expr

end GraphCalc
