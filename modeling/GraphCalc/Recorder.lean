import GraphCalc.CalcError

/-!
# Recorded plots

A plot hands a series of points to a recorder, which keeps the renders it was asked for, all of them or
the most recent ones up to a limit. `record_calls` says what it holds after one more, and
`calls_foldl_record` after any number.
-/

namespace GraphCalc

/-- The two coordinates of sampled points. -/
structure Series where
  xs : List Float
  ys : List Float
deriving DecidableEq

namespace Series

/-- The points of a series, as many as both coordinates have. -/
def points (s : Series) : List (Float × Float) := s.xs.zip s.ys

def ofPoints (points : List (Float × Float)) : Series :=
  ⟨points.map (·.1), points.map (·.2)⟩

/-- The points that lie in the finite plane; others cannot be drawn. -/
def finite (s : Series) : Series :=
  ofPoints (s.points.filter fun (x, y) => x.isFinite && y.isFinite)

end Series

/-- One request to draw a series. -/
structure RenderCall where
  label : String
  parameter : String
  outputId : String
  series : Series
deriving DecidableEq

/-- The last items of a list up to a limit, all of them without one. -/
def lastUpTo {α : Type} (limit : Option Nat) (items : List α) : List α :=
  match limit with
  | some n => items.drop (items.length - n)
  | none => items

theorem length_lastUpTo_le {α : Type} {n : Nat} (items : List α) :
    (lastUpTo (some n) items).length ≤ n := by
  simp only [lastUpTo, List.length_drop]
  omega

/-- Dropping what exceeds the limit early and again later is the same as dropping it once at the end. -/
theorem lastUpTo_append {α : Type} (limit : Option Nat) (older newer : List α) :
    lastUpTo limit (lastUpTo limit older ++ newer) = lastUpTo limit (older ++ newer) := by
  cases limit with
  | none => rfl
  | some n =>
    have early : older.length - n ≤ older.length := Nat.sub_le _ _
    simp only [lastUpTo, ← List.drop_append_of_le_length early, List.drop_drop,
      List.length_drop, List.length_append]
    congr 1
    omega

/-- The renders that are kept. A limit is positive and never exceeded. -/
structure Recorder where
  limit : Option Nat
  calls : List RenderCall
  limit_pos : ∀ n ∈ limit, 0 < n
  length_le : ∀ n ∈ limit, calls.length ≤ n

namespace Recorder

/-- A recorder that keeps every render. -/
def unlimited : Recorder := ⟨none, [], nofun, nofun⟩

/-- A recorder that keeps the last render only. -/
def single : Recorder where
  limit := some 1
  calls := []
  limit_pos n h := by cases h; decide
  length_le _ _ := Nat.zero_le _

/-- An empty recorder with a limit, which must be positive, or without one. -/
def create : Option Int → Except CalcError Recorder
  | none => .ok unlimited
  | some limit =>
    if h : 1 ≤ limit then
      .ok { limit := some limit.toNat
            calls := []
            limit_pos := fun n member => by cases member; omega
            length_le := fun _ _ => Nat.zero_le _ }
    else .error (.invalidLimit limit)

/-- One more render, at the expense of the oldest once the limit is reached. -/
def record (r : Recorder) (call : RenderCall) : Recorder where
  limit := r.limit
  calls := lastUpTo r.limit (r.calls ++ [call])
  limit_pos := r.limit_pos
  length_le n h := by
    rw [Option.mem_def.mp h]
    exact length_lastUpTo_le _

/-- The most recent render. -/
def last (r : Recorder) : Except CalcError RenderCall :=
  match r.calls.getLast? with
  | some call => .ok call
  | none => .error .nothingRendered

@[simp] theorem record_calls (r : Recorder) (call : RenderCall) :
    (r.record call).calls = lastUpTo r.limit (r.calls ++ [call]) := rfl

@[simp] theorem record_limit (r : Recorder) (call : RenderCall) :
    (r.record call).limit = r.limit := rfl

/-- After several renders the recorder holds the last of all that it was ever handed. -/
theorem calls_foldl_record (r : Recorder) (calls : List RenderCall) :
    (calls.foldl record r).calls = lastUpTo r.limit (r.calls ++ calls) := by
  induction calls generalizing r with
  | nil =>
    cases full : r.limit with
    | none => simp [lastUpTo]
    | some n =>
      have := r.length_le n full
      simp [lastUpTo, Nat.sub_eq_zero_of_le this]
  | cons call calls ih =>
    rw [List.foldl_cons, ih, record_calls, record_limit, lastUpTo_append]
    simp

end Recorder

end GraphCalc
