import GraphCalc.Proofs.SampleIndices
import GraphCalc.Proofs.SampledSeries

/-!
# The end of the sampling loop

The sampling loop as it runs, turn by turn: a turn leaves the loop where the position is outside the range, and
it refuses the step where the next position *equals* the position. Nothing in it counts turns, and nothing in
it asks whether the positions go up. That they do is why the loop ends: each turn that goes on moves to a
larger double, and there are only finitely many up to the maximum. `sampling_loop_ends` says so, and that what
the turns come to is what sampling returns.

The index takes no part in this. A step below the distance between doubles is refused at the latest where the
rounded positions meet, and this may be at any index.
-/

namespace GraphCalc

/-- The sampling loop between two turns: the index and the position of the next sample, and the samples taken so
far. -/
structure Progress where
  index : Nat
  position : Float
  samples : List (Float × Float)

namespace Progress

/-- The loop before its first turn. -/
def start (grid : Grid) : Progress := ⟨0, grid.minimum, []⟩

/-- The loop stands at the position of its index, and every position before was in the range and led to a larger
one. -/
structure Sound (grid : Grid) (progress : Progress) : Prop where
  position : progress.position = grid.point progress.index
  reached : grid.Reaches progress.index

theorem sound_start (grid : Grid) : (start grid).Sound grid := ⟨rfl, .start⟩

end Progress

namespace Grid

variable {grid : Grid} {i : Nat}

theorem Reaches.rank_add_le (reaches : grid.Reaches i) :
    Double.rank grid.minimum + i ≤ Double.rank (grid.point i) := by
  induction reaches with
  | start => simp [point]
  | next _ _ advance ih =>
    have further := Double.rank_lt_rank advance
    push_cast
    omega

/-- A sampling gets to no index beyond the ranks between the minimum and the maximum. -/
theorem Reaches.index_le (reaches : grid.Reaches i) (valid : grid.Valid) :
    (i : Int) ≤ Double.rank grid.maximum - Double.rank grid.minimum + 1 := by
  cases reaches with
  | start =>
    have ordered := Double.rank_le_rank valid.ordered
    push_cast
    omega
  | next reached inside _ =>
    have first := reached.rank_add_le
    have last := Double.rank_le_rank inside
    push_cast
    omega

end Grid

theorem Action.runIn_bind_eq_ok {α β : Type} {action : Action α} {next : α → Action β} {s t : Session}
    {b : β} (ran : (action >>= next).runIn s = (.ok b, t)) :
    ∃ a u, action.runIn s = (.ok a, u) ∧ (next a).runIn u = (.ok b, t) := by
  rw [runIn_bind] at ran
  split at ran
  · exact ⟨_, _, ‹_›, ran⟩
  · cases ran

namespace Session

open GraphCalc.Action GraphCalc.Bindings

variable {fault : CalcError} {name : String} {body : Expr} {grid : Grid} {progress next : Progress}
  {s t : Session} {n : Nat} {outcome : Except CalcError (List (Float × Float))}

section

variable [MathLibrary]

/-- One turn of the sampling loop: what is left to do, or the samples where the position is outside the range.
The next position is computed from the next index, and `fault` stands for an index that is too large. -/
def turn (fault : CalcError) (name : String) (body : Expr) (grid : Grid) (progress : Progress) :
    Action (Progress ⊕ List (Float × Float)) := do
  if progress.position ≤ grid.maximum then
    let y ← evaluateAt name body progress.position
    let following ← .ofExcept (grid.pointOr fault (progress.index + 1))
    if following == progress.position then throw (.stepTooSmall grid.step progress.position)
    else return .inl ⟨progress.index + 1, following, progress.samples ++ [(progress.position, y)]⟩
  else return .inr progress.samples

/-- The loop for so many turns, unless it is over before. -/
def turns (fault : CalcError) (name : String) (body : Expr) (grid : Grid) :
    Nat → Progress → Action (Progress ⊕ List (Float × Float))
  | 0, progress => return .inl progress
  | n + 1, progress => do
    match ← turn fault name body grid progress with
    | .inl next => turns fault name body grid n next
    | .inr samples => return .inr samples

/-- The loop is over after some number of turns: it has returned samples or failed, and this is the session that
it leaves. -/
def LoopEnds (fault : CalcError) (name : String) (body : Expr) (grid : Grid) (s : Session)
    (outcome : Except CalcError (List (Float × Float))) (t : Session) : Prop :=
  ∃ n, (turns fault name body grid n (.start grid)).runIn s = (outcome.map .inr, t)

/-- The samples so far, and those that sampling takes from here on. -/
def remaining (name : String) (body : Expr) (grid : Grid) (progress : Progress) :
    Action (List (Float × Float)) := do
  return progress.samples ++ (← samplePoints name body grid progress.index)

theorem turn_eq (sound : progress.Sound grid) (fault : CalcError) (name : String) (body : Expr) :
    turn fault name body grid progress = (do
      let x := grid.point progress.index
      let following := grid.point (progress.index + 1)
      if x ≤ grid.maximum then
        let y ← evaluateAt name body x
        if following == x then throw (.stepTooSmall grid.step x)
        else return .inl ⟨progress.index + 1, following, progress.samples ++ [(x, y)]⟩
      else return .inr progress.samples) := by
  rw [turn, sound.position, sound.reached.pointOr_eq]
  rfl

/-- A turn that goes on moves to a larger double. -/
theorem turn_advances (sound : progress.Sound grid) (valid : grid.Valid)
    (ran : (turn fault name body grid progress).runIn s = (.ok (.inl next), t)) :
    next.Sound grid ∧ next.index = progress.index + 1 ∧ progress.position < next.position := by
  rw [turn_eq sound] at ran
  dsimp only at ran
  split at ran
  · rename_i inside
    obtain ⟨y, _, _, ran⟩ := runIn_bind_eq_ok ran
    split at ran
    · cases ran
    · rename_i distinct
      have advance := (valid.advances_iff progress.index).mpr distinct
      cases ran
      exact ⟨⟨rfl, sound.reached.next inside advance⟩, rfl, sound.position ▸ advance⟩
  · cases ran

/-- What sampling does from here on is a turn and what sampling does after it. -/
theorem remaining_eq (sound : progress.Sound grid) (valid : grid.Valid) (fault : CalcError) (name : String)
    (body : Expr) :
    remaining name body grid progress = (do
      match ← turn fault name body grid progress with
      | .inl next => remaining name body grid next
      | .inr samples => return samples) := by
  rw [turn_eq sound, remaining, samplePoints_eq_of_valid valid]
  dsimp only
  split
  · simp only [evaluateAt, bind_assoc]
    refine bind_congr fun _ => bind_congr fun y => ?_
    split
    · rfl
    · simp only [bind_assoc, pure_bind, remaining, List.append_assoc, List.cons_append, List.nil_append]
  · simp

theorem turns_sound (sound : progress.Sound grid) (valid : grid.Valid)
    (ran : (turns fault name body grid n progress).runIn s = (.ok (.inl next), t)) :
    next.Sound grid ∧ next.index = progress.index + n := by
  induction n generalizing progress s with
  | zero =>
    cases ran
    exact ⟨sound, rfl⟩
  | succ n ih =>
    obtain ⟨outcome, u, first, rest⟩ := runIn_bind_eq_ok ran
    cases outcome with
    | inl middle =>
      obtain ⟨sound, once, _⟩ := turn_advances sound valid first
      obtain ⟨sound, index⟩ := ih sound rest
      exact ⟨sound, by omega⟩
    | inr samples => cases rest

/-- Where the turns are over, they have come to what sampling comes to. -/
theorem remaining_of_turns (sound : progress.Sound grid) (valid : grid.Valid)
    (ran : (turns fault name body grid n progress).runIn s = (outcome.map .inr, t)) :
    (remaining name body grid progress).runIn s = (outcome, t) := by
  induction n generalizing progress s with
  | zero => cases outcome <;> cases ran
  | succ n ih =>
    rw [turns, runIn_bind] at ran
    rw [remaining_eq sound valid fault, runIn_bind]
    cases first : (turn fault name body grid progress).runIn s with
    | mk result u =>
      rw [first] at ran
      cases result with
      | error error => (cases outcome <;> cases ran); rfl
      | ok result =>
        cases result with
        | inl next => exact ih (turn_advances sound valid first).1 ran
        | inr samples => (cases outcome <;> cases ran); rfl

theorem samplePoints_of_loopEnds (valid : grid.Valid) (ends : LoopEnds fault name body grid s outcome t) :
    (samplePoints name body grid 0).runIn s = (outcome, t) := by
  obtain ⟨n, ran⟩ := ends
  have whole : remaining name body grid (.start grid) = samplePoints name body grid 0 := by
    simp [remaining, Progress.start]
  exact whole ▸ remaining_of_turns (Progress.sound_start grid) valid ran

/-- After so many turns the loop is not under way any more, because the positions have run out of ranks. -/
theorem exists_loopEnds (valid : grid.Valid) (fault : CalcError) (name : String) (body : Expr) (s : Session) :
    ∃ outcome t, LoopEnds fault name body grid s outcome t := by
  let n := (Double.rank grid.maximum - Double.rank grid.minimum + 2).toNat
  cases ran : (turns fault name body grid n (.start grid)).runIn s with
  | mk result t =>
    cases result with
    | error error => exact ⟨.error error, t, n, ran⟩
    | ok result =>
      cases result with
      | inl next =>
        obtain ⟨sound, index⟩ := turns_sound (Progress.sound_start grid) valid ran
        have few := sound.reached.index_le valid
        simp only [Progress.start, n] at index
        omega
      | inr samples => exact ⟨.ok samples, t, n, ran⟩

/-- The samples of an admitted request are those of the loop, which starts where the name is bound. -/
theorem result_sample_of_admits {request : PlotRequest}
    (admits : s.bindings.Admits s.settings request name body grid) :
    ((sample request).runIn s).1 =
      ((samplePoints name body grid 0).runIn
        ((s.bind name (.number grid.minimum)).report (.bound name))).1.map .ofPoints := by
  obtain ⟨_, _, ran, _⟩ := readsBut_samplePoints name body grid 0
    ((s.bind name (.number grid.minimum)).report (.bound name))
  have same := Bindings.valueAt_insert s.bindings name (.number grid.minimum) body
  rw [result_sample, admits.sampled_eq, ran]
  dsimp only [bind, report] at same ⊢
  rw [same]
  cases grid.tabulate (s.bindings.valueAt name body) 0 <;> rfl

/-- The sampling loop ends for every range of finite doubles and every step that goes up, however small the step
is, and also if it is infinite. A turn that goes on moves to a strictly larger double, which is in the range or
ends the loop at the next turn, so there are no more turns than ranks from the minimum to the maximum. In the end
the loop has returned samples or failed, with the outcome of the sampling, for every session in which it starts.
For a request that has passed the checks, this is what comes of the request. -/
theorem sampling_loop_ends (fault : CalcError) (name : String) (body : Expr) (grid : Grid) (valid : grid.Valid)
    (s : Session) :
    (∀ n progress t, (turns fault name body grid n (.start grid)).runIn s = (.ok (.inl progress), t) →
      (n : Int) ≤ Double.rank grid.maximum - Double.rank grid.minimum + 1 ∧
        ∀ next u, (turn fault name body grid progress).runIn t = (.ok (.inl next), u) →
          progress.position < next.position ∧ (next.position ≤ grid.maximum ∨
            ∀ v, (turn fault name body grid next).runIn v = (.ok (.inr next.samples), v))) ∧
    (∃ outcome t, LoopEnds fault name body grid s outcome t ∧
      (samplePoints name body grid 0).runIn s = (outcome, t)) ∧
    ∀ request, s.bindings.Admits s.settings request name body grid →
      ∃ outcome t,
        LoopEnds fault name body grid ((s.bind name (.number grid.minimum)).report (.bound name)) outcome t ∧
          ((sample request).runIn s).1 = outcome.map .ofPoints := by
  refine ⟨fun n progress t ran => ?_, ?_, fun request admits => ?_⟩
  · obtain ⟨sound, index⟩ := turns_sound (Progress.sound_start grid) valid ran
    have few := sound.reached.index_le valid
    obtain rfl : progress.index = n := by simpa [Progress.start] using index
    refine ⟨few, fun next u ran => ⟨(turn_advances sound valid ran).2.2, ?_⟩⟩
    by_cases inside : next.position ≤ grid.maximum
    · exact .inl inside
    · refine .inr fun v => ?_
      rw [turn, if_neg inside]
      rfl
  · obtain ⟨outcome, t, ends⟩ := exists_loopEnds valid fault name body s
    exact ⟨outcome, t, ends, samplePoints_of_loopEnds valid ends⟩
  · obtain ⟨outcome, t, ends⟩ :=
      exists_loopEnds valid fault name body ((s.bind name (.number grid.minimum)).report (.bound name))
    exact ⟨outcome, t, ends, by rw [result_sample_of_admits admits, samplePoints_of_loopEnds valid ends]⟩

end

/-- An infinite step leads out of the range at once, and the least step of all leads nowhere from the start. -/
theorem sampling_loop_ends_at_extreme_steps :
    let s : Session := ⟨∅, .single, {}, []⟩
    let fault : CalcError := .general "index too large"
    let wide : Grid := ⟨0, 1, .ofBits 0x7ff0000000000000⟩
    let narrow : Grid := ⟨1, 2, .ofBits 1⟩
    let inside (grid : Grid) : Session := (s.bind "x" (.number grid.minimum)).report (.bound "x")
    (∃ outcome t, LoopEnds fault "x" (.var "x") wide (inside wide) outcome t ∧
        outcome.map Series.ofPoints = .ok ⟨[0], [0]⟩) ∧
      ∃ t, LoopEnds fault "x" (.var "x") narrow (inside narrow) (.error (.stepTooSmall narrow.step 1)) t := by
  intro s fault wide narrow inside
  have admits {grid : Grid} (valid : grid.Valid) :
      s.bindings.Admits s.settings (.over grid "x" (.var "x")) "x" (.var "x") grid :=
    admits_over valid rfl (checkBody_self _ _ _)
  have validWide : wide.Valid := ⟨by decide, by decide, by decide, by decide⟩
  have validNarrow : narrow.Valid := ⟨by decide, by decide, by decide, by decide⟩
  constructor
  · obtain ⟨outcome, t, ends, sampled⟩ :=
      (sampling_loop_ends fault "x" (.var "x") wide validWide s).2.2 _ (admits validWide)
    have once := sample_self s "x" validWide rfl (n := 1) (by decide) (by decide)
    exact ⟨outcome, t, ends, sampled.symm.trans once⟩
  · obtain ⟨outcome, t, ends, sampled⟩ :=
      (sampling_loop_ends fault "x" (.var "x") narrow validNarrow s).2.2 _ (admits validNarrow)
    have stays : ¬narrow.point 0 < narrow.point 1 := by decide +kernel
    have refused := Grid.Traces.start.tabulate_of_stall validNarrow.ordered (valueAt_self s.bindings "x" 1) stays
    rw [result_sample, (admits validNarrow).sampled_eq, refused] at sampled
    cases outcome with
    | ok points => cases sampled
    | error error =>
      cases sampled
      exact ⟨t, ends⟩

end Session

end GraphCalc
