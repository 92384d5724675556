import GraphCalc.Expr.Basic
import Mathlib.Data.List.Forall2

/-!
# Results and formulas, step by step

How the outcome of a computation that may fail is made up of the outcomes of its steps, and the
induction over formulas that goes from the arguments of an operation to the operation.
-/

namespace GraphCalc

namespace Results

variable {ε α β : Type}

theorem bind_eq_ok_iff {step : Except ε α} {next : α → Except ε β} {value : β} :
    (step >>= next) = .ok value ↔ ∃ x, step = .ok x ∧ next x = .ok value := by
  cases step with
  | error e => simp [bind, Except.bind]
  | ok x => simp [bind, Except.bind]

/-- A list is worked through successfully exactly if each of its items is. -/
theorem mapM_eq_ok_iff {f : α → Except ε β} {as : List α} {bs : List β} :
    as.mapM f = .ok bs ↔ List.Forall₂ (fun a b => f a = .ok b) as bs := by
  induction as generalizing bs with
  | nil => cases bs <;> simp [pure, Except.pure]
  | cons a as ih =>
    rw [List.mapM_cons, bind_eq_ok_iff]
    constructor
    · rintro ⟨b, first, rest⟩
      obtain ⟨others, remaining, same⟩ := bind_eq_ok_iff.mp rest
      cases same
      exact .cons first (ih.mp remaining)
    · intro each
      cases each with
      | cons first remaining =>
        exact ⟨_, first, bind_eq_ok_iff.mpr ⟨_, ih.mpr remaining, rfl⟩⟩

theorem mapM_congr {f g : α → Except ε β} {as : List α} (same : ∀ a ∈ as, f a = g a) :
    as.mapM f = as.mapM g := by
  induction as with
  | nil => rfl
  | cons a as ih =>
    obtain ⟨first, rest⟩ := List.forall_mem_cons.mp same
    rw [List.mapM_cons, List.mapM_cons, first, ih rest]

theorem mapM_map {γ : Type} {f : α → Except ε β} (g : β → γ) (as : List α) :
    as.mapM (fun a => (f a).map g) = (as.mapM f).map (List.map g) := by
  induction as with
  | nil => rfl
  | cons a as ih =>
    rw [List.mapM_cons, List.mapM_cons, ih]
    cases f a with
    | error error => rfl
    | ok b => cases as.mapM f <;> rfl

theorem exists_ok_of_not_error {result : Except ε α} (clear : ∀ error, result ≠ .error error) :
    ∃ a, result = .ok a := by
  cases result with
  | ok a => exact ⟨a, rfl⟩
  | error error => exact absurd rfl (clear error)

theorem forall₂_of_zip {R : α → β → Prop} {as : List α} {bs : List β}
    (paired : as.length = bs.length) (each : ∀ a b, (a, b) ∈ as.zip bs → R a b) :
    List.Forall₂ R as bs :=
  List.forall₂_iff_zip.mpr ⟨paired, fun pair => each _ _ pair⟩

theorem forall₂_join {γ : Type} {R : α → β → Prop} {S : α → γ → Prop} {T : β → γ → Prop}
    {as : List α} {bs : List β} {cs : List γ} (each : ∀ a b c, R a b → S a c → T b c)
    (pairs : List.Forall₂ R as bs) (others : List.Forall₂ S as cs) : List.Forall₂ T bs cs := by
  induction pairs generalizing cs with
  | nil =>
    cases others
    exact .nil
  | cons first _ ih =>
    cases others with
    | cons other rest => exact .cons (each _ _ _ first other) (ih rest)

theorem exists_forall₂ {R : α → β → Prop} {as : List α} (each : ∀ a ∈ as, ∃ b, R a b) :
    ∃ bs, List.Forall₂ R as bs := by
  induction as with
  | nil => exact ⟨[], .nil⟩
  | cons a as ih =>
    obtain ⟨⟨b, first⟩, rest⟩ := List.forall_mem_cons.mp each
    obtain ⟨bs, others⟩ := ih rest
    exact ⟨b :: bs, .cons first others⟩

theorem exists_of_mem_left {R : α → β → Prop} {as : List α} {bs : List β} {a : α}
    (pairs : List.Forall₂ R as bs) (member : a ∈ as) : ∃ b ∈ bs, R a b := by
  induction pairs with
  | nil => cases member
  | cons first _ ih =>
    rcases List.mem_cons.mp member with rfl | later
    · exact ⟨_, List.mem_cons_self, first⟩
    · obtain ⟨b, listed, related⟩ := ih later
      exact ⟨b, List.mem_cons_of_mem _ listed, related⟩

theorem exists_of_mem_right {R : α → β → Prop} {as : List α} {bs : List β} {b : β}
    (pairs : List.Forall₂ R as bs) (member : b ∈ bs) : ∃ a ∈ as, R a b :=
  exists_of_mem_left (R := flip R) pairs.flip member

theorem bind_eq_error_iff {step : Except ε α} {next : α → Except ε β} {error : ε} :
    (step >>= next) = .error error ↔
      step = .error error ∨ ∃ x, step = .ok x ∧ next x = .error error := by
  cases step with
  | error e => simp [bind, Except.bind]
  | ok x => simp [bind, Except.bind]

/-- A list is worked through up to the first item that fails, and the failure of that item is the failure
of the whole. -/
theorem mapM_eq_error_iff {f : α → Except ε β} {as : List α} {error : ε} :
    as.mapM f = .error error ↔ ∃ before a after, as = before ++ a :: after ∧
      (∀ b ∈ before, ∃ value, f b = .ok value) ∧ f a = .error error := by
  induction as with
  | nil => simp [pure, Except.pure]
  | cons a as ih =>
    rw [List.mapM_cons, bind_eq_error_iff]
    constructor
    · rintro (first | ⟨value, first, rest⟩)
      · exact ⟨[], a, as, rfl, by simp, first⟩
      · have later : as.mapM f = .error error := by
          rcases bind_eq_error_iff.mp rest with later | ⟨_, _, none⟩
          · exact later
          · cases none
        obtain ⟨before, b, after, rfl, earlier, fault⟩ := ih.mp later
        exact ⟨a :: before, b, after, rfl,
          List.forall_mem_cons.mpr ⟨⟨value, first⟩, earlier⟩, fault⟩
    · rintro ⟨_ | ⟨b, before⟩, c, after, split, earlier, fault⟩
      · cases split
        exact .inl fault
      · cases split
        obtain ⟨⟨value, first⟩, rest⟩ := List.forall_mem_cons.mp earlier
        have later := ih.mpr ⟨before, c, after, rfl, rest, fault⟩
        exact .inr ⟨value, first, bind_eq_error_iff.mpr (.inl later)⟩

/-- Of two places in a list one comes first, or they are the same. -/
theorem mem_or_eq_or_mem_of_split {before after before' after' : List α} {a b : α}
    (same : before ++ a :: after = before' ++ b :: after') : a ∈ before' ∨ a = b ∨ b ∈ before := by
  rcases List.append_eq_append_iff.mp same with ⟨between, rfl, rest⟩ | ⟨between, rfl, rest⟩
  · rcases between with _ | ⟨c, between⟩ <;> cases rest <;> simp
  · rcases between with _ | ⟨c, between⟩ <;> cases rest <;> simp

theorem forall₂_of_split {R : α → β → Prop} {before after : List α} {a : α} {bs : List β}
    (pairs : List.Forall₂ R (before ++ a :: after) bs) :
    ∃ before' b after', bs = before' ++ b :: after' ∧ List.Forall₂ R before before' ∧ R a b ∧
      List.Forall₂ R after after' := by
  induction before generalizing bs with
  | nil =>
    cases pairs with
    | cons here later => exact ⟨[], _, _, rfl, .nil, here, later⟩
  | cons c before ih =>
    cases pairs with
    | cons first rest =>
      obtain ⟨before', b, after', rfl, earlier, here, later⟩ := ih rest
      exact ⟨_ :: before', b, after', rfl, .cons first earlier, here, later⟩

end Results

/-- What holds of literals and names, and of an operation once it holds of its arguments, holds of
every formula. -/
theorem Expr.argumentInduction {motive : Expr → Prop} (number : ∀ x, motive (.number x))
    (var : ∀ name, motive (.var name))
    (operation : ∀ name args, (∀ a ∈ args, motive a) → motive (.operation name args)) (e : Expr) :
    motive e := by
  match e with
  | .number x => exact number x
  | .var name => exact var name
  | .operation name args =>
    exact operation name args fun a _ => Expr.argumentInduction number var operation a

end GraphCalc
