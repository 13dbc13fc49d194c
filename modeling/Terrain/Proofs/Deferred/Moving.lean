import Terrain.Deferred

/-!
# What threads do

Every move is a step of one thread: it changes the phase of the thread, and the value and the lock
that all share. `Step` lists the steps once, with what can be told of each (`Event`); what holds of
all runs is proved along it.

* `move?_step`: a move that is made is a step.
* `history`: what can be told of a run.
* `run_induction`: what holds at rest and is kept by every step holds after every run.
-/

namespace Terrain.Threads

variable {ρ ε α : Type}

/-! ## 1. Events -/

/-- What can be told of a run: a request began, a load was called and ended, its value was stored,
    the lock was given back, and a request returned. -/
inductive Event (ρ ε α : Type) where
  | began (thread : Nat) (ask : ρ → α)
  | called (thread : Nat) (call : Nat)
  | ended (thread : Nat) (call : Nat) (result : Except ε ρ)
  | stored (thread : Nat) (r : ρ)
  | released (thread : Nat)
  | returned (thread : Nat) (answer : Except ε α)

/-- The thread that an event is told of. -/
def Event.thread : Event ρ ε α → Nat
  | .began i _ | .called i _ | .ended i _ _ | .stored i _ | .released i | .returned i _ => i

/-- What can be told of a move that is made. -/
def event? (load : Nat → Except ε ρ) (s : Threads ρ ε α) : Move ρ α → Option (Event ρ ε α)
  | .request i ask => some (.began i ask)
  | .act i =>
    match s.phases[i]? with
    | some (.checking _) =>
      match s.shared.stored with
      | some _ => none
      | none => some (.called i s.shared.loads)
    | some (.loading _ n) => some (.ended i n (load n))
    | some (.storing _ r) => some (.stored i r)
    | some (.releasing _ _) => some (.released i)
    | some (.returning ask got) => some (.returned i (got.map ask))
    | _ => none

/-- What can be told of moves one after the other; those that cannot be made are passed over. -/
def history (load : Nat → Except ε ρ) : Threads ρ ε α → List (Move ρ α) → List (Event ρ ε α)
  | _, [] => []
  | s, m :: moves =>
    match s.move? load m with
    | none => history load s moves
    | some s' => (s.event? load m).toList ++ history load s' moves

/-! ## 2. Steps -/

/-- **A step of a thread**: the value, the lock and its phase before, what is told, and the value,
    the lock and its phase after. -/
inductive Step (load : Nat → Except ε ρ) (i : Nat) : Deferred ρ → Option Nat → Phase ρ ε α →
    Option (Event ρ ε α) → Deferred ρ → Option Nat → Phase ρ ε α → Prop
  | first {d : Deferred ρ} {h : Option Nat} (ask : ρ → α) :
      Step load i d h .idle (some (.began i ask)) d h (.looking ask)
  | again {d : Deferred ρ} {h : Option Nat} {a : Except ε α} (ask : ρ → α) :
      Step load i d h (.answered a) (some (.began i ask)) d h (.looking ask)
  | find {d : Deferred ρ} {h : Option Nat} {ask : ρ → α} {r : ρ} (hr : d.stored = some r) :
      Step load i d h (.looking ask) none d h (.returning ask (.ok r))
  | miss {d : Deferred ρ} {h : Option Nat} {ask : ρ → α} (hr : d.stored = none) :
      Step load i d h (.looking ask) none d h (.waiting ask)
  | take {d : Deferred ρ} {ask : ρ → α} :
      Step load i d none (.waiting ask) none d (some i) (.checking ask)
  | refind {d : Deferred ρ} {h : Option Nat} {ask : ρ → α} {r : ρ} (hr : d.stored = some r) :
      Step load i d h (.checking ask) none d h (.releasing ask (.ok r))
  | call {n : Nat} {h : Option Nat} {ask : ρ → α} :
      Step load i ⟨none, n⟩ h (.checking ask) (some (.called i n)) ⟨none, n + 1⟩ h
        (.loading ask n)
  | succeed {d : Deferred ρ} {h : Option Nat} {ask : ρ → α} {n : Nat} {r : ρ}
      (hr : load n = .ok r) :
      Step load i d h (.loading ask n) (some (.ended i n (.ok r))) d h (.storing ask r)
  | fail {d : Deferred ρ} {h : Option Nat} {ask : ρ → α} {n : Nat} {e : ε}
      (he : load n = .error e) :
      Step load i d h (.loading ask n) (some (.ended i n (.error e))) d h
        (.releasing ask (.error e))
  | store {d : Deferred ρ} {h : Option Nat} {ask : ρ → α} {r : ρ} :
      Step load i d h (.storing ask r) (some (.stored i r)) ⟨some r, d.loads⟩ h
        (.releasing ask (.ok r))
  | release {d : Deferred ρ} {h : Option Nat} {ask : ρ → α} {got : Except ε ρ} :
      Step load i d h (.releasing ask got) (some (.released i)) d none (.returning ask got)
  | finish {d : Deferred ρ} {h : Option Nat} {ask : ρ → α} {got : Except ε ρ} :
      Step load i d h (.returning ask got) (some (.returned i (got.map ask))) d h
        (.answered (got.map ask))

/-- The thread that a move is of. -/
def Move.thread : Move ρ α → Nat
  | .request i _ | .act i => i

variable {load : Nat → Except ε ρ} {s s' : Threads ρ ε α} {i : Nat}

/-- What is told of a step is told of its thread. -/
theorem Step.thread_eq {d d' : Deferred ρ} {h h' : Option Nat} {p p' : Phase ρ ε α}
    {told : Option (Event ρ ε α)} (hs : Step load i d h p told d' h' p') :
    ∀ e ∈ told, e.thread = i := by
  intro e he
  cases hs <;> cases he <;> rfl

/-- A thread takes a step, and all others stay where they are. -/
def Steps (load : Nat → Except ε ρ) (s : Threads ρ ε α) (i : Nat) (told : Option (Event ρ ε α))
    (s' : Threads ρ ε α) : Prop :=
  ∃ p p' d h, s.phases[i]? = some p ∧ Step load i s.shared s.holder p told d h p' ∧
    s' = ⟨d, h, s.phases.set i p'⟩

theorem request_steps {ask : ρ → α} (h : s.request i ask = some s') :
    Steps load s i (some (.began i ask)) s' := by
  unfold request at h
  split at h
  · rename_i hp
    cases h
    exact ⟨_, _, _, _, hp, .first ask, rfl⟩
  · rename_i hp
    cases h
    exact ⟨_, _, _, _, hp, .again ask, rfl⟩
  · cases h

theorem act_steps (h : s.act load i = some s') : Steps load s i (s.event? load (.act i)) s' := by
  obtain ⟨⟨stored, loads⟩, holder, phases⟩ := s
  unfold act at h
  unfold event?
  dsimp only at h ⊢
  cases hp : phases[i]? with
  | none =>
    rw [hp] at h
    cases h
  | some p =>
    rw [hp] at h
    cases p with
    | idle => cases h
    | answered a => cases h
    | looking ask =>
      cases stored with
      | some r =>
        cases h
        exact ⟨_, _, _, _, hp, .find rfl, rfl⟩
      | none =>
        cases h
        exact ⟨_, _, _, _, hp, .miss rfl, rfl⟩
    | waiting ask =>
      cases holder with
      | some j => cases h
      | none =>
        cases h
        exact ⟨_, _, _, _, hp, .take, rfl⟩
    | checking ask =>
      cases stored with
      | some r =>
        cases h
        exact ⟨_, _, _, _, hp, .refind rfl, rfl⟩
      | none =>
        cases h
        exact ⟨_, _, _, _, hp, .call, rfl⟩
    | loading ask n =>
      dsimp only at h ⊢
      cases hload : load n with
      | ok r =>
        rw [hload] at h
        cases h
        exact ⟨_, _, _, _, hp, .succeed hload, rfl⟩
      | error e =>
        rw [hload] at h
        cases h
        exact ⟨_, _, _, _, hp, .fail hload, rfl⟩
    | storing ask r =>
      cases h
      exact ⟨_, _, _, _, hp, .store, rfl⟩
    | releasing ask got =>
      cases h
      exact ⟨_, _, _, _, hp, .release, rfl⟩
    | returning ask got =>
      cases h
      exact ⟨_, _, _, _, hp, .finish, rfl⟩

/-- **A move that is made is a step of its thread.** -/
theorem move?_steps {m : Move ρ α} (h : s.move? load m = some s') :
    Steps load s m.thread (s.event? load m) s' := by
  cases m with
  | request i ask => exact request_steps h
  | act i => exact act_steps h

/-- A thread that begins a request makes the step. -/
theorem request_of_step {d d' : Deferred ρ} {h h' : Option Nat} {phases : List (Phase ρ ε α)}
    {p p' : Phase ρ ε α} {ask : ρ → α} (hp : phases[i]? = some p)
    (hs : Step load i d h p (some (.began i ask)) d' h' p') :
    request ⟨d, h, phases⟩ i ask = some ⟨d', h', phases.set i p'⟩ := by
  cases hs with
  | first | again => simp only [request, hp, enter]

/-- A thread at a request makes the step that it can take. -/
theorem act_of_step {d d' : Deferred ρ} {h h' : Option Nat} {phases : List (Phase ρ ε α)}
    {p p' : Phase ρ ε α} {told : Option (Event ρ ε α)} (hp : phases[i]? = some p)
    (hs : Step load i d h p told d' h' p') (ht : ∀ ask, told ≠ some (.began i ask)) :
    act load ⟨d, h, phases⟩ i = some ⟨d', h', phases.set i p'⟩ := by
  cases hs with
  | first ask | again ask => exact absurd rfl (ht ask)
  | _ => simp only [act, enter, *]

/-! ## 3. Runs -/

/-- A move that is made comes first. -/
theorem run_cons {m : Move ρ α} (hm : s.move? load m = some s') (moves : List (Move ρ α)) :
    s.run load (m :: moves) = s'.run load moves := by
  unfold run
  rw [List.foldl_cons, hm, Option.getD_some]

/-- A move that cannot be made is passed over. -/
theorem run_cons_none {m : Move ρ α} (hm : s.move? load m = none) (moves : List (Move ρ α)) :
    s.run load (m :: moves) = s.run load moves := by
  unfold run
  rw [List.foldl_cons, hm, Option.getD_none]

/-- **What holds at the start and is kept by every step holds after every run**, with what is told
    of the run. -/
theorem run_induction {P : List (Event ρ ε α) → Threads ρ ε α → Prop}
    (hstep : ∀ es s i told s', P es s → Steps load s i told s' → P (es ++ told.toList) s') :
    ∀ (moves : List (Move ρ α)) {es : List (Event ρ ε α)} {s : Threads ρ ε α}, P es s →
      P (es ++ history load s moves) (s.run load moves)
  | [], es, s, h => by
    rw [history, List.append_nil]
    exact h
  | m :: moves, es, s, h => by
    unfold history
    cases hm : s.move? load m with
    | none =>
      rw [run_cons_none hm]
      exact run_induction hstep moves h
    | some s' =>
      dsimp only
      rw [run_cons hm, ← List.append_assoc]
      exact run_induction hstep moves (hstep _ _ _ _ _ h (move?_steps hm))

/-- A thread that takes a step is in its new phase, and the others are in their old ones. -/
theorem forall_set {P : Nat → Phase ρ ε α → Prop} {phases : List (Phase ρ ε α)}
    {p p' : Phase ρ ε α} (hp : phases[i]? = some p) (hnew : P i p')
    (hold : ∀ j q, j ≠ i → phases[j]? = some q → P j q) :
    ∀ j q, (phases.set i p')[j]? = some q → P j q := by
  intro j q hq
  by_cases hj : j = i
  · subst hj
    have hlt := (List.getElem?_eq_some_iff.1 hp).1
    rw [List.getElem?_set_self hlt] at hq
    cases hq
    exact hnew
  · rw [List.getElem?_set_ne (Ne.symm hj)] at hq
    exact hold j q hj hq

end Terrain.Threads
