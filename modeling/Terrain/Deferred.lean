/-!
# Values loaded on first use

A value that is costly to load is loaded by the first who asks for it and kept for all who ask
later, on any thread.

* `Deferred.get` is one request that runs undisturbed.
* `Threads` is any number of threads whose requests interleave. A request looks at the value
  without the lock; if there is none it takes the lock, looks again, and only then loads. What it
  loaded it stores before it gives the lock back; a load that fails stores nothing.
* A request may be for something found in the value: it gets the value first, like any other.
* `Threads.move?` is one move: a thread begins a request, or takes the next action of the one it
  is at. A thread that waits for a lock that is held cannot act. Which thread moves next is free.
-/

namespace Terrain

variable {ρ ε α : Type}

/-! ## 1. Undisturbed requests -/

/-- A value that is kept once it is loaded, and the number of loads begun. -/
structure Deferred (ρ : Type) where
  stored : Option ρ
  loads : Nat

namespace Deferred

/-- Not loaded yet. -/
def fresh : Deferred ρ := ⟨none, 0⟩

/-- Whether the value is loaded. -/
def isLoaded (d : Deferred ρ) : Bool := d.stored.isSome

/-- One request; `load n` is what the load after `n` others gives. -/
def get (load : Nat → Except ε ρ) (d : Deferred ρ) : Except ε ρ × Deferred ρ :=
  match d.stored with
  | some r => (.ok r, d)
  | none =>
    match load d.loads with
    | .ok r => (.ok r, ⟨some r, d.loads + 1⟩)
    | .error e => (.error e, ⟨none, d.loads + 1⟩)

/-- A value that is loaded is given to all, and not loaded again. -/
@[simp] theorem get_of_stored (load : Nat → Except ε ρ) (r : ρ) (n : Nat) :
    get load ⟨some r, n⟩ = (.ok r, ⟨some r, n⟩) := rfl

end Deferred

/-! ## 2. Interleaved requests -/

/-- Where a thread stands with its request, which is for `ask` of the value. -/
inductive Phase (ρ ε α : Type) where
  | idle
  | looking (ask : ρ → α)
  | waiting (ask : ρ → α)
  | checking (ask : ρ → α)
  | loading (ask : ρ → α) (call : Nat)
  | storing (ask : ρ → α) (r : ρ)
  | releasing (ask : ρ → α) (got : Except ε ρ)
  | returning (ask : ρ → α) (got : Except ε ρ)
  | answered (answer : Except ε α)

/-- The phases of threads, the value they share, and the thread that holds the lock. -/
structure Threads (ρ ε α : Type) where
  shared : Deferred ρ
  holder : Option Nat
  phases : List (Phase ρ ε α)

namespace Threads

/-- The threads with one of them in another phase. -/
def enter (s : Threads ρ ε α) (i : Nat) (p : Phase ρ ε α) : Threads ρ ε α :=
  { s with phases := s.phases.set i p }

/-- A thread that is at no request begins one. -/
def request (s : Threads ρ ε α) (i : Nat) (ask : ρ → α) : Option (Threads ρ ε α) :=
  match s.phases[i]? with
  | some .idle | some (.answered _) => some (s.enter i (.looking ask))
  | _ => none

/-- One action of a thread, if it can act; `load n` is what the load after `n` others gives. -/
def act (load : Nat → Except ε ρ) (s : Threads ρ ε α) (i : Nat) : Option (Threads ρ ε α) :=
  match s.phases[i]? with
  | none | some .idle | some (.answered _) => none
  | some (.looking ask) =>
    match s.shared.stored with
    | some r => some (s.enter i (.returning ask (.ok r)))
    | none => some (s.enter i (.waiting ask))
  | some (.waiting ask) =>
    match s.holder with
    | some _ => none
    | none => some { s.enter i (.checking ask) with holder := some i }
  | some (.checking ask) =>
    match s.shared.stored with
    | some r => some (s.enter i (.releasing ask (.ok r)))
    | none =>
      some { s.enter i (.loading ask s.shared.loads) with
        shared := { s.shared with loads := s.shared.loads + 1 } }
  | some (.loading ask n) =>
    match load n with
    | .ok r => some (s.enter i (.storing ask r))
    | .error e => some (s.enter i (.releasing ask (.error e)))
  | some (.storing ask r) =>
    some { s.enter i (.releasing ask (.ok r)) with shared := { s.shared with stored := some r } }
  | some (.releasing ask got) => some { s.enter i (.returning ask got) with holder := none }
  | some (.returning ask got) => some (s.enter i (.answered (got.map ask)))

/-- A move: a thread begins a request, or acts. -/
inductive Move (ρ α : Type) where
  | request (thread : Nat) (ask : ρ → α)
  | act (thread : Nat)

/-- One move, if it can be made. -/
def move? (load : Nat → Except ε ρ) (s : Threads ρ ε α) : Move ρ α → Option (Threads ρ ε α)
  | .request i ask => s.request i ask
  | .act i => s.act load i

/-- Moves one after the other; those that cannot be made are passed over. -/
def run (load : Nat → Except ε ρ) (s : Threads ρ ε α) (moves : List (Move ρ α)) :
    Threads ρ ε α :=
  moves.foldl (fun s m => (s.move? load m).getD s) s

/-- Threads at no request. -/
def resting (shared : Deferred ρ) (count : Nat) : Threads ρ ε α :=
  ⟨shared, none, List.replicate count .idle⟩

/-- All threads begin a request for the value, and then act in turn, often enough for all to end: a
    request that loads takes seven actions, and the others may have to wait for it. -/
def inTurn (count : Nat) : List (Move ρ ρ) :=
  (List.range count).map (.request · id) ++
    (List.replicate (8 * count + 8) ((List.range count).map .act)).flatten

/-- The answers the threads have got. -/
def answers (s : Threads ρ ε α) : List (Except ε α) :=
  s.phases.filterMap fun p =>
    match p with
    | .answered a => some a
    | _ => none

end Threads
end Terrain
