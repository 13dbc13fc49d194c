import Terrain.Proofs.Deferred.Moving

/-!
# The value is loaded once

However the requests of any number of threads interleave, and whichever loads fail, the value is
loaded once. What carries this is an invariant of the phases, the lock, the value and what was told.

* `Locked`: exactly the thread inside the lock holds it, so there is one at most.
* `Unset`: while a load is on its way or has failed inside the lock, no value is stored.
* `Counted`, `Told`, `InSession`: the loads, the value and the requests by what was told of them.
* `run_undisturbed`: a request that nobody disturbs is answered as `Deferred.get` says.
* `run_loadsOnce`: what follows for every run (`LoadsOnce`).
-/

namespace Terrain

variable {ρ ε α : Type}

/-! ## 1. Phases and events -/

namespace Phase

/-- Whether a thread is between taking the lock and giving it back. -/
def inside : Phase ρ ε α → Bool
  | .checking _ | .loading _ _ | .storing _ _ | .releasing _ _ => true
  | _ => false

/-- Whether a thread is at no request. -/
def atRest : Phase ρ ε α → Bool
  | .idle | .answered _ => true
  | _ => false

/-- What a request is for. -/
def ask? : Phase ρ ε α → Option (ρ → α)
  | .looking ask | .waiting ask | .checking ask | .loading ask _ | .storing ask _
  | .releasing ask _ | .returning ask _ => some ask
  | .idle | .answered _ => none

/-- The load a request is at. -/
def call? : Phase ρ ε α → Option Nat
  | .loading _ n => some n
  | _ => none

/-- What a request has got, its own load included. -/
def got? : Phase ρ ε α → Option (Except ε ρ)
  | .storing _ r => some (.ok r)
  | .releasing _ got | .returning _ got => some got
  | _ => none

/-- Whether a load was called for a request that neither stored its value nor failed yet. -/
def owes : Phase ρ ε α → Bool
  | .loading _ _ | .storing _ _ | .releasing _ (.error _) | .returning _ (.error _) => true
  | _ => false

end Phase

namespace Threads

/-- Whether a load was called. -/
def Event.isCall : Event ρ ε α → Bool
  | .called _ _ => true
  | _ => false

/-- Whether a load succeeded. -/
def Event.isSuccess : Event ρ ε α → Bool
  | .ended _ _ (.ok _) => true
  | _ => false

/-- Whether a request failed. -/
def Event.isFailure : Event ρ ε α → Bool
  | .returned _ (.error _) => true
  | _ => false

variable {load : Nat → Except ε ρ} {s s' : Threads ρ ε α} {i : Nat}
variable {told : Option (Event ρ ε α)} {es : List (Event ρ ε α)}

/-! ## 2. The lock -/

/-- A thread is inside the lock exactly if it holds it. -/
def Locked (s : Threads ρ ε α) : Prop :=
  ∀ (i : Nat) (p : Phase ρ ε α), s.phases[i]? = some p → (p.inside = true ↔ s.holder = some i)

theorem Locked.steps (hl : Locked s) (h : Steps load s i told s') : Locked s' := by
  obtain ⟨shared, holder, phases⟩ := s
  obtain ⟨p, p', d, holder', hp, hs, rfl⟩ := h
  have hi : p.inside = true ↔ holder = some i := hl i p hp
  refine forall_set (P := fun j q => q.inside = true ↔ holder' = some j) hp ?_ ?_
  · cases hs with
    | take => exact ⟨fun _ => rfl, fun _ => rfl⟩
    | release => exact ⟨nofun, nofun⟩
    | _ => exact hi
  · intro j q hj hq
    have hqi : q.inside = true ↔ holder = some j := hl j q hq
    cases hs with
    | take =>
      -- nobody held the lock, and now another thread does
      refine hqi.trans ⟨nofun, fun h => ?_⟩
      exact absurd (Option.some.inj h).symm hj
    | release =>
      refine hqi.trans ⟨fun h => ?_, nofun⟩
      rw [hi.1 rfl] at h
      exact absurd (Option.some.inj h).symm hj
    | _ => exact hqi

/-- **At most one thread is inside the lock.** -/
theorem Locked.alone (hl : Locked s) {j : Nat} {p q : Phase ρ ε α} (hp : s.phases[i]? = some p)
    (hq : s.phases[j]? = some q) (hpi : p.inside = true) (hqi : q.inside = true) : i = j := by
  have hi := (hl i p hp).1 hpi
  rw [(hl j q hq).1 hqi] at hi
  exact (Option.some.inj hi).symm

/-! ## 3. The value -/

/-- While a load is on its way or has failed inside the lock, no value is stored. -/
def Unset (s : Threads ρ ε α) : Prop :=
  ∀ (i : Nat) (p : Phase ρ ε α), s.phases[i]? = some p → p.inside = true → p.owes = true →
    s.shared.stored = none

theorem Unset.steps (hu : Unset s) (hl : Locked s) (h : Steps load s i told s') : Unset s' := by
  obtain ⟨⟨stored, loads⟩, holder, phases⟩ := s
  obtain ⟨p, p', d, holder', hp, hs, rfl⟩ := h
  have hi : p.inside = true → p.owes = true → stored = none := hu i p hp
  refine forall_set (P := fun j q => q.inside = true → q.owes = true → d.stored = none) hp ?_ ?_
  · cases hs with
    | call => exact fun _ _ => rfl
    | succeed | fail => exact fun _ _ => hi rfl rfl
    | store => exact fun _ => nofun
    | refind => exact fun _ => nofun
    | _ => exact nofun
  · intro j q hj hq hqi hqo
    have hnone : stored = none := hu j q hq hqi hqo
    cases hs with
    | store => exact absurd (hl.alone hq hp hqi rfl) hj
    | _ => exact hnone

/-! ## 4. Counting -/

/-- The loads are those that were called. Each of them ended in a request that failed or in the
    stored value, or it is owed. -/
structure Counted (es : List (Event ρ ε α)) (s : Threads ρ ε α) : Prop where
  calls : s.shared.loads = es.countP Event.isCall
  loads : s.shared.loads = es.countP Event.isFailure + s.phases.countP Phase.owes +
    s.shared.stored.toList.length

theorem Counted.steps (hc : Counted es s) (hu : Unset s) (h : Steps load s i told s') :
    Counted (es ++ told.toList) s' := by
  obtain ⟨⟨stored, loads⟩, holder, phases⟩ := s
  obtain ⟨p, p', d, holder', hp, hs, rfl⟩ := h
  obtain ⟨hcalls, hloads⟩ := hc
  dsimp only at hcalls hloads hp
  -- one phase changes, so the debts change by those of the thread
  have hset : (phases.set i p').countP Phase.owes + (if p.owes then 1 else 0) =
      phases.countP Phase.owes + (if p'.owes then 1 else 0) := by
    obtain ⟨hlt, hget⟩ := List.getElem?_eq_some_iff.1 hp
    have hpos : p.owes = true → 0 < phases.countP Phase.owes := fun ho =>
      List.countP_pos_iff.2 ⟨p, List.mem_of_getElem? hp, ho⟩
    rw [List.countP_set hlt, hget]
    split
    · rename_i ho
      have := hpos ho
      omega
    · omega
  have hnone : p.inside = true → p.owes = true → stored = none := hu i p hp
  refine ⟨?_, ?_⟩
  · rw [List.countP_append, ← hcalls]
    cases hs <;> rfl
  · rw [List.countP_append]
    cases hs with
    | store =>
      obtain rfl : stored = none := hnone rfl rfl
      simp [Event.isFailure, Phase.owes] at hset hloads ⊢
      omega
    | @release _ _ _ got | @finish _ _ _ got =>
      -- the debt is settled when the error is returned
      cases got <;> simp [Event.isFailure, Phase.owes, Except.map] at hset hloads ⊢ <;> omega
    | _ =>
      simp [Event.isFailure, Phase.owes] at hset hloads ⊢
      omega

/-! ## 5. The value by what was told -/

/-- A load gave the value. -/
def Given (es : List (Event ρ ε α)) (r : ρ) : Prop := ∃ j n, .ended j n (.ok r) ∈ es

theorem Given.append {r : ρ} (h : Given es r) (more : List (Event ρ ε α)) :
    Given (es ++ more) r := by
  obtain ⟨j, n, hr⟩ := h
  exact ⟨j, n, List.mem_append_left _ hr⟩

/-- A thread whose load succeeded is about to store the value. -/
theorem Step.storing_of_isSuccess {d d' : Deferred ρ} {h h' : Option Nat} {p p' : Phase ρ ε α}
    {e : Event ρ ε α} (hs : Step load i d h p (some e) d' h' p') (he : e.isSuccess = true) :
    ∃ ask r, p' = .storing ask r := by
  cases hs with
  | succeed => exact ⟨_, _, rfl⟩
  | _ => exact nomatch he

/-- What is stored was told to be, and like what a request has got it is given by a load. What a
    load gave is stored, or a thread is about to store it. -/
structure Told (es : List (Event ρ ε α)) (s : Threads ρ ε α) : Prop where
  stored : ∀ r, s.shared.stored = some r ↔ ∃ j, .stored j r ∈ es
  given : ∀ r, s.shared.stored = some r → Given es r
  got : ∀ (i : Nat) (p : Phase ρ ε α), s.phases[i]? = some p → ∀ r, p.got? = some (.ok r) →
    Given es r
  kept : ∀ e ∈ es, e.isSuccess = true → s.shared.stored ≠ none ∨
    ∃ (j : Nat) (ask : ρ → α) (r : ρ), s.phases[j]? = some (.storing ask r)

theorem Told.stored_steps (ht : Told es s) (hu : Unset s) (h : Steps load s i told s') (r : ρ) :
    s'.shared.stored = some r ↔ ∃ j, .stored j r ∈ es ++ told.toList := by
  obtain ⟨⟨stored, loads⟩, holder, phases⟩ := s
  obtain ⟨p, p', d, holder', hp, hs, rfl⟩ := h
  have hi : p.inside = true → p.owes = true → stored = none := hu i p hp
  have hstored : stored = some r ↔ ∃ j, .stored j r ∈ es := ht.stored r
  cases hs with
  | store =>
    obtain rfl : stored = none := hi rfl rfl
    have hnew : ∀ j, .stored j r ∉ es := fun j hj => nomatch hstored.2 ⟨j, hj⟩
    simp [hnew, eq_comm]
  | _ => simp [← hstored]

theorem Told.given_steps (ht : Told es s) (h : Steps load s i told s') (r : ρ)
    (hr : s'.shared.stored = some r) : Given (es ++ told.toList) r := by
  obtain ⟨shared, holder, phases⟩ := s
  obtain ⟨p, p', d, holder', hp, hs, rfl⟩ := h
  cases hs with
  | store =>
    cases hr
    exact (ht.got i _ hp _ rfl).append _
  | _ => exact (ht.given r hr).append _

theorem Told.got_steps (ht : Told es s) (h : Steps load s i told s') (j : Nat) (q : Phase ρ ε α)
    (hq : s'.phases[j]? = some q) : ∀ r, q.got? = some (.ok r) → Given (es ++ told.toList) r := by
  obtain ⟨shared, holder, phases⟩ := s
  obtain ⟨p, p', d, holder', hp, hs, rfl⟩ := h
  refine forall_set (P := fun _ q => ∀ r, q.got? = some (.ok r) → Given (es ++ told.toList) r)
    hp ?_ ?_ j q hq
  · intro r hr
    cases hs with
    | find hd | refind hd =>
      cases hr
      exact (ht.given _ hd).append _
    | @succeed _ _ _ n _ =>
      cases hr
      exact ⟨i, n, List.mem_append_right _ (List.mem_singleton_self _)⟩
    | store | release => exact (ht.got i _ hp _ hr).append _
    | _ => exact nomatch hr
  · intro k q' _ hq' r hr
    exact (ht.got k q' hq' r hr).append _

theorem Told.kept_steps (ht : Told es s) (h : Steps load s i told s') :
    ∀ e ∈ es ++ told.toList, e.isSuccess = true → s'.shared.stored ≠ none ∨
      ∃ (j : Nat) (ask : ρ → α) (r : ρ), s'.phases[j]? = some (.storing ask r) := by
  obtain ⟨shared, holder, phases⟩ := s
  obtain ⟨p, p', d, holder', hp, hs, rfl⟩ := h
  intro e he hsuccess
  rcases List.mem_append.1 he with he | he
  · rcases ht.kept e he hsuccess with hsome | ⟨j, ask, r, hj⟩
    · left
      cases hs with
      | store => exact nofun
      | _ => exact hsome
    · by_cases hji : j = i
      · -- the thread that was about to store the value has stored it
        subst hji
        obtain rfl := Option.some.inj (hp.symm.trans hj)
        cases hs
        exact .inl nofun
      · exact .inr ⟨j, ask, r, (List.getElem?_set_ne (Ne.symm hji)).trans hj⟩
  · rw [Option.mem_toList.1 he] at hs
    obtain ⟨ask, r, rfl⟩ := hs.storing_of_isSuccess hsuccess
    exact .inr ⟨i, ask, r, List.getElem?_set_self (List.getElem?_eq_some_iff.1 hp).1⟩

theorem Told.steps (ht : Told es s) (hu : Unset s) (h : Steps load s i told s') :
    Told (es ++ told.toList) s' where
  stored := ht.stored_steps hu h
  given := ht.given_steps h
  got := ht.got_steps h
  kept := ht.kept_steps h

/-- No load succeeded before a thread, inside the lock, finds no value or loads it. -/
theorem Told.not_isSuccess (ht : Told es s) (hl : Locked s) {p : Phase ρ ε α}
    (hp : s.phases[i]? = some p) (hinside : p.inside = true) (hload : ∀ ask r, p ≠ .storing ask r)
    (hnone : s.shared.stored = none) : ∀ e ∈ es, e.isSuccess = false := by
  intro e he
  refine Bool.eq_false_iff.2 fun hsuccess => ?_
  rcases ht.kept e he hsuccess with hsome | ⟨j, ask, r, hj⟩
  · exact hsome hnone
  · have hij : i = j := hl.alone hp hj hinside rfl
    subst hij
    exact hload ask r (Option.some.inj (hp.symm.trans hj))

/-- After a load succeeded, none is called and none succeeds. -/
def Last (es : List (Event ρ ε α)) : Prop :=
  es.Pairwise fun e e' => e.isSuccess = true → e'.isCall = false ∧ e'.isSuccess = false

theorem Last.steps (ho : Last es) (ht : Told es s) (hl : Locked s) (hu : Unset s)
    (h : Steps load s i told s') : Last (es ++ told.toList) := by
  obtain ⟨⟨stored, loads⟩, holder, phases⟩ := s
  obtain ⟨p, p', d, holder', hp, hs, rfl⟩ := h
  refine List.pairwise_append.2 ⟨ho, ?_, ?_⟩
  · cases told with
    | none => exact List.Pairwise.nil
    | some e => exact List.pairwise_singleton _ _
  · intro e he e' he' hsuccess
    rw [Option.mem_toList.1 he'] at hs
    cases hs with
    | call =>
      have hno := ht.not_isSuccess hl hp rfl nofun rfl e he
      exact absurd hsuccess (by rw [hno]; exact nofun)
    | succeed =>
      have hno := ht.not_isSuccess hl hp rfl nofun (hu i _ hp rfl rfl) e he
      exact absurd hsuccess (by rw [hno]; exact nofun)
    | _ => exact ⟨rfl, rfl⟩

/-! ## 6. The requests by what was told -/

/-- The last request that a thread began is for `ask`, and `during` was told since. -/
structure Since (es : List (Event ρ ε α)) (i : Nat) (ask : ρ → α) (during : List (Event ρ ε α)) :
    Prop where
  began : ∃ earlier, es = earlier ++ .began i ask :: during
  last : ∀ ask', .began i ask' ∉ during

theorem Since.append {ask : ρ → α} {during : List (Event ρ ε α)} (h : Since es i ask during)
    (ht : ∀ ask', told ≠ some (.began i ask')) :
    Since (es ++ told.toList) i ask (during ++ told.toList) := by
  obtain ⟨⟨earlier, rfl⟩, hlast⟩ := h
  refine ⟨⟨earlier, by simp⟩, ?_⟩
  intro ask' hmem
  rcases List.mem_append.1 hmem with hmem | hmem
  · exact hlast ask' hmem
  · exact ht ask' (Option.mem_toList.1 hmem)

/-- A request failed since by its own load. -/
def FailedSince (i : Nat) (during : List (Event ρ ε α)) (e : ε) : Prop :=
  ∃ n, .called i n ∈ during ∧ .ended i n (.error e) ∈ during

/-- What was told since a thread in phase `p` began its request for `ask`. -/
structure Underway (es : List (Event ρ ε α)) (i : Nat) (p : Phase ρ ε α) (ask : ρ → α)
    (during : List (Event ρ ε α)) : Prop where
  since : Since es i ask during
  called : ∀ n, p.call? = some n → .called i n ∈ during
  failed : ∀ e, p.got? = some (.error e) → FailedSince i during e

theorem Underway.append {p : Phase ρ ε α} {ask : ρ → α} {during : List (Event ρ ε α)}
    (h : Underway es i p ask during) (ht : ∀ ask', told ≠ some (.began i ask')) :
    Underway (es ++ told.toList) i p ask (during ++ told.toList) := by
  refine ⟨h.since.append ht, ?_, ?_⟩
  · intro n hn
    exact List.mem_append_left _ (h.called n hn)
  · intro e he
    obtain ⟨n, hcalled, hended⟩ := h.failed e he
    exact ⟨n, List.mem_append_left _ hcalled, List.mem_append_left _ hended⟩

/-- Every thread at a request is at the last that it began. -/
def InSession (es : List (Event ρ ε α)) (s : Threads ρ ε α) : Prop :=
  ∀ (i : Nat) (p : Phase ρ ε α), s.phases[i]? = some p → ∀ ask, p.ask? = some ask →
    ∃ during, Underway es i p ask during

theorem InSession.steps (hin : InSession es s) (h : Steps load s i told s') :
    InSession (es ++ told.toList) s' := by
  obtain ⟨shared, holder, phases⟩ := s
  obtain ⟨p, p', d, holder', hp, hs, rfl⟩ := h
  refine forall_set (P := fun j q => ∀ ask, q.ask? = some ask →
    ∃ during, Underway (es ++ told.toList) j q ask during) hp ?_ ?_
  · intro ask hask
    cases hs with
    | first | again =>
      cases hask
      exact ⟨[], ⟨⟨es, rfl⟩, nofun⟩, nofun, nofun⟩
    | finish => exact nomatch hask
    | @call n =>
      obtain ⟨during, hunder⟩ := hin i _ hp ask hask
      refine ⟨_, hunder.since.append nofun, ?_, nofun⟩
      intro n' hn'
      cases hn'
      exact List.mem_append_right _ (List.mem_singleton_self _)
    | @fail _ _ _ n e =>
      obtain ⟨during, hunder⟩ := hin i _ hp ask hask
      refine ⟨_, hunder.since.append nofun, nofun, ?_⟩
      intro e' he'
      cases he'
      have hcalled := hunder.called n rfl
      exact ⟨n, List.mem_append_left _ hcalled, List.mem_append_right _ (List.mem_singleton_self _)⟩
    | release =>
      obtain ⟨during, hunder⟩ := hin i _ hp ask hask
      have hafter : Underway (es ++ (some (.released i)).toList) i _ ask _ := hunder.append nofun
      exact ⟨_, hafter.since, nofun, hafter.failed⟩
    | _ =>
      obtain ⟨during, hunder⟩ := hin i _ hp ask hask
      exact ⟨_, hunder.since.append nofun, nofun, nofun⟩
  · intro j q hj hq ask hask
    obtain ⟨during, hunder⟩ := hin j q hq ask hask
    refine ⟨during ++ told.toList, hunder.append ?_⟩
    intro ask' htold
    exact hj (hs.thread_eq _ htold)

/-- A request that returns a value got it from a load, and one that fails does so by its own. -/
def Answered (before : List (Event ρ ε α)) (i : Nat) (answer : Except ε α) : Prop :=
  ∃ ask during, Since before i ask during ∧
    (∀ x, answer = .ok x → ∃ r, Given before r ∧ x = ask r) ∧
    ∀ e, answer = .error e → FailedSince i during e

/-- Every request that returned was answered so by what was told before. -/
def Returned (es : List (Event ρ ε α)) : Prop :=
  ∀ before i answer after, es = before ++ .returned i answer :: after → Answered before i answer

theorem Steps.thread_eq {e : Event ρ ε α} (h : Steps load s i (some e) s') : e.thread = i := by
  obtain ⟨p, p', d, holder', hp, hs, rfl⟩ := h
  exact hs.thread_eq e rfl

theorem answered_of_steps {answer : Except ε α} (ht : Told es s) (hin : InSession es s)
    (h : Steps load s i (some (.returned i answer)) s') : Answered es i answer := by
  obtain ⟨shared, holder, phases⟩ := s
  obtain ⟨p, p', d, holder', hp, hs, rfl⟩ := h
  cases hs with
  | @finish _ _ ask got =>
    obtain ⟨during, hunder⟩ := hin i _ hp ask rfl
    refine ⟨ask, during, hunder.since, ?_, ?_⟩
    · intro x hx
      cases got with
      | error e => cases hx
      | ok r =>
        cases hx
        exact ⟨r, ht.got i _ hp r rfl, rfl⟩
    · intro e he
      cases got with
      | ok r => cases he
      | error e' =>
        cases he
        exact hunder.failed e rfl

theorem Returned.steps (hr : Returned es) (ht : Told es s) (hin : InSession es s)
    (h : Steps load s i told s') : Returned (es ++ told.toList) := by
  intro before j answer after hsplit
  cases told with
  | none =>
    rw [Option.toList_none, List.append_nil] at hsplit
    exact hr before j answer after hsplit
  | some e =>
    rw [Option.toList_some] at hsplit
    rcases List.eq_nil_or_concat after with rfl | ⟨after, x, rfl⟩
    · obtain ⟨rfl, htold⟩ := List.append_inj' hsplit rfl
      obtain rfl := List.head_eq_of_cons_eq htold
      obtain rfl : j = i := h.thread_eq
      exact answered_of_steps ht hin h
    · rw [List.concat_eq_append, ← List.cons_append, ← List.append_assoc] at hsplit
      exact hr before j answer after (List.append_inj' hsplit rfl).1

/-! ## 7. Requests that nobody disturbs -/

section Undisturbed

variable {d d' : Deferred ρ} {holder holder' : Option Nat} {phases : List (Phase ρ ε α)}
variable {p p' : Phase ρ ε α}

/-- A thread at no request begins one. -/
theorem run_request (ask : ρ → α) (hi : phases[i]? = some p) (hrest : p.atRest = true)
    (moves : List (Move ρ α)) : run load ⟨d, holder, phases⟩ (.request i ask :: moves) =
      run load ⟨d, holder, phases.set i (.looking ask)⟩ moves := by
  have hs : Step load i d holder p (some (.began i ask)) d holder (.looking ask) := by
    cases p with
    | idle => exact .first ask
    | answered a => exact .again ask
    | _ => exact nomatch hrest
  exact run_cons (m := .request i ask) (request_of_step hi hs) moves

/-- A thread at a request acts. -/
theorem run_act (hlt : i < phases.length) (hs : Step load i d holder p told d' holder' p')
    (ht : ∀ ask, told ≠ some (.began i ask)) (moves : List (Move ρ α)) :
    run load ⟨d, holder, phases.set i p⟩ (.act i :: moves) =
      run load ⟨d', holder', phases.set i p'⟩ moves := by
  have hp : (phases.set i p)[i]? = some p := List.getElem?_set_self hlt
  rw [run_cons (m := .act i) (act_of_step hp hs ht), List.set_set]

/-- A thread that waits for a lock that is free loads a value that is not stored. -/
theorem loads_of_waiting {ask : ρ → α} (hi : s.phases[i]? = some (.waiting ask))
    (hfree : s.holder = none) (hnone : s.shared.stored = none) :
    (s.run load [.act i, .act i]).phases[i]? = some (.loading ask s.shared.loads) := by
  obtain ⟨⟨stored, loads⟩, holder, phases⟩ := s
  dsimp only at hi hfree hnone
  subst hfree hnone
  obtain ⟨hlt, hget⟩ := List.getElem?_eq_some_iff.1 hi
  have hset : phases.set i (.waiting ask) = phases := by rw [← hget, List.set_getElem_self]
  rw [← hset, run_act hlt .take nofun, run_act hlt .call nofun]
  exact List.getElem?_set_self hlt

/-- A thread at no request that begins one loads a value that is not stored, if the lock is free. -/
theorem loads_of_atRest (ask : ρ → α) (hi : s.phases[i]? = some p) (hrest : p.atRest = true)
    (hfree : s.holder = none) (hnone : s.shared.stored = none) :
    (s.run load [.request i ask, .act i, .act i, .act i]).phases[i]? =
      some (.loading ask s.shared.loads) := by
  obtain ⟨⟨stored, loads⟩, holder, phases⟩ := s
  dsimp only at hi hfree hnone
  subst hfree hnone
  have hlt : i < phases.length := (List.getElem?_eq_some_iff.1 hi).1
  rw [run_request ask hi hrest, run_act hlt (.miss rfl) nofun]
  exact loads_of_waiting (List.getElem?_set_self hlt) rfl rfl

/-- A thread that is answered does not act. -/
theorem run_answered {a : Except ε α} (hlt : i < phases.length) : ∀ n : Nat,
    run load ⟨d, holder, phases.set i (.answered a)⟩ (List.replicate n (.act i)) =
      ⟨d, holder, phases.set i (.answered a)⟩
  | 0 => rfl
  | n + 1 => by
    have hi : (phases.set i (.answered a))[i]? = some (.answered a) :=
      List.getElem?_set_self hlt
    have hstay : act load ⟨d, holder, phases.set i (.answered a)⟩ i = none := by
      simp only [act, hi]
    rw [List.replicate_succ, run_cons_none (m := .act i) hstay]
    exact run_answered hlt n

/-- **A request that nobody disturbs** is answered as `Deferred.get` says, in seven actions at
    most. -/
theorem run_undisturbed (hfree : s.holder = none) (hi : s.phases[i]? = some p)
    (hrest : p.atRest = true) (ask : ρ → α) :
    s.run load (.request i ask :: List.replicate 7 (.act i)) =
      ⟨(s.shared.get load).2, none,
        s.phases.set i (.answered ((s.shared.get load).1.map ask))⟩ := by
  obtain ⟨⟨stored, loads⟩, holder, phases⟩ := s
  dsimp only at hfree hi ⊢
  subst hfree
  have hlt : i < phases.length := (List.getElem?_eq_some_iff.1 hi).1
  rw [run_request ask hi hrest]
  cases stored with
  | some r =>
    rw [Deferred.get_of_stored]
    exact (run_act hlt (.find rfl) nofun _).trans
      ((run_act hlt .finish nofun _).trans (run_answered hlt 5))
  | none =>
    refine (run_act hlt (.miss rfl) nofun _).trans ((run_act hlt .take nofun _).trans
      ((run_act hlt .call nofun _).trans ?_))
    cases hload : load loads with
    | ok r =>
      have hget : Deferred.get load ⟨none, loads⟩ = (.ok r, ⟨some r, loads + 1⟩) := by
        rw [Deferred.get, hload]
      rw [hget]
      exact (run_act hlt (.succeed hload) nofun _).trans ((run_act hlt .store nofun _).trans
        ((run_act hlt .release nofun _).trans (run_act hlt .finish nofun _)))
    | error e =>
      have hget : Deferred.get load ⟨none, loads⟩ = (.error e, ⟨none, loads + 1⟩) := by
        rw [Deferred.get, hload]
      rw [hget]
      exact (run_act hlt (.fail hload) nofun _).trans ((run_act hlt .release nofun _).trans
        ((run_act hlt .finish nofun _).trans (run_answered hlt 1)))

end Undisturbed

/-- The value is not stored and nobody holds the lock, so that whoever waits for it, and whoever
    begins a request, loads next. -/
structure Open (load : Nat → Except ε ρ) (s : Threads ρ ε α) : Prop where
  unset : s.shared.stored = none
  free : s.holder = none
  waiting : ∀ (j : Nat) (ask : ρ → α), s.phases[j]? = some (.waiting ask) →
    (s.run load [.act j, .act j]).phases[j]? = some (.loading ask s.shared.loads)
  request : ∀ (j : Nat) (p : Phase ρ ε α), s.phases[j]? = some p → p.atRest = true →
    ∀ ask, (s.run load [.request j ask, .act j, .act j, .act j]).phases[j]? =
      some (.loading ask s.shared.loads)

/-- **A load that fails stores nothing**, and no value is there that it could have replaced. -/
theorem act_of_failing (hu : Unset s) {ask : ρ → α} {n : Nat} {e : ε}
    (hi : s.phases[i]? = some (.loading ask n)) (hload : load n = .error e) :
    s.shared.stored = none ∧ s.act load i = some (s.enter i (.releasing ask (.error e))) :=
  ⟨hu i _ hi rfl rfl, act_of_step hi (.fail hload) nofun⟩

/-- **A load that failed leaves the value unset and gives the lock back**, and a later request loads
    again. -/
theorem open_of_failed (hu : Unset s) {ask : ρ → α} {e : ε}
    (hi : s.phases[i]? = some (.releasing ask (.error e))) :
    ∃ s', s.act load i = some s' ∧ Open load s' := by
  have hnone : s.shared.stored = none := hu i _ hi rfl rfl
  refine ⟨_, act_of_step hi .release nofun, hnone, rfl, ?_, ?_⟩
  · intro j ask' hj
    exact loads_of_waiting hj rfl hnone
  · intro j p hj hrest ask'
    exact loads_of_atRest ask' hj hrest rfl hnone

/-! ## 8. Every run -/

/-- What holds of the threads and of what was told at every time. -/
structure Invariant (es : List (Event ρ ε α)) (s : Threads ρ ε α) : Prop where
  locked : Locked s
  unset : Unset s
  counted : Counted es s
  told : Told es s
  last : Last es
  session : InSession es s
  returned : Returned es

theorem Invariant.steps (hv : Invariant es s) (h : Steps load s i told s') :
    Invariant (es ++ told.toList) s' where
  locked := hv.locked.steps h
  unset := hv.unset.steps hv.locked h
  counted := hv.counted.steps hv.unset h
  told := hv.told.steps hv.unset h
  last := hv.last.steps hv.told hv.locked hv.unset h
  session := hv.session.steps h
  returned := hv.returned.steps hv.told hv.session h

theorem invariant_resting (count : Nat) :
    Invariant ([] : List (Event ρ ε α)) (resting .fresh count) := by
  have hidle : ∀ (i : Nat) (p : Phase ρ ε α),
      (resting .fresh count : Threads ρ ε α).phases[i]? = some p → p = .idle := by
    intro i p hp
    exact List.eq_of_mem_replicate (List.mem_of_getElem? hp)
  refine ⟨?_, ?_, ⟨rfl, ?_⟩, ⟨?_, nofun, ?_, nofun⟩, List.Pairwise.nil, ?_, ?_⟩
  · intro i p hp
    rw [hidle i p hp]
    exact ⟨nofun, nofun⟩
  · intro i p hp
    rw [hidle i p hp]
    exact nofun
  · have hzero : (List.replicate count (.idle : Phase ρ ε α)).countP Phase.owes = 0 := by
      rw [List.countP_replicate]
      rfl
    simp [resting, Deferred.fresh, hzero]
  · intro r
    exact ⟨nofun, fun ⟨_, h⟩ => nomatch h⟩
  · intro i p hp r hr
    rw [hidle i p hp] at hr
    exact nomatch hr
  · intro i p hp ask hask
    rw [hidle i p hp] at hask
    exact nomatch hask
  · intro before i answer after h
    exact absurd h.symm (List.append_ne_nil_of_right_ne_nil _ nofun)

/-- What is promised of the threads and of what was told of them. -/
structure LoadsOnce (load : Nat → Except ε ρ) (es : List (Event ρ ε α)) (s : Threads ρ ε α) :
    Prop where
  /-- One thread at most is at a load. -/
  alone : ∀ (i j : Nat) (ask ask' : ρ → α) (n n' : Nat), s.phases[i]? = some (.loading ask n) →
    s.phases[j]? = some (.loading ask' n') → i = j
  /-- After a load succeeded no load is called, and none succeeds. -/
  last : es.Pairwise fun e e' => e.isSuccess = true → e'.isCall = false ∧ e'.isSuccess = false
  /-- A request that returned got the value of the load that succeeded, or failed by a load of its
      own. -/
  returned : ∀ before i answer after, es = before ++ .returned i answer :: after →
    Answered before i answer
  /-- The value is loaded exactly if it was told to be stored, and then stays so. -/
  loaded : s.shared.isLoaded = true ↔ ∃ j r, .stored j r ∈ es
  /-- A load that fails stores nothing. -/
  fails : ∀ (i : Nat) (ask : ρ → α) (n : Nat) (e : ε), s.phases[i]? = some (.loading ask n) →
    load n = .error e →
    s.shared.stored = none ∧ s.act load i = some (s.enter i (.releasing ask (.error e)))
  /-- A load that failed leaves the value unset and gives the lock back. -/
  failed : ∀ (i : Nat) (ask : ρ → α) (e : ε), s.phases[i]? = some (.releasing ask (.error e)) →
    ∃ s', s.act load i = some s' ∧ Open load s'
  /-- A request that nobody disturbs is answered as `Deferred.get` says. -/
  answers : s.holder = none → ∀ (i : Nat) (p : Phase ρ ε α), s.phases[i]? = some p →
    p.atRest = true → ∀ ask, s.run load (.request i ask :: List.replicate 7 (.act i)) =
      ⟨(s.shared.get load).2, none, s.phases.set i (.answered ((s.shared.get load).1.map ask))⟩
  /-- At rest, every load that was called failed its request, but for the one that is kept. -/
  counted : (∀ p ∈ s.phases, p.atRest = true) → es.countP Event.isCall =
    es.countP Event.isFailure + if s.shared.isLoaded then 1 else 0

/-- **The value is loaded once**, by any number of threads, whatever they request, however their
    moves interleave and whichever loads fail. -/
theorem run_loadsOnce (load : Nat → Except ε ρ) (count : Nat) (moves : List (Move ρ α)) :
    LoadsOnce load (history load (resting .fresh count) moves)
      ((resting .fresh count).run load moves) := by
  have hv : Invariant (history load (resting .fresh count) moves)
      ((resting .fresh count).run load moves) :=
    run_induction (P := Invariant) (fun _ _ _ _ _ hv h => hv.steps h) moves
      (invariant_resting count)
  refine ⟨?_, hv.last, hv.returned, ?_, fun i ask n e => act_of_failing hv.unset,
    fun i ask e => open_of_failed hv.unset, fun hfree i p hi hrest => run_undisturbed hfree hi hrest,
    ?_⟩
  · intro i j ask ask' n n' hi hj
    exact hv.locked.alone hi hj rfl rfl
  · rw [Deferred.isLoaded, Option.isSome_iff_exists, exists_comm]
    exact exists_congr hv.told.stored
  · intro hrest
    have howes : ((resting .fresh count).run load moves).phases.countP Phase.owes = 0 := by
      refine List.countP_eq_zero.2 fun p hp ho => ?_
      have hatRest := hrest p hp
      cases p <;> cases hatRest <;> cases ho
    rw [← hv.counted.calls, hv.counted.loads, howes, Nat.add_zero, Deferred.isLoaded]
    cases ((resting .fresh count).run load moves).shared.stored <;> rfl

end Threads
end Terrain
