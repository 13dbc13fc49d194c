/-!
# Attempts

Building a formula and compiling a profile are attempts: they may fail, and what they did to the
state until then remains. A sequence of two attempts succeeds if both do, and fails where the first
of them fails.

* `run_bind_ok` takes a success apart.
* `run_bind_of_ok` and `run_bind_of_error` go the other way.
* `gives_bind_iff` tells what a sequence gives.
* `fails_bind_iff` and `foldlM_eq_error_iff` tell where a sequence and a fold fail.
* `FailsFor.bind` tells what reasons a sequence fails for.
* `Leads.bind` tells where a sequence leads, whatever comes of it.
* `Secures.bind` tells what a sequence keeps, and what is right of the thing it gives.
* `SameUnless.bind` tells when two sequences come to the same.
* `ComesTo.bind` tells what a sequence comes to, if that does not depend on the state.
* `fails_mapM_iff` and `exists_run_mapM` tell where a list of attempts fails, and when none does.
* `getElem?_of_mapM_ok` tells what comes of a list of attempts that all succeed.
* `foldlM_set_range'` tells what a loop has written that writes its results one after the other.
-/

namespace Terrain.Attempt

variable {ε σ α β : Type}

/-- A sequence runs the first attempt, and the second where the first left off. -/
theorem run_bind (x : ExceptT ε (StateM σ) α) (f : α → ExceptT ε (StateM σ) β) (s : σ) :
    (x >>= f).run s =
      match x.run s with
      | (.ok a, s₁) => (f a).run s₁
      | (.error e, s₁) => (.error e, s₁) := by
  have h : (x >>= f).run s = (ExceptT.bindCont f (x.run s).1) (x.run s).2 := rfl
  rw [h]
  rcases x.run s with ⟨e | a, s₁⟩ <;> rfl

theorem run_bind_of_ok {x : ExceptT ε (StateM σ) α} {s s₁ : σ} {a : α}
    (h : x.run s = (.ok a, s₁)) (f : α → ExceptT ε (StateM σ) β) :
    (x >>= f).run s = (f a).run s₁ := by
  rw [run_bind, h]

theorem run_bind_of_error {x : ExceptT ε (StateM σ) α} {s s₁ : σ} {e : ε}
    (h : x.run s = (.error e, s₁)) (f : α → ExceptT ε (StateM σ) β) :
    (x >>= f).run s = (.error e, s₁) := by
  rw [run_bind, h]

/-- A sequence that succeeds is two successes. -/
theorem run_bind_ok {x : ExceptT ε (StateM σ) α} {f : α → ExceptT ε (StateM σ) β} {s s' : σ}
    {b : β} (h : (x >>= f).run s = (.ok b, s')) :
    ∃ a s₁, x.run s = (.ok a, s₁) ∧ (f a).run s₁ = (.ok b, s') := by
  rcases hx : x.run s with ⟨e | a, s₁⟩
  · rw [run_bind_of_error hx] at h
    cases h
  · rw [run_bind_of_ok hx] at h
    exact ⟨a, s₁, rfl, h⟩

/-- An attempt gives a thing. -/
def Gives (x : ExceptT ε (StateM σ) α) (a : α) (s : σ) : Prop := (x.run s).1 = .ok a

theorem gives_iff {x : ExceptT ε (StateM σ) α} {a : α} {s : σ} :
    Gives x a s ↔ ∃ s', x.run s = (.ok a, s') := by
  unfold Gives
  constructor
  · intro h
    exact ⟨(x.run s).2, Prod.ext h rfl⟩
  · intro hex
    obtain ⟨s', h⟩ := hex
    rw [h]

theorem gives_pure_iff {a b : α} {s : σ} :
    Gives (pure a : ExceptT ε (StateM σ) α) b s ↔ a = b := by
  constructor
  · intro h
    cases h
    rfl
  · intro h
    rw [h]
    rfl

/-- **A sequence gives what the second attempt gives**, where the first left off. -/
theorem gives_bind_iff {x : ExceptT ε (StateM σ) α} {f : α → ExceptT ε (StateM σ) β} {b : β}
    {s : σ} : Gives (x >>= f) b s ↔ ∃ a, Gives x a s ∧ Gives (f a) b (x.run s).2 := by
  unfold Gives
  rcases hx : x.run s with ⟨e | a, s₁⟩
  · rw [run_bind_of_error hx]
    exact ⟨nofun, fun ⟨_, h, _⟩ => nomatch h⟩
  · rw [run_bind_of_ok hx]
    constructor
    · exact fun h => ⟨a, rfl, h⟩
    · intro hex
      obtain ⟨a', h, hf⟩ := hex
      cases h
      exact hf

/-- An attempt fails for a reason. -/
def Fails (x : ExceptT ε (StateM σ) α) (e : ε) (s : σ) : Prop := (x.run s).1 = .error e

/-- **A sequence fails where the first of the two fails.** -/
theorem fails_bind_iff {x : ExceptT ε (StateM σ) α} {f : α → ExceptT ε (StateM σ) β} {e : ε}
    {s : σ} : Fails (x >>= f) e s ↔
      Fails x e s ∨ ∃ a s₁, x.run s = (.ok a, s₁) ∧ Fails (f a) e s₁ := by
  unfold Fails
  rcases hx : x.run s with ⟨e' | a, s₁⟩
  · rw [run_bind_of_error hx]
    constructor
    · intro h
      cases h
      exact .inl rfl
    · intro hor
      rcases hor with h | ⟨a, s₂, h, -⟩
      · cases h
        rfl
      · cases h
  · rw [run_bind_of_ok hx]
    constructor
    · exact fun h => .inr ⟨a, s₁, rfl, h⟩
    · intro hor
      rcases hor with h | ⟨a', s₂, h, hf⟩
      · cases h
      · cases h
        exact hf

/-- An attempt fails for reasons of a certain sort only. -/
def FailsFor (P : ε → Prop) (x : ExceptT ε (StateM σ) α) : Prop := ∀ e s, Fails x e s → P e

theorem FailsFor.bind {P : ε → Prop} {x : ExceptT ε (StateM σ) α}
    {f : α → ExceptT ε (StateM σ) β} (hx : FailsFor P x) (hf : ∀ a, FailsFor P (f a)) :
    FailsFor P (x >>= f) := by
  intro e s h
  rcases fails_bind_iff.1 h with h | ⟨a, s₁, -, h⟩
  · exact hx e s h
  · exact hf a e s₁ h

/-- An attempt that succeeds from every state fails for no reason. -/
theorem FailsFor.of_ok {P : ε → Prop} {x : ExceptT ε (StateM σ) α} {f : σ → α}
    (h : ∀ s, (x.run s).1 = .ok (f s)) : FailsFor P x := by
  intro e s he
  unfold Fails at he
  rw [h s] at he
  cases he

/-! ## Where attempts lead -/

/-- Whatever comes of an attempt, it leads from a state to a related one. -/
def Leads (R : σ → σ → Prop) (x : ExceptT ε (StateM σ) α) : Prop := ∀ s, R s (x.run s).2

/-- An attempt that leaves the state as it is leads there. -/
theorem Leads.of_eq {R : σ → σ → Prop} {x : ExceptT ε (StateM σ) α} (hx : Leads Eq x)
    (hrefl : ∀ s, R s s) : Leads R x := by
  intro s
  rw [← hx s]
  exact hrefl s

/-- **A sequence leads where its parts lead**, if two steps of the relation are one. -/
theorem Leads.bind {R : σ → σ → Prop} {x : ExceptT ε (StateM σ) α}
    {f : α → ExceptT ε (StateM σ) β} (htrans : ∀ {s₁ s₂ s₃}, R s₁ s₂ → R s₂ s₃ → R s₁ s₃)
    (hx : Leads R x) (hf : ∀ a, Leads R (f a)) : Leads R (x >>= f) := by
  intro s
  have hfirst := hx s
  rcases hrun : x.run s with ⟨e | a, s₁⟩
  · rw [hrun] at hfirst
    rw [run_bind_of_error hrun]
    exact hfirst
  · rw [hrun] at hfirst
    rw [run_bind_of_ok hrun]
    exact htrans hfirst (hf a s₁)

/-- Started in a good state, an attempt leaves a good one, whatever comes of it, and what it gives
    is right there. -/
def Secures (P : σ → Prop) (Q : α → σ → Prop) (x : ExceptT ε (StateM σ) α) : Prop :=
  ∀ s, P s → P (x.run s).2 ∧ ∀ a, (x.run s).1 = .ok a → Q a (x.run s).2

/-- **A sequence secures what its parts do**, the second where the first left off. -/
theorem Secures.bind {P : σ → Prop} {Q : α → σ → Prop} {R : β → σ → Prop}
    {x : ExceptT ε (StateM σ) α} {f : α → ExceptT ε (StateM σ) β} (hx : Secures P Q x)
    (hf : ∀ a, Secures (fun s => P s ∧ Q a s) R (f a)) : Secures P R (x >>= f) := by
  intro s hs
  obtain ⟨hP, hQ⟩ := hx s hs
  rcases hrun : x.run s with ⟨e | a, s₁⟩
  · rw [hrun] at hP
    rw [run_bind_of_error hrun]
    exact ⟨hP, nofun⟩
  · rw [hrun] at hP hQ
    rw [run_bind_of_ok hrun]
    obtain ⟨hlast, hgiven⟩ := hf a s₁ ⟨hP, hQ a rfl⟩
    exact ⟨hlast.1, hgiven⟩

/-- What an attempt secures is secured after one that leaves the state as it is. -/
theorem Secures.after {P : σ → Prop} {R : β → σ → Prop} {x : ExceptT ε (StateM σ) α}
    {f : α → ExceptT ε (StateM σ) β} (hx : Leads Eq x) (hf : ∀ a, Secures P R (f a)) :
    Secures P R (x >>= f) := by
  intro s hs
  have hkept := hx s
  rcases hrun : x.run s with ⟨e | a, s₁⟩ <;> rw [hrun] at hkept <;> subst hkept
  · rw [run_bind_of_error hrun]
    exact ⟨hs, nofun⟩
  · rw [run_bind_of_ok hrun]
    exact hf a _ hs

/-! ## Attempts that come to the same -/

/-- The second attempt comes to the same as the first, unless the first fails for a reason of a
    certain sort. -/
def SameUnless (P : ε → Prop) (x y : ExceptT ε (StateM σ) α) : Prop :=
  ∀ s, (∃ e, P e ∧ Fails x e s) ∨ y.run s = x.run s

theorem SameUnless.refl (P : ε → Prop) (x : ExceptT ε (StateM σ) α) : SameUnless P x x :=
  fun _ => .inr rfl

/-- **Two sequences come to the same if their parts do.** -/
theorem SameUnless.bind {P : ε → Prop} {x y : ExceptT ε (StateM σ) α}
    {f g : α → ExceptT ε (StateM σ) β} (hxy : SameUnless P x y)
    (hfg : ∀ a, SameUnless P (f a) (g a)) : SameUnless P (x >>= f) (y >>= g) := by
  intro s
  rcases hxy s with ⟨e, he, hfails⟩ | hsame
  · exact .inl ⟨e, he, fails_bind_iff.2 (.inl hfails)⟩
  rcases hx : x.run s with ⟨e | a, s₁⟩
  · rw [run_bind_of_error hx, run_bind_of_error (hsame.trans hx)]
    exact .inr rfl
  · rw [run_bind_of_ok hx, run_bind_of_ok (hsame.trans hx)]
    rcases hfg a s₁ with ⟨e, he, hfails⟩ | hrest
    · exact .inl ⟨e, he, fails_bind_iff.2 (.inr ⟨a, s₁, hx, hfails⟩)⟩
    · exact .inr hrest

theorem SameUnless.mapM {P : ε → Prop} {f g : α → ExceptT ε (StateM σ) β} : ∀ {l : List α},
    (∀ a ∈ l, SameUnless P (f a) (g a)) → SameUnless P (l.mapM f) (l.mapM g)
  | [], _ => .refl P _
  | a :: l, h => by
    obtain ⟨ha, hl⟩ := List.forall_mem_cons.1 h
    rw [List.mapM_cons, List.mapM_cons]
    exact ha.bind fun _ => (SameUnless.mapM hl).bind fun _ => .refl P _

/-! ## Attempts whose success does not depend on the state -/

/-- From every state an attempt succeeds, or from every state it fails for the same reason. -/
def ComesTo (v : Except ε Unit) (x : ExceptT ε (StateM σ) α) : Prop :=
  ∀ s, (x.run s).1.map (fun _ => ()) = v

theorem ComesTo.fails_iff {v : Except ε Unit} {x : ExceptT ε (StateM σ) α} (hx : ComesTo v x)
    {e : ε} {s : σ} : Fails x e s ↔ v = .error e := by
  unfold Fails
  rw [← hx s]
  rcases (x.run s).1 with e' | a
  · exact ⟨fun h => by cases h; rfl, fun h => by cases h; rfl⟩
  · exact ⟨nofun, nofun⟩

theorem ComesTo.exists_gives_iff {v : Except ε Unit} {x : ExceptT ε (StateM σ) α}
    (hx : ComesTo v x) {s : σ} : (∃ a, Gives x a s) ↔ v = .ok () := by
  unfold Gives
  rw [← hx s]
  rcases (x.run s).1 with e | a
  · exact ⟨fun ⟨_, h⟩ => (nomatch h), nofun⟩
  · exact ⟨fun _ => rfl, fun _ => ⟨a, rfl⟩⟩

/-- **A sequence comes to what its first part comes to, and then to what the second does**, whatever
    the first gives. -/
theorem ComesTo.bind {v w : Except ε Unit} {x : ExceptT ε (StateM σ) α}
    {f : α → ExceptT ε (StateM σ) β} (hx : ComesTo v x) (hf : ∀ a, ComesTo w (f a)) :
    ComesTo (v.bind fun _ => w) (x >>= f) := by
  intro s
  have hv := hx s
  rcases hrun : x.run s with ⟨e | a, s₁⟩ <;> rw [hrun] at hv <;> rw [← hv]
  · rw [run_bind_of_error hrun]
    rfl
  · rw [run_bind_of_ok hrun]
    exact hf a s₁

theorem exists_comesTo_mapM {f : α → ExceptT ε (StateM σ) β} : ∀ {l : List α},
    (∀ a ∈ l, ∃ v, ComesTo v (f a)) → ∃ v, ComesTo v (l.mapM f)
  | [], _ => ⟨.ok (), fun _ => rfl⟩
  | a :: l, h => by
    obtain ⟨⟨v, ha⟩, hl⟩ := List.forall_mem_cons.1 h
    obtain ⟨w, hw⟩ := exists_comesTo_mapM hl
    rw [List.mapM_cons]
    exact ⟨_, ha.bind fun _ => hw.bind (w := .ok ()) fun _ _ => rfl⟩

/-! ## Lists of attempts -/

/-- A list of attempts comes to the same with attempts that are the same for its items. -/
theorem mapM_congr {f g : α → ExceptT ε (StateM σ) β} : ∀ {l : List α}, (∀ a ∈ l, f a = g a) →
    l.mapM f = l.mapM g
  | [], _ => rfl
  | a :: l, h => by
    obtain ⟨ha, hl⟩ := List.forall_mem_cons.1 h
    rw [List.mapM_cons, List.mapM_cons, ha, mapM_congr hl]

/-- **A list of attempts fails at the first that does.** -/
theorem fails_mapM_iff {f : α → ExceptT ε (StateM σ) β} {e : ε} : ∀ {l : List α} {s : σ},
    Fails (l.mapM f) e s ↔ ∃ before a after bs s₁, l = before ++ a :: after ∧
      (before.mapM f).run s = (.ok bs, s₁) ∧ Fails (f a) e s₁
  | [], s => by
    constructor
    · nofun
    · intro hex
      obtain ⟨before, a, after, bs, s₁, h, -⟩ := hex
      simp at h
  | a :: l, s => by
    rw [List.mapM_cons, fails_bind_iff]
    constructor
    · intro hor
      rcases hor with h | ⟨b, s₁, hb, h⟩
      · exact ⟨[], a, l, [], s, rfl, rfl, h⟩
      · rcases fails_bind_iff.1 h with h | ⟨bs, s₂, -, h⟩
        · obtain ⟨before, x, after, bs, s₂, hl, hbefore, hx⟩ := fails_mapM_iff.1 h
          refine ⟨a :: before, x, after, b :: bs, s₂, by rw [hl]; rfl, ?_, hx⟩
          rw [List.mapM_cons, run_bind_of_ok hb, run_bind_of_ok hbefore]
          rfl
        · cases h
    · intro hex
      obtain ⟨before, x, after, bs, s₁, hl, hbefore, hx⟩ := hex
      cases before with
      | nil =>
        cases hl
        cases hbefore
        exact .inl hx
      | cons c before =>
        cases hl
        rw [List.mapM_cons] at hbefore
        obtain ⟨b, s₂, hb, hbefore⟩ := run_bind_ok hbefore
        obtain ⟨bs, s₃, hbs, hbefore⟩ := run_bind_ok hbefore
        cases hbefore
        exact .inr ⟨b, s₂, hb, fails_bind_iff.2
          (.inl (fails_mapM_iff.2 ⟨before, x, after, bs, s₁, rfl, hbs, hx⟩))⟩

/-- Each of a list of attempts that succeed has succeeded. -/
theorem exists_of_run_mapM_ok {f : α → ExceptT ε (StateM σ) β} : ∀ {l : List α} {s s' : σ}
    {bs : List β}, (l.mapM f).run s = (.ok bs, s') →
    ∀ a ∈ l, ∃ s₁ b s₂, (f a).run s₁ = (.ok b, s₂)
  | [], _, _, _, _ => List.forall_mem_nil _
  | a :: l, s, s', bs, h => by
    rw [List.mapM_cons] at h
    obtain ⟨b, s₁, hb, h⟩ := run_bind_ok h
    obtain ⟨bs, s₂, hbs, -⟩ := run_bind_ok h
    exact List.forall_mem_cons.2 ⟨⟨s, b, s₁, hb⟩, exists_of_run_mapM_ok hbs⟩

/-- **A list of attempts succeeds if each of them does in every state**, with a result for each. -/
theorem exists_run_mapM {f : α → ExceptT ε (StateM σ) β} : ∀ {l : List α},
    (∀ a ∈ l, ∀ s, ∃ b, Gives (f a) b s) → ∀ s, ∃ bs s', (l.mapM f).run s = (.ok bs, s') ∧
      ∀ (i : Nat) a, l[i]? = some a → ∃ b s, bs[i]? = some b ∧ Gives (f a) b s
  | [], _, s => ⟨[], s, rfl, nofun⟩
  | a :: l, h, s => by
    obtain ⟨ha, hl⟩ := List.forall_mem_cons.1 h
    obtain ⟨b, hb⟩ := ha s
    obtain ⟨s₁, hrun⟩ := gives_iff.1 hb
    obtain ⟨bs, s₂, hbs, hresults⟩ := exists_run_mapM hl s₁
    refine ⟨b :: bs, s₂, ?_, fun i x hx => ?_⟩
    · rw [List.mapM_cons, run_bind_of_ok hrun, run_bind_of_ok hbs]
      rfl
    · cases i with
      | zero =>
        obtain rfl := Option.some.inj hx
        exact ⟨b, s, rfl, hb⟩
      | succ i => exact hresults i x hx

/-! ## Attempts without a state -/

/-- A sequence that succeeds is two successes. -/
theorem bind_eq_ok {x : Except ε α} {f : α → Except ε β} {b : β} (h : x >>= f = .ok b) :
    ∃ a, x = .ok a ∧ f a = .ok b := by
  cases x with
  | error e => cases h
  | ok a => exact ⟨a, rfl, h⟩

theorem bind_of_ok {x : Except ε α} {a : α} (h : x = .ok a) (f : α → Except ε β) :
    x >>= f = f a := by
  rw [h]
  rfl

/-- Telling a failure in other words changes no success. -/
theorem mapError_eq_ok_iff {δ : Type} {x : Except ε α} {f : ε → δ} {a : α} :
    x.mapError f = .ok a ↔ x = .ok a := by
  cases x with
  | error e => exact ⟨nofun, nofun⟩
  | ok b =>
    constructor
    · intro h
      cases h
      rfl
    · intro h
      cases h
      rfl

theorem toOption_eq_some_iff {x : Except ε α} {a : α} : x.toOption = some a ↔ x = .ok a := by
  cases x with
  | error e => exact ⟨nofun, nofun⟩
  | ok b => simp [Except.toOption]

theorem exists_of_isSome {x : Except ε α} (h : x.toOption.isSome = true) : ∃ a, x = .ok a := by
  obtain ⟨a, ha⟩ := Option.isSome_iff_exists.1 h
  exact ⟨a, toOption_eq_some_iff.1 ha⟩

/-- A run whose result passes a check has succeeded. -/
theorem exists_run_of_any {x : Except ε α × σ} {check : α → Bool}
    (h : x.1.toOption.any check = true) : ∃ a s, x = (.ok a, s) ∧ check a = true := by
  obtain ⟨a, ha, hcheck⟩ := (Option.any_eq_true ..).1 h
  exact ⟨a, x.2, Prod.ext (toOption_eq_some_iff.1 ha) rfl, hcheck⟩

theorem exists_run_of_isSome {x : Except ε α × σ} (h : x.1.toOption.isSome = true) :
    ∃ a s, x = (.ok a, s) := by
  obtain ⟨a, ha⟩ := exists_of_isSome h
  exact ⟨a, x.2, Prod.ext ha rfl⟩

/-- A sequence that fails fails at the first of the two that does. -/
theorem bind_eq_error {x : Except ε α} {f : α → Except ε β} {e : ε} (h : x >>= f = .error e) :
    x = .error e ∨ ∃ a, x = .ok a ∧ f a = .error e := by
  cases x with
  | error e' =>
    cases h
    exact .inl rfl
  | ok a => exact .inr ⟨a, rfl, h⟩

/-! ## Lists of attempts without a state -/

/-- A fold comes to the same with steps that do the same with its items. -/
theorem foldlM_congr {f g : β → α → Except ε β} : ∀ {l : List α} {b : β},
    (∀ a ∈ l, ∀ b, f b a = g b a) → l.foldlM f b = l.foldlM g b
  | [], b, _ => rfl
  | a :: l, b, h => by
    obtain ⟨ha, hl⟩ := List.forall_mem_cons.1 h
    rw [List.foldlM_cons, List.foldlM_cons, ha b]
    cases g b a with
    | error e => rfl
    | ok b' => exact foldlM_congr hl

/-- **A fold fails at the first item that its step fails at.** -/
theorem foldlM_eq_error_iff {f : β → α → Except ε β} {e : ε} : ∀ {l : List α} {b : β},
    l.foldlM f b = .error e ↔ ∃ before x after b', l = before ++ x :: after ∧
      before.foldlM f b = .ok b' ∧ f b' x = .error e
  | [], b => by
    constructor
    · nofun
    · intro hex
      obtain ⟨before, x, after, b', h, -⟩ := hex
      simp at h
  | a :: l, b => by
    rw [List.foldlM_cons]
    rcases hstep : f b a with e' | b₁
    · -- the first step fails, so nothing is before the item it fails at
      constructor
      · intro h
        exact ⟨[], a, l, b, rfl, rfl, hstep.trans h⟩
      · intro hex
        obtain ⟨before, x, after, b', hl, hbefore, hx⟩ := hex
        cases before with
        | nil =>
          cases hl
          cases hbefore
          exact hstep.symm.trans hx
        | cons c before =>
          cases hl
          rw [List.foldlM_cons, hstep] at hbefore
          cases hbefore
    · have ih := foldlM_eq_error_iff (f := f) (e := e) (l := l) (b := b₁)
      constructor
      · intro h
        obtain ⟨before, x, after, b', hl, hbefore, hx⟩ := ih.1 h
        refine ⟨a :: before, x, after, b', by rw [hl]; rfl, ?_, hx⟩
        rw [List.foldlM_cons, hstep]
        exact hbefore
      · intro hex
        obtain ⟨before, x, after, b', hl, hbefore, hx⟩ := hex
        cases before with
        | nil =>
          cases hl
          cases hbefore
          rw [hstep] at hx
          cases hx
        | cons c before =>
          cases hl
          rw [List.foldlM_cons, hstep] at hbefore
          exact ih.2 ⟨before, x, after, b', rfl, hbefore, hx⟩

/-- **What a list is mapped to, if no item fails**: as many items, each the result of its own. -/
theorem getElem?_of_mapM_ok {f : α → Except ε β} : ∀ {l : List α} {out : List β},
    l.mapM f = .ok out →
    out.length = l.length ∧
      ∀ (i : Nat) (b : β), out[i]? = some b → ∃ a, l[i]? = some a ∧ f a = .ok b
  | [], out, h => by
    cases h
    exact ⟨rfl, fun i b hb => by simp at hb⟩
  | a :: l, out, h => by
    rw [List.mapM_cons] at h
    rcases ha : f a with e | b
    · rw [ha] at h
      cases h
    · rw [ha] at h
      rcases hl : l.mapM f with e | bs
      · rw [hl] at h
        cases h
      · rw [hl] at h
        cases h
        obtain ⟨hlength, hitems⟩ := getElem?_of_mapM_ok hl
        refine ⟨congrArg (· + 1) hlength, fun i b' hb => ?_⟩
        cases i with
        | zero =>
          cases hb
          exact ⟨a, rfl, ha⟩
        | succ i => exact hitems i b' hb

/-- **A list of attempts succeeds exactly if each of them does.** -/
theorem exists_mapM_eq_ok_iff {f : α → Except ε β} : ∀ {l : List α},
    (∃ bs, l.mapM f = .ok bs) ↔ ∀ a ∈ l, ∃ b, f a = .ok b
  | [] => ⟨fun _ => List.forall_mem_nil _, fun _ => ⟨[], rfl⟩⟩
  | a :: l => by
    rw [List.forall_mem_cons, ← exists_mapM_eq_ok_iff, List.mapM_cons]
    constructor
    · intro hex
      obtain ⟨bs, h⟩ := hex
      obtain ⟨b, hb, h⟩ := bind_eq_ok h
      obtain ⟨bs', hbs, -⟩ := bind_eq_ok h
      exact ⟨⟨b, hb⟩, bs', hbs⟩
    · intro hex
      obtain ⟨⟨b, hb⟩, bs, hbs⟩ := hex
      exact ⟨b :: bs, by rw [hb, hbs]; rfl⟩

/-- **A loop that writes its results one after the other** comes to the list of them: it has written
    `done` so far, and nothing behind it. -/
theorem foldlM_set_range' {f : Nat → Except ε β} : ∀ (m : Nat) (done : List (Option β)),
    (List.range' done.length m).foldlM (fun bs n => return bs.set n (some (← f n)))
      (done ++ List.replicate m none) =
    ((List.range' done.length m).mapM f).map fun bs => done ++ bs.map some
  | 0, done => rfl
  | m + 1, done => by
    rw [List.range'_succ, List.foldlM_cons, List.mapM_cons]
    cases f done.length with
    | error e => rfl
    | ok b =>
      -- the next result is written where nothing was written before
      have hset : (done ++ List.replicate (m + 1) none).set done.length (some b) =
          (done ++ [some b]) ++ List.replicate m none := by
        simp [List.replicate_succ]
      have ih := foldlM_set_range' (f := f) m (done ++ [some b])
      rw [List.length_append, List.length_singleton] at ih
      change List.foldlM _ ((done ++ List.replicate (m + 1) none).set done.length (some b)) _ = _
      rw [hset, ih]
      cases (List.range' (done.length + 1) m).mapM f with
      | error e => rfl
      | ok bs => exact congrArg Except.ok (List.append_assoc done [some b] _)

end Terrain.Attempt
