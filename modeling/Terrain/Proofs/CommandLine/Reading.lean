import Terrain.CommandLine.Options
import Terrain.Proofs.Attempt

/-!
# Command lines that are accepted

A command line is refused, asks for help, or is accepted. One that is accepted gives all options, but
for one thing: the level of the log may be left empty, and then there is no level to log at.

* `LeavesLevelEmpty`: the level of the log is left empty where it is given last.
* `level_of_read`: what becomes of the level when arguments are read.
* `accepted_cases`: a command line that is accepted gives options unless it leaves the level empty.
-/

namespace Terrain.CommandLine

open Attempt

variable {d d' : Draft} {n : Name} {e : Ending}

/-! ## 1. The level of the log -/

/-- The values that the level of the log is given, in order: one that follows the name at once, or
    `none` where it is the next argument. -/
def levelMentions (roles : List (Text × Role)) : List (Option Text) :=
  roles.filterMap fun entry =>
    match entry.2 with
    | .option .level value => some value
    | _ => none

/-- Whether the level is empty after it is given, if it was before. -/
def emptyAfter (before : Prop) (mentions : List (Option Text)) : Prop :=
  match mentions.getLast? with
  | some value => value = some mark
  | none => before

/-- **The level of the log is left empty**: two dashes follow its name at once, where it is given
    last. -/
def LeavesLevelEmpty (arguments : List String) : Prop :=
  ∃ roles, classify (arguments.map String.toList) = .ok roles ∧
    (levelMentions roles).getLast? = some (some mark)

theorem levelMentions_option (t : Text) (value : Option Text) (rest : List (Text × Role)) :
    levelMentions ((t, .option n value) :: rest) =
      if n = .level then value :: levelMentions rest else levelMentions rest := by
  cases n <;> rfl

/-- An option that is given first makes the level empty or not, or leaves it. -/
theorem emptyAfter_option (before : Prop) (t : Text) (value : Option Text)
    (rest : List (Text × Role)) :
    emptyAfter before (levelMentions ((t, .option n value) :: rest)) ↔
      emptyAfter (if n = .level then value = some mark else before) (levelMentions rest) := by
  rw [levelMentions_option]
  split
  · unfold emptyAfter
    rw [List.getLast?_cons]
    cases (levelMentions rest).getLast? <;> rfl
  · rfl

theorem levelMentions_append (roles rest : List (Text × Role)) :
    levelMentions (roles ++ rest) = levelMentions roles ++ levelMentions rest :=
  List.filterMap_append

/-- Values do not give a level. -/
theorem levelMentions_values {taken : List (Text × Role)} (h : taken.all (·.2 == .value) = true) :
    levelMentions taken = [] := by
  unfold levelMentions
  refine List.filterMap_eq_nil_iff.2 fun entry hentry => ?_
  have hrole : entry.2 = .value := beq_iff_eq.1 (List.all_eq_true.1 h entry hentry)
  rw [hrole]

/-! ## 2. Single options -/

/-- Values that are set give the level of the log, or leave it. -/
theorem level_of_set {values : List Text} (h : d.set n values = .ok d') :
    d'.level = .empty ↔ n ≠ .level ∧ d.level = .empty := by
  unfold Draft.set at h
  split at h
  · cases h
  · cases h
    simp
  · split at h
    · cases h
      simp
    · cases h
  · cases h
    simp
  · obtain ⟨x, -, h⟩ := bind_eq_ok h
    obtain ⟨y, -, h⟩ := bind_eq_ok h
    obtain ⟨z, -, h⟩ := bind_eq_ok h
    cases h
    simp
  · obtain ⟨x, -, h⟩ := bind_eq_ok h
    cases h
    simp
  · cases h
    simp
  · split at h
    · cases h
      simp
    · cases h
  · cases h

theorem whole_ne_noLevel (t : Text) : whole t ≠ .error .noLevel := by
  unfold whole
  split <;> nofun

/-- Values that are set are refused, or ask for help. -/
theorem set_ne_noLevel {values : List Text} : d.set n values ≠ .error .noLevel := by
  intro h
  unfold Draft.set at h
  split at h
  · cases h
  · cases h
  · split at h <;> cases h
  · cases h
  · rcases bind_eq_error h with h | ⟨x, -, h⟩
    · exact whole_ne_noLevel _ h
    rcases bind_eq_error h with h | ⟨y, -, h⟩
    · exact whole_ne_noLevel _ h
    rcases bind_eq_error h with h | ⟨z, -, h⟩
    · exact whole_ne_noLevel _ h
    · cases h
  · rcases bind_eq_error h with h | ⟨x, -, h⟩
    · exact whole_ne_noLevel _ h
    · cases h
  · cases h
  · split at h <;> cases h
  · cases h

theorem level_of_leaveEmpty (h : d.leaveEmpty n = .ok d') :
    d'.level = .empty ↔ n = .level ∨ d.level = .empty := by
  cases n <;> cases h <;> simp

theorem leaveEmpty_ne_noLevel : d.leaveEmpty n ≠ .error .noLevel := by
  cases n <;> nofun

/-- A value that follows its name at once leaves the level empty if it is two dashes. -/
theorem level_of_setJoined {written value : Text} (h : d.setJoined written n value = .ok d') :
    d'.level = .empty ↔ if n = .level then value = mark else d.level = .empty := by
  unfold Draft.setJoined at h
  split at h
  · split at h <;> cases h
  · split at h
    · rename_i hmark
      rw [level_of_leaveEmpty h]
      by_cases hn : n = .level <;> simp [hn, hmark]
    · rename_i hmark
      rw [level_of_set h]
      by_cases hn : n = .level <;> simp [hn, hmark]

theorem setJoined_ne_noLevel {written value : Text} :
    d.setJoined written n value ≠ .error .noLevel := by
  unfold Draft.setJoined
  split
  · split <;> nofun
  · split
    · exact leaveEmpty_ne_noLevel
    · exact set_ne_noLevel

/-! ## 3. All arguments -/

/-- **The level is what the arguments make of it**: it is empty if it is left empty where it is given
    last, or if it is not given and was empty. -/
theorem level_of_read {roles : List (Text × Role)} {fuel : Nat} (hfuel : roles.length ≤ fuel)
    (h : d.read roles fuel = .ok d') :
    d'.level = .empty ↔ emptyAfter (d.level = .empty) (levelMentions roles) := by
  fun_induction Draft.read d roles fuel with
  | case1 =>
    cases h
    rfl
  | case2 d roles hne => exact absurd (List.length_eq_zero_iff.1 (Nat.le_zero.1 hfuel)) hne
  | case3 d t n value rest fuel ih =>
    obtain ⟨d₁, hset, h⟩ := bind_eq_ok h
    rw [ih d₁ (Nat.le_of_succ_le_succ hfuel) h, emptyAfter_option, level_of_setJoined hset,
      Option.some.injEq]
  | case4 => cases h
  | case5 d t n rest fuel taken next hlong ih =>
    obtain ⟨d₁, hset, h⟩ := bind_eq_ok h
    -- the arguments that are taken are values, so none of them gives a level
    have hvalues : levelMentions taken = [] := levelMentions_values (by simpa using (not_or.1 hlong).2)
    have hrest : levelMentions rest = levelMentions (rest.drop n.arity) := by
      have happend := levelMentions_append taken (rest.drop n.arity)
      rwa [List.take_append_drop, hvalues, List.nil_append] at happend
    have hlength : (rest.drop n.arity).length ≤ fuel := by
      rw [List.length_drop]
      exact Nat.le_trans (Nat.sub_le _ _) (Nat.le_of_succ_le_succ hfuel)
    rw [ih d₁ hlength h, emptyAfter_option, hrest, level_of_set hset]
    by_cases hn : n = .level <;> simp [hn]
  | case6 d entry rest fuel hjoined hname ih =>
    have hrest : levelMentions (entry :: rest) = levelMentions rest := by
      obtain ⟨t, role⟩ := entry
      cases role with
      | option n value =>
        cases value with
        | none => exact (hname t n rfl).elim
        | some value => exact (hjoined t n value rfl).elim
      | _ => rfl
    rw [ih (Nat.le_of_succ_le_succ hfuel) h, hrest]

/-- Arguments are refused, or ask for help. -/
theorem read_ne_noLevel {roles : List (Text × Role)} {fuel : Nat} :
    d.read roles fuel ≠ .error .noLevel := by
  intro h
  fun_induction Draft.read d roles fuel with
  | case1 => cases h
  | case2 => cases h
  | case3 d t n value rest fuel ih =>
    rcases bind_eq_error h with h | ⟨d₁, -, h⟩
    · exact setJoined_ne_noLevel h
    · exact ih d₁ h
  | case4 => cases h
  | case5 d t n rest fuel taken next hlong ih =>
    rcases bind_eq_error h with h | ⟨d₁, -, h⟩
    · exact set_ne_noLevel h
    · exact ih d₁ h
  | case6 d entry rest fuel hjoined hname ih => exact ih h

/-! ## 4. Command lines -/

theorem roleOf_ne_noLevel (t : Text) : roleOf t ≠ .error .noLevel := by
  unfold roleOf
  split
  · split
    · nofun
    · dsimp only
      split
      · nofun
      · split <;> nofun
  · nofun

theorem classify_ne_noLevel : ∀ arguments : List Text, classify arguments ≠ .error .noLevel
  | [] => nofun
  | t :: ts => by
    unfold classify
    split
    · nofun
    · intro h
      rcases bind_eq_error h with h | ⟨r, -, h⟩
      · exact roleOf_ne_noLevel t h
      rcases bind_eq_error h with h | ⟨roles, -, h⟩
      · exact classify_ne_noLevel ts h
      · cases h

/-- A command line is accepted: it is not refused, and does not ask for help. -/
def Accepted (arguments : List String) : Prop :=
  Options.read arguments ≠ .error .refused ∧ Options.read arguments ≠ .error .help

/-- What is read is refused for want of an action or a level, and for arguments that belong to no
    option. -/
theorem read_of_draft {arguments : List String} {roles : List (Text × Role)}
    (hroles : classify (arguments.map String.toList) = .ok roles)
    (hread : Draft.read {} roles roles.length = .ok d) :
    Options.read arguments =
      if d.extra then .error .refused else
        match d.action, d.level with
        | none, _ => .error .refused
        | some _, .empty => .error .noLevel
        | some action, .value level =>
          .ok ⟨d.config, action, d.biome, d.origin, d.size, d.output, level⟩ := by
  unfold Options.read
  rw [hroles]
  change (Draft.read {} roles roles.length >>= _) = _
  rw [hread]
  change (if d.extra then _ else _) = _
  split
  · rfl
  · rcases d.action with _ | action <;> rcases d.level with level | _ <;> rfl

/-- The level is left empty if it is empty at the end. -/
theorem leavesLevelEmpty_iff {arguments : List String} {roles : List (Text × Role)}
    (hroles : classify (arguments.map String.toList) = .ok roles)
    (hread : Draft.read {} roles roles.length = .ok d) :
    LeavesLevelEmpty arguments ↔ d.level = .empty := by
  have hmentions : LeavesLevelEmpty arguments ↔
      (levelMentions roles).getLast? = some (some mark) := by
    unfold LeavesLevelEmpty
    rw [hroles]
    simp
  rw [hmentions, level_of_read (Nat.le_refl _) hread]
  unfold emptyAfter
  cases (levelMentions roles).getLast? with
  | none => simp
  | some value => simp

/-- **A command line that is accepted gives options, unless it leaves the level of the log
    empty.** -/
theorem accepted_cases {arguments : List String} (h : Accepted arguments) :
    (LeavesLevelEmpty arguments ∧ Options.read arguments = .error .noLevel) ∨
      (¬ LeavesLevelEmpty arguments ∧ ∃ o, Options.read arguments = .ok o) := by
  obtain ⟨hrefused, hhelp⟩ := h
  have hfails {e : Ending} (he : Options.read arguments = .error e) : e = .noLevel := by
    cases e with
    | refused => exact absurd he hrefused
    | help => exact absurd he hhelp
    | noLevel => rfl
  rcases hroles : classify (arguments.map String.toList) with e | roles
  · have he : Options.read arguments = .error e := by
      unfold Options.read
      rw [hroles]
      rfl
    rw [hfails he] at hroles
    exact absurd hroles (classify_ne_noLevel _)
  rcases hread : Draft.read {} roles roles.length with e | d
  · have he : Options.read arguments = .error e := by
      unfold Options.read
      rw [hroles]
      change (Draft.read {} roles roles.length >>= _) = _
      rw [hread]
      rfl
    rw [hfails he] at hread
    exact absurd hread read_ne_noLevel
  have hoptions := read_of_draft hroles hread
  have hempty := leavesLevelEmpty_iff hroles hread
  split at hoptions
  · exact absurd hoptions hrefused
  rcases hlevel : d.level with level | _ <;> rw [hlevel] at hoptions hempty <;>
    rcases haction : d.action with _ | action <;> rw [haction] at hoptions
  · exact absurd hoptions hrefused
  · exact .inr ⟨fun h => (nomatch hempty.1 h), _, hoptions⟩
  · exact absurd hoptions hrefused
  · exact .inl ⟨hempty.2 rfl, hoptions⟩

end Terrain.CommandLine
