import Terrain.Log
import Terrain.Number.Numeral
import Terrain.Path
import Terrain.Voxel

/-!
# The options of the command line

The command line is a list of options, each a name with two dashes and its values.

* A name may be shortened as long as only one option starts with it. A single value may follow its
  name after an equals sign, or be the next argument.
* Arguments that start with a dash are names, except negative numbers, those with a blank in them,
  and all after two dashes alone (`classify`).
* Two dashes after the equals sign are no value: the option is given and left empty (`Given`).
* An option given again counts as given last. The action must be given; there are no arguments
  besides the options and their values.
* Names are looked at before values, and values in the order in which they are given; asking for
  help ends the reading there.
-/

namespace Terrain.CommandLine

/-! ## 1. What can be asked for -/

/-- What the program does. -/
inductive Action where
  | list
  | validate
  | sample
  deriving DecidableEq, Repr

/-- The name of an action. -/
def Action.name : Action → String
  | .list => "list"
  | .validate => "validate"
  | .sample => "sample"

/-- All actions. -/
def Action.all : List Action := [.list, .validate, .sample]

/-- The value of an option that is given: a value, or none at all. -/
inductive Given (α : Type) where
  | value (a : α)
  | empty
  deriving DecidableEq, Repr

/-- The value, if there is one. -/
def Given.value? {α : Type} : Given α → Option α
  | .value a => some a
  | .empty => none

/-- The name of the action that was asked for; an empty list of names where none was. -/
def Given.actionName : Given Action → String
  | .value a => a.name
  | .empty => "[]"

/-- The values of all options. A biome that is left empty is none, and the log cannot be shown
    without a level. -/
structure Options where
  config : Given Path
  action : Given Action
  biome : Option String
  origin : Position
  size : Given Int
  output : Option (Given Path)
  level : Log.Level
  deriving DecidableEq, Repr

/-- The options. -/
inductive Name where
  | help
  | config
  | action
  | biome
  | origin
  | size
  | output
  | level
  deriving DecidableEq, Repr

/-- What the options are called. -/
def names : List (String × Name) :=
  [("-h", .help), ("--help", .help), ("--config", .config), ("--action", .action),
   ("--biome", .biome), ("--origin", .origin), ("--size", .size), ("--output", .output),
   ("--log-level", .level)]

/-- The number of values of an option. -/
def Name.arity : Name → Nat
  | .help => 0
  | .origin => 3
  | _ => 1

/-- How the reading ends without options: they are refused, help is asked for, or no level of the
    log is given. -/
inductive Ending where
  | refused
  | help
  | noLevel
  deriving DecidableEq, Repr

/-! ## 2. What an argument is -/

/-- What an argument is: the name of an option, perhaps with a value; the name of no option; a
    value; or the mark after which all are values. -/
inductive Role where
  | option (n : Name) (value : Option Text)
  | unknown
  | value
  | mark
  deriving DecidableEq, Repr

/-- The mark after which no option is named. -/
def mark : Text := ['-', '-']

/-- The text before the first equals sign, and what follows it if there is one. -/
def splitEquals (t : Text) : Text × Option Text :=
  (t.takeWhile (· ≠ '='), match t.dropWhile (· ≠ '=') with | [] => none | _ :: r => some r)

/-- The option of a full name. -/
def named? (t : Text) : Option Name := (names.find? (·.1.toList == t)).map (·.2)

/-- The options whose names start with a text. -/
def startingWith (t : Text) : List Name :=
  (names.filter fun n => t.isPrefixOf n.1.toList).map (·.2)

/-- Whether a text is empty or one line end. -/
def isEnd (t : Text) : Bool := t == [] || t == ['\n']

/-- Whether an argument is a negative number: a dash and digits, with at most one point, which
    digits must follow. A line end may follow the number. -/
def isNegativeNumber (t : Text) : Bool :=
  match t with
  | '-' :: r =>
    let whole := r.takeWhile Text.isDigit
    match r.dropWhile Text.isDigit with
    | '.' :: f => !(f.takeWhile Text.isDigit).isEmpty && isEnd (f.dropWhile Text.isDigit)
    | rest => !whole.isEmpty && isEnd rest
  | _ => false

/-- The options an argument that starts with a dash may mean, with a value it carries. After one
    dash a value may follow the letter at once. -/
def meanings (t : Text) : List (Name × Option Text) :=
  match t with
  | '-' :: '-' :: _ =>
    let (name, value) := splitEquals t
    (startingWith name).map fun n => (n, value)
  | '-' :: c :: r =>
    names.filterMap fun n =>
      if n.1.toList == ['-', c] then some (n.2, some r)
      else if t.isPrefixOf n.1.toList then some (n.2, none)
      else none
  | _ => []

/-- The role of one argument. -/
def roleOf (t : Text) : Except Ending Role :=
  match t with
  | '-' :: _ :: _ =>
    match named? t with
    | some n => .ok (.option n none)
    | none =>
      let (name, value) := splitEquals t
      match value.bind fun v => (named? name).map fun n => (n, v) with
      | some (n, v) => .ok (.option n (some v))
      | none =>
        match meanings t with
        | [(n, v)] => .ok (.option n v)
        | _ :: _ :: _ => .error .refused
        | [] => .ok (if isNegativeNumber t || t.contains ' ' then .value else .unknown)
  | _ => .ok .value

/-- The roles of all arguments; after two dashes alone all are values. -/
def classify : List Text → Except Ending (List (Text × Role))
  | [] => .ok []
  | t :: ts =>
    if t = mark then .ok ((t, .mark) :: ts.map fun t => (t, .value))
    else do
      let r ← roleOf t
      return (t, r) :: (← classify ts)

/-! ## 3. The values of options -/

/-- What is known of the options so far. -/
structure Draft where
  config : Given Path := .value (.ofString "config.yaml")
  action : Option (Given Action) := none
  biome : Option String := none
  origin : Position := ⟨0, 0, 0⟩
  size : Given Int := .value 16
  output : Option (Given Path) := none
  level : Given Log.Level := .value .info
  extra : Bool := false

/-- A whole number among the values. -/
def whole (t : Text) : Except Ending Int :=
  match Number.integer? t with
  | .ok n => .ok n
  | .error _ => .error .refused

/-- The options with the values of one of them. -/
def Draft.set (d : Draft) (n : Name) (values : List Text) : Except Ending Draft := do
  match n, values with
  | .help, [] => throw .help
  | .config, [t] => return { d with config := .value (.ofText t) }
  | .action, [t] =>
    match Action.all.find? (·.name.toList == t) with
    | some a => return { d with action := some (.value a) }
    | none => throw .refused
  | .biome, [t] => return { d with biome := some (String.ofList t) }
  | .origin, [x, y, z] => return { d with origin := ⟨← whole x, ← whole y, ← whole z⟩ }
  | .size, [t] => return { d with size := .value (← whole t) }
  | .output, [t] => return { d with output := some (.value (.ofText t)) }
  | .level, [t] =>
    match Log.Level.all.find? (·.name.toList == t) with
    | some l => return { d with level := .value l }
    | none => throw .refused
  | _, _ => throw .refused

/-- The options with one of them left empty. -/
def Draft.leaveEmpty (d : Draft) : Name → Except Ending Draft
  | .config => .ok { d with config := .empty }
  | .action => .ok { d with action := some .empty }
  | .biome => .ok { d with biome := none }
  | .size => .ok { d with size := .empty }
  | .output => .ok { d with output := some .empty }
  | .level => .ok { d with level := .empty }
  | .help | .origin => .error .refused

/-- A value that follows its option's name at once. The option without values takes none, but
    after one dash its letter may be written again and again. -/
def Draft.setJoined (d : Draft) (written : Text) (n : Name) (value : Text) :
    Except Ending Draft :=
  if n.arity = 0 then
    if mark.isPrefixOf written || value.isEmpty || !value.all (· = 'h') then .error .refused
    else .error .help
  else if value = mark then d.leaveEmpty n
  else d.set n [value]

/-- Reads the arguments: an option takes as many values as it has from those that follow it. -/
def Draft.read (d : Draft) : List (Text × Role) → Nat → Except Ending Draft
  | [], _ => .ok d
  | _, 0 => .ok d
  | (t, .option n (some v)) :: rest, fuel + 1 => do (← d.setJoined t n v).read rest fuel
  | (_, .option n none) :: rest, fuel + 1 => do
    let taken := rest.take n.arity
    if taken.length < n.arity ∨ !(taken.all (·.2 == .value)) then throw .refused
    (← d.set n (taken.map (·.1))).read (rest.drop n.arity) fuel
  | _ :: rest, fuel + 1 => { d with extra := true }.read rest fuel

/-- The options of a command line. -/
def Options.read (arguments : List String) : Except Ending Options := do
  let roles ← classify (arguments.map String.toList)
  let d ← Draft.read {} roles roles.length
  if d.extra then throw .refused
  match d.action, d.level with
  | none, _ => throw .refused
  | _, .empty => throw .noLevel
  | some action, .value level =>
    return ⟨d.config, action, d.biome, d.origin, d.size, d.output, level⟩

end Terrain.CommandLine
