import Terrain.Formula.Fault
import Terrain.Json.Document
import Terrain.Text.Utf8
import Terrain.Value.Require

/-!
# What can be wrong with a profile

A profile is refused for a `Fault`, reported with its place. Two mistakes are no faults of a
profile but end the whole load they occur in (`Abort`): a whole number with too many digits, and
one that is too large for a double.
-/

namespace Terrain.Profile

/-- Why a profile is refused. -/
inductive Fault where
  | unreadable (problem : String)
  | notText (r : Text.Utf8.Refusal)
  | json (what : Json.Complaint) (place : Text.Place)
  | jsonTooDeep
  | notMap (found : Value.Form)
  | lack (l : Value.Lack)
  | samplerNotMap (found : Value.Form)
  | fieldTwice (name : String)
  | samplerType (type : String)
  | formula (f : Formula.Fault)
  deriving DecidableEq, Repr

/-- The kind of mistake a fault is. -/
def Fault.kind : Fault → Report.Kind
  | .samplerType _ => .instruction
  | .formula f => f.kind
  | _ => .malformed

/-- The fault in words. -/
def Fault.message : Fault → String
  | .unreadable problem => "Could not read profile: " ++ problem
  | .notText r => "Profile is not valid UTF-8: " ++ r.message
  | .json what place => "Invalid JSON: " ++ what.at place
  | .jsonTooDeep => "Invalid JSON: document nested too deeply"
  | .notMap found => "Profile document must be an object, got " ++ found.name
  | .lack l => l.message
  | .samplerNotMap found => "Sampler entries must be objects, got " ++ found.name
  | .fieldTwice name => "Sampler field '" ++ name ++ "' is declared twice"
  | .samplerType type =>
    "Sampler type '" ++ type ++ "' is not supported, expected one of Simplex, Formula"
  | .formula f => f.message

/-- A fault and its place. -/
structure Refusal where
  fault : Fault
  site : Report.Site
  deriving DecidableEq, Repr

/-- A fault whose place is not known yet. -/
def Fault.somewhere (f : Fault) : Refusal := ⟨f, .unknown⟩

/-- The refusal with a file and a field filled in where they are not known yet. -/
def Refusal.within (r : Refusal) (file field : Option String) : Refusal :=
  { r with site := r.site.within file field }

/-- The report of a refusal. -/
def Refusal.report (r : Refusal) : Report := ⟨r.fault.kind, r.fault.message, r.site⟩

/-- The refusal of a formula, whose place is not known but for the formula. -/
def ofFormula (r : Formula.Refusal) : Refusal :=
  ⟨.formula r.fault, ⟨none, none, some r.formula⟩⟩

/-- What ends a load altogether. -/
inductive Abort where
  | tooManyDigits (count : Nat)
  | tooLarge
  deriving DecidableEq, Repr

/-- The abort in words. -/
def Abort.message : Abort → String
  | .tooManyDigits n => (Number.NumeralRefusal.tooManyDigits n).message
  | .tooLarge => "int too large to convert to float"

/-- Why a profile is not compiled. -/
inductive Failure where
  | refused (r : Refusal)
  | aborted (a : Abort)
  deriving DecidableEq, Repr

/-- The failure with a file and a field filled in where they are not known yet. -/
def Failure.within (f : Failure) (file field : Option String) : Failure :=
  match f with
  | .refused r => .refused (r.within file field)
  | .aborted a => .aborted a

end Terrain.Profile
