import Terrain.Report

/-!
# What can be wrong with a formula

There are four kinds of formulas, by what they answer. A formula is refused for a `Fault`; the
kind of the fault and its words are functions of it.
-/

namespace Terrain.Formula

/-- What a formula answers: a number, a truth value, the id of a voxel type, or a shape. -/
inductive Kind where
  | number
  | boolean
  | voxel
  | shape
  deriving DecidableEq, Repr

/-- The kind in words. -/
def Kind.label : Kind → String
  | .number => "number"
  | .boolean => "boolean"
  | .voxel => "voxel type"
  | .shape => "voxel shape"

/-- Why a formula is refused. -/
inductive Fault where
  | empty
  | unclosed
  | trailing (extra : Text)
  | arity (name : Text) (takes given : Nat)
  | tooDeep
  | unknownSymbol (name : Text)
  | unknownShape (name : Text)
  | unknownVoxel (name : Text)
  | notCall (kind : Kind) (text : Text)
  | unsupported (kind : Kind) (name : Text)
  deriving DecidableEq, Repr

/-- The kind of mistake a fault is. -/
def Fault.kind : Fault → Report.Kind
  | .empty | .unclosed | .trailing _ | .arity .. | .tooDeep => .callForm
  | .unknownSymbol _ => .symbol
  | .unknownShape _ | .unknownVoxel _ => .reference
  | .notCall .. | .unsupported .. => .instruction

/-- A text between apostrophes, as it is. -/
def named (t : Text) : String := "'" ++ String.ofList t ++ "'"

/-- The fault in words. -/
def Fault.message : Fault → String
  | .empty => "Empty formula"
  | .unclosed => "Call is missing its closing parenthesis"
  | .trailing extra => "Unexpected text " ++ named extra ++ " after closing parenthesis"
  | .arity name takes given =>
    "Instruction " ++ named name ++ " takes " ++ toString takes ++ " argument(s), got " ++
      toString given
  | .tooDeep => "Formula nested too deeply"
  | .unknownSymbol name =>
    "Unknown symbol " ++ named name ++ ": not a number, sampler field or context value"
  | .unknownShape name =>
    "Shape " ++ named name ++ " is not defined, expected one of CUBE, SLAB"
  | .unknownVoxel name => "Voxel type " ++ named name ++ " is not registered"
  | .notCall kind text =>
    kind.label.capitalize ++ " formulas must be a call, got " ++ named text
  | .unsupported kind name =>
    "Instruction " ++ named name ++ " is not supported for " ++ kind.label ++ " formulas"

/-- A fault, and the piece of the formula it was found in. -/
structure Refusal where
  fault : Fault
  formula : Text
  deriving DecidableEq, Repr

/-- The most characters of a formula that a report of its depth shows. -/
def shownLength : Nat := 80

/-- The start of a formula, for the report that it is nested too deeply. -/
def shownStart (t : Text) : Text :=
  if shownLength < t.length then t.take shownLength ++ "...".toList else t

/-- The refusal of a formula that is nested too deeply. -/
def Refusal.nesting (t : Text) : Refusal := ⟨.tooDeep, shownStart t⟩

/-- The report of a refusal; where the formula stands is not known yet. -/
def Refusal.report (r : Refusal) : Report :=
  ⟨r.fault.kind, r.fault.message, ⟨none, none, some r.formula⟩⟩

end Terrain.Formula
