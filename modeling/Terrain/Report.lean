import Terrain.Named
import Terrain.Text.Quoted

/-!
# Reports of what is wrong with a profile

A profile that cannot be used is reported with a message, the kind of mistake, and where it was
made as far as that is known: the file, the field or key, and the piece of the formula.

* Kinds are ordered from the special to the general (`Kind.lineage`).
* Places are filled in from the inside out: what is known first stays (`Site.within`).
-/

namespace Terrain
namespace Report

/-! ## 1. Kinds of mistakes -/

/-- Kinds of mistakes in profiles. -/
inductive Kind where
  | config
  | malformed
  | callForm
  | symbol
  | instruction
  | reference
  deriving DecidableEq, Repr

/-- The kind that a kind is a case of. -/
def Kind.parent? : Kind → Option Kind
  | .config => none
  | .callForm => some .malformed
  | _ => some .config

/-- A kind and all it is a case of, the special ones first. -/
def Kind.lineage : Kind → List Kind
  | .config => [.config]
  | .malformed => [.malformed, .config]
  | .callForm => [.callForm, .malformed, .config]
  | k => [k, .config]

/-- A lineage starts with the kind and goes on with its parent's. -/
theorem Kind.lineage_eq (k : Kind) :
    k.lineage = k :: (k.parent?.map Kind.lineage).getD [] := by
  cases k <;> rfl

/-! ## 2. Places -/

/-- Where a mistake was made, as far as it is known. -/
structure Site where
  file : Option String
  field : Option String
  formula : Option Text
  deriving DecidableEq, Repr

/-- Nothing is known of the place. -/
def Site.unknown : Site := ⟨none, none, none⟩

/-- The site with a file and a field filled in where they are not known yet. -/
def Site.within (s : Site) (file field : Option String) : Site :=
  ⟨s.file.or file, s.field.or field, s.formula⟩

/-- The parts of a site that are known, as they are told. -/
def Site.parts (s : Site) : List String :=
  (s.file.map ("file=" ++ ·)).toList ++ (s.field.map ("field=" ++ ·)).toList ++
    (s.formula.map fun f => "formula=" ++ String.ofList (Text.quoted f)).toList

/-- What is known stays. -/
@[simp] theorem Site.within_file_some (s : Site) (f : String) (file field : Option String)
    (h : s.file = some f) : (s.within file field).file = some f := by
  simp [Site.within, h]

@[simp] theorem Site.within_field_some (s : Site) (f : String) (file field : Option String)
    (h : s.field = some f) : (s.within file field).field = some f := by
  simp [Site.within, h]

@[simp] theorem Site.within_formula (s : Site) (file field : Option String) :
    (s.within file field).formula = s.formula := rfl

/-! ## 3. Reports -/

end Report

/-- A report: what kind of mistake, the message, and the place. -/
structure Report where
  kind : Report.Kind
  message : String
  site : Report.Site
  deriving DecidableEq, Repr

/-- The report with a file and a field filled in where they are not known yet. -/
def Report.within (r : Report) (file field : Option String) : Report :=
  { r with site := r.site.within file field }

/-- The report in one line: the message, and the place in parentheses if any of it is known. -/
def Report.text (r : Report) : String :=
  match r.site.parts with
  | [] => r.message
  | ps => r.message ++ " (" ++ String.intercalate ", " ps ++ ")"

/-! ## 4. Reports of many files -/

namespace Report

/-- The reports of the files that failed, a line each, in the order of their names. -/
def listing (failures : Named Report) : String :=
  String.intercalate "\n"
    ((toString failures.length ++ " biome profile(s) failed to load:") ::
      failures.sorted.map fun e => "  " ++ e.1 ++ ": " ++ e.2.text)

end Report
end Terrain
