import GuidelineCompliance.Text.Blank

/-! Guidelines and what a run finds out about each. The id and the category of a guideline come
from the reference document and never change; its standing is what the recategorization plan, the
violations and the deviations make of it. -/

namespace GuidelineCompliance

inductive Category where
  | mandatory
  | required
  | advisory
  | disapplied
  | unknown
  deriving DecidableEq, Repr, Inhabited

namespace Category

def name : Category → String
  | mandatory => "Mandatory"
  | required => "Required"
  | advisory => "Advisory"
  | disapplied => "Disapplied"
  | unknown => "Unknown"

/-- The category that a word names, in full or by its short form and in any letter case. -/
def ofToken (token : String) : Category :=
  match (Text.trim token).map Char.toUpper with
  | "MANDATORY" => mandatory
  | "MAND" => mandatory
  | "REQUIRED" => required
  | "REQ" => required
  | "ADVISORY" => advisory
  | "ADV" => advisory
  | "DISAPPLIED" => disapplied
  | "DIS" => disapplied
  | _ => unknown

/-- A plan may not weaken a protected guideline: a mandatory one stays mandatory, and a required
one becomes neither advisory nor disapplied. -/
def canBecome : Category → Category → Bool
  | mandatory, new => new = mandatory
  | required, new => new ≠ advisory && new ≠ disapplied
  | _, _ => true

/-- Violations of a guideline of this category stand against the code. -/
def isBinding (c : Category) : Bool := c = required || c = mandatory

end Category

inductive Status where
  | compliant
  | violations
  | deviations
  | disapplied
  deriving DecidableEq, Repr, Inhabited

def Status.name : Status → String
  | compliant => "Compliant"
  | violations => "Violations"
  | deviations => "Deviations"
  | disapplied => "Disapplied"

structure Deviation where
  reference : Option String := none
  link : Option String := none
  deriving DecidableEq, Repr, Inhabited

structure Standing where
  recategorization : Option Category := none
  status : Status := .compliant
  deviations : List Deviation := []
  deriving DecidableEq, Repr, Inhabited

inductive DeviationOutcome where
  | recorded
  | violationsStand
  | disapplied
  deriving DecidableEq, Repr

namespace Standing

def isDisapplied (s : Standing) : Bool := s.recategorization = some .disapplied

/-- A plan line for the guideline. Disapplying a guideline also fixes its status. -/
def recategorize (s : Standing) (new : Category) : Standing :=
  { s with
    recategorization := some new
    status := if new = .disapplied then .disapplied else s.status }

/-- Set the status, which has no effect on a disapplied guideline. -/
def setStatus (s : Standing) (status : Status) : Standing :=
  if s.isDisapplied then s else { s with status }

def recordViolation (s : Standing) : Standing :=
  { s with status := if s.isDisapplied then .disapplied else .violations }

def deviationOutcome (s : Standing) : DeviationOutcome :=
  if s.isDisapplied then .disapplied
  else if s.status = .violations then .violationsStand
  else .recorded

/-- A deviation is recorded unless the guideline is disapplied or has violations. -/
def recordDeviation (s : Standing) (d : Deviation) : Standing :=
  match s.deviationOutcome with
  | .disapplied => { s with status := .disapplied }
  | .violationsStand => s
  | .recorded => { s with status := .deviations, deviations := s.deviations ++ [d] }

end Standing

structure Guideline where
  id : String
  category : Category
  standing : Standing := {}
  deriving DecidableEq, Repr, Inhabited

namespace Guideline

def status (g : Guideline) : Status := g.standing.status

def isDisapplied (g : Guideline) : Bool := g.standing.isDisapplied

/-- The category that counts: the one of the plan, or else the one of the reference document. -/
def activeCategory (g : Guideline) : Category :=
  g.standing.recategorization.getD g.category

def isCompliant (g : Guideline) : Bool :=
  !(g.status = .violations && g.activeCategory.isBinding)

def update (g : Guideline) (f : Standing → Standing) : Guideline :=
  { g with standing := f g.standing }

@[simp] theorem id_update (g : Guideline) (f : Standing → Standing) : (g.update f).id = g.id :=
  rfl

@[simp] theorem category_update (g : Guideline) (f : Standing → Standing) :
    (g.update f).category = g.category := rfl

end Guideline

end GuidelineCompliance
