import CertCatalog.Text.LetterCase

/-!
# Career goals

Certifications serve one or more of four career goals. A set of goals lists them in a fixed order.
-/

namespace CertCatalog

/-- A career path that a certification serves. -/
inductive Goal
  | blue
  | red
  | grc
  | cloud
  deriving DecidableEq, Repr

namespace Goal

/-- Every goal in display order. -/
def all : List Goal := [blue, red, grc, cloud]

/-- Name of a goal in queries and output. -/
def name : Goal → String
  | blue => "blue"
  | red => "red"
  | grc => "grc"
  | cloud => "cloud"

/-- Heading of a goal in grouped views. -/
def label : Goal → String
  | blue => "Blue Team / Defense"
  | red => "Red Team / Offense"
  | grc => "Governance, Risk & Compliance"
  | cloud => "Cloud Security"

/-- The goal with exactly this name. -/
def named? (s : String) : Option Goal := Text.named? all name s

/-- The goal of a name in any letter case. -/
def ofText? (s : String) : Option Goal := Text.looselyNamed? all name s

theorem mem_all (g : Goal) : g ∈ all := by cases g <;> decide

end Goal

/-- A set of goals. -/
structure GoalSet where
  blue : Bool
  red : Bool
  grc : Bool
  cloud : Bool
  deriving DecidableEq, Repr

namespace GoalSet

/-- The goals that satisfy a test. -/
def ofPred (p : Goal → Bool) : GoalSet := ⟨p .blue, p .red, p .grc, p .cloud⟩

/-- The goals of a list. -/
def ofList (goals : List Goal) : GoalSet := ofPred fun g ↦ goals.contains g

/-- A goal belongs to a set. -/
def contains (s : GoalSet) : Goal → Bool
  | .blue => s.blue
  | .red => s.red
  | .grc => s.grc
  | .cloud => s.cloud

/-- The set without goals. -/
def empty : GoalSet := ofPred fun _ ↦ false

/-- The set of one goal. -/
def singleton (g : Goal) : GoalSet := ofPred fun h ↦ h == g

/-- The goals of either set. -/
def union (s t : GoalSet) : GoalSet := ofPred fun g ↦ s.contains g || t.contains g

/-- The goals of a set in display order. -/
def toList (s : GoalSet) : List Goal := Goal.all.filter s.contains

@[simp] theorem contains_ofPred (p : Goal → Bool) (g : Goal) : (ofPred p).contains g = p g := by
  cases g <;> rfl

@[ext] theorem ext {s t : GoalSet} (h : ∀ g, s.contains g = t.contains g) : s = t := by
  cases s
  cases t
  simp only [GoalSet.mk.injEq]
  exact ⟨h .blue, h .red, h .grc, h .cloud⟩

end GoalSet
end CertCatalog
