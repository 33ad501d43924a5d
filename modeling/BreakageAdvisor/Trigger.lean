import BreakageAdvisor.Json.Value

/-!
# Triggers

Rules are kept apart by what triggers them: a tab that navigates, or a request that a page issues.
-/

namespace BreakageAdvisor

/-- What triggers a rule. -/
inductive Trigger where
  | tab | request
  deriving DecidableEq, Repr

namespace Trigger

/-- All triggers, in the order in which rules are loaded. -/
def all : List Trigger := [tab, request]

/-- The name of a trigger. -/
def name : Trigger → Text
  | tab => "tab"
  | request => "request"

/-- The trigger of a name. -/
def ofName? (t : Text) : Option Trigger := all.find? (·.name == t)

end Trigger

/-- A value for each trigger. -/
structure PerTrigger (α : Type) where
  tab : α
  request : α
  deriving Repr

namespace PerTrigger

variable {α β : Type}

/-- The value for a trigger. -/
def get (p : PerTrigger α) : Trigger → α
  | .tab => p.tab
  | .request => p.request

/-- Replaces the value for a trigger. -/
def set (p : PerTrigger α) (trigger : Trigger) (value : α) : PerTrigger α :=
  match trigger with
  | .tab => { p with tab := value }
  | .request => { p with request := value }

/-- Setting a trigger's value changes that value. -/
@[simp] theorem get_set_self (p : PerTrigger α) (t : Trigger) (v : α) : (p.set t v).get t = v := by
  cases t <;> rfl

/-- Setting a trigger's value changes no other. -/
theorem get_set_of_ne (p : PerTrigger α) {t u : Trigger} (v : α) (h : u ≠ t) :
    (p.set t v).get u = p.get u := by
  cases t <;> cases u <;> first | rfl | exact absurd rfl h

/-- Changes the value for every trigger. -/
def map (f : α → β) (p : PerTrigger α) : PerTrigger β := ⟨f p.tab, f p.request⟩

/-- The value for a trigger is changed. -/
@[simp] theorem get_map (f : α → β) (p : PerTrigger α) (t : Trigger) :
    (p.map f).get t = f (p.get t) := by
  cases t <;> rfl

/-- The same value for every trigger. -/
def both (value : α) : PerTrigger α := ⟨value, value⟩

end PerTrigger

end BreakageAdvisor
