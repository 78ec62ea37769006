import MacAgent.Agent.Publish
import MacAgent.Cursor.Bridge

/-! # Batches of table changes

A batch makes one change per key. It goes on after a change that fails and reports the failures;
only a fatal fault ends it. -/

namespace MacAgent

structure Report where
  total : Nat := 0
  /-- The keys whose change failed, in order, each with the reason. -/
  failed : List (Key × String) := []
deriving DecidableEq

namespace Report

/-- Whether a report counts each failure among the changes that were tried. -/
def IsSound (r : Report) : Prop := r.failed.length ≤ r.total

instance (r : Report) : Decidable r.IsSound := inferInstanceAs (Decidable (_ ≤ _))

/-- The report with these counts, unless it would have more failures than changes. -/
def ofCounts? (total : Nat) (failed : List (Key × String)) : Option Report :=
  let r : Report := { total, failed }
  if r.IsSound then some r else none

def done (r : Report) : Nat := r.total - r.failed.length

/-- One line about the batch, whose changes are named by `verb`. -/
def summary (verb : String) (r : Report) : String :=
  verb ++ " " ++ toString r.done ++ " of " ++ toString r.total ++ " entries" ++
    (if r.failed.isEmpty then "" else " (" ++ toString r.failed.length ++ " failed)")

def installSummary (r : Report) : String := r.summary "installed"

def clearSummary (r : Report) : String := r.summary "cleared"

end Report

/-- The example bindings. The first key occurs twice; binding it again changes nothing. -/
def exampleBindings : List (Key × Interface) :=
  let first : Key := ⟨1, ⟨[0x00, 0x00, 0x11, 0x11, 0x22, 0x22], rfl⟩⟩
  let second : Key := ⟨1, ⟨[0x00, 0x00, 0x11, 0x11, 0x22, 0x21], rfl⟩⟩
  let interface : Interface := ⟨"Ethernet1", by decide⟩
  [(first, interface), (second, interface), (first, interface)]

variable {σ : Type}

/-- Makes one change of a batch and adds it to the report. -/
def batchStep (change : PlaneM σ Unit) (k : Key) (r : Report) : PlaneM σ Report := do
  match ← attempt change with
  | .ok () => return { r with total := r.total + 1 }
  | .error fault =>
    if fault.isFatal then throw fault
    else return { total := r.total + 1, failed := r.failed ++ [(k, fault.message)] }

namespace Plane

variable (plane : Plane σ)

def bind (k : Key) (i : Interface) : PlaneM σ Unit :=
  plane.install (.unicast k i)

def bindAll (bindings : List (Key × Interface)) : PlaneM σ Report :=
  bindings.foldlM (fun r (k, i) => batchStep (plane.bind k i) k r) {}

def bindExamples : PlaneM σ Report :=
  plane.bindAll exampleBindings

/-- Deletes every entry whose key a fresh cursor gives. -/
def clearAll (bridge : Bridge) : PlaneM σ Report := do
  plane.traverse bridge .table Key.isEmpty (← plane.keys)
    (fun r k => batchStep (plane.delete k) k r) {}

end Plane

end MacAgent
