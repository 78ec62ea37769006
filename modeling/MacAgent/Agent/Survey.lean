import MacAgent.Agent.Publish
import MacAgent.Cursor.Bridge

/-! # Survey of the MAC table

A survey walks over the keys of the table, looks up the entry for each and publishes it. A key whose
entry has gone, or whose lookup fails without being fatal, is left out. -/

namespace MacAgent

namespace Plane

variable {σ : Type} (plane : Plane σ)

/-- Looks up one key and, if there is an entry, publishes it and adds it to those seen. -/
def surveyKey (seen : List (Key × Entry)) (k : Key) : PlaneM σ (List (Key × Entry)) := do
  match ← attempt (plane.lookup k) with
  | .ok (some e) =>
    plane.publishEntry e
    return seen ++ [(k, e)]
  | .ok none => return seen
  | .error fault => if fault.isFatal then throw fault else return seen

/-- Publishes every entry of the table and returns what was published, in the order of the keys. -/
def survey (bridge : Bridge) : PlaneM σ (List (Key × Entry)) := do
  plane.traverse bridge .table Key.isEmpty (← plane.keys) plane.surveyKey []

end Plane

end MacAgent
