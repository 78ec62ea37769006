import MacAgent.Value.Key

/-! # Faults of the management plane

A call on the management plane can fail. Only a lost connection is fatal: the agent cannot go on
after it. All other faults concern one call. -/

namespace MacAgent

/-- Why a call on the management plane failed. -/
inductive Fault where
  /-- The plane is gone. -/
  | disconnected (operation : String)
  /-- The table does not accept an entry for the key. -/
  | invalidEntry (key : Key) (reason : String)
  | entryNotFound (key : Key)
  | rejected (operation message : String)
  | format (error : FormatError)
  | spawn (name message : String)
  /-- The plane is in a state that should not occur. -/
  | internal (message : String)
deriving DecidableEq, Repr

namespace Fault

/-- Whether the agent has to stop after this fault. -/
def isFatal : Fault → Bool
  | disconnected _ => true
  | _ => false

def message : Fault → String
  | disconnected operation => "Management plane disconnected: " ++ operation
  | invalidEntry key reason => "Invalid MAC entry " ++ key.render ++ ": " ++ reason
  | entryNotFound key => "MAC entry not found: " ++ key.render
  | rejected operation message => "Operation rejected: " ++ operation ++ ": " ++ message
  | format error => error.message
  | spawn name message => "Failed to spawn " ++ name ++ ": " ++ message
  | internal message => "Internal error: " ++ message

end Fault

end MacAgent
