import MacAgent.Value.Entry

/-! # Events

What the management plane tells an agent. Events wait in a queue and are delivered one at a time. -/

namespace MacAgent

/-- A lifecycle, configuration or table event. -/
inductive Event where
  /-- The agent's view of the device is in sync; it may start to work. -/
  | initialized
  | enabled (on : Bool)
  /-- An option changed; the empty value says that it was removed. -/
  | option (key value : String)
  /-- A watched entry was installed or changed. -/
  | entrySet (entry : Entry)
  | entryDeleted (key : Key)
deriving DecidableEq

def Event.kind : Event → String
  | initialized => "initialized"
  | enabled _ => "agent_enabled"
  | option .. => "agent_option"
  | entrySet _ => "mac_entry_set"
  | entryDeleted _ => "mac_entry_del"

end MacAgent
