import MacAgent.Config.Basic
import MacAgent.Json.Basic
import MacAgent.Value.Entry

/-! # Values as JSON

Addresses and interfaces are strings in their canonical form; keys, entries and configurations are
objects with one field per part. -/

namespace MacAgent

def Address.toJson (a : Address) : Json := .string a.render

def Interface.toJson (i : Interface) : Json := .string i.name

def Key.toJson (k : Key) : Json :=
  .object [("eth_addr", k.address.toJson), ("vlan_id", .integer k.vlan.toNat)]

def Entry.toJson (e : Entry) : Json :=
  .object [("intfs", .array (e.interfaces.toList.map Interface.toJson)), ("key", e.key.toJson)]

def Bridge.toJson (b : Bridge) : Json := .string b.name

def Config.toJson (c : Config) : Json :=
  .object [("cursor_bridge", c.bridge.toJson), ("tracer_name", .string c.tracerName),
    ("watch_all_mac_entries", .bool c.watchAll)]

end MacAgent
