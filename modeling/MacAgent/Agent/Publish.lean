import MacAgent.Plane.Basic

/-! # Published status

The status keys that an agent writes, and the texts it writes under them. A write replaces the last
value of its key; there is no second attempt. -/

namespace MacAgent

namespace StatusKey

def greeting : String := "greeting"

/-- The key of the summary of the last installation of the examples. -/
def installed : String := "mac_set"

/-- The key of the summary of the last clearing of the table. -/
def cleared : String := "mac_clear"

end StatusKey

namespace Greeting

/-- Shown while there is no name to greet. -/
def prompt : String := "Welcome! What is your name?"

def goodbye : String := "Goodbye!"

def farewell : String := "Adios!"

def hello (name : String) : String := "Hello " ++ name ++ "!"

end Greeting

namespace Plane

variable {σ : Type} (plane : Plane σ)

def publishGreeting (value : String) : PlaneM σ Unit :=
  plane.publish StatusKey.greeting value

/-- Publishes an entry under the canonical form of its key. -/
def publishEntry (e : Entry) : PlaneM σ Unit :=
  plane.publish e.key.render e.render

end Plane

end MacAgent
