import MacAgent.Memory.Board
import MacAgent.Value.Entry

/-! # Checks of the board

What a test expects an agent to have published. A check stops at the first expectation that is not
met. -/

namespace MacAgent

inductive Mismatch where
  | missing (key : String)
  | unexpected (key value : String)
  | differs (key expected actual : String)
  /-- There is another number of `what` than expected. -/
  | count (what : String) (expected actual : Nat)
deriving DecidableEq, Repr

def Mismatch.message : Mismatch → String
  | missing key => "Expected status key '" ++ key ++ "' not found"
  | unexpected key value =>
    "Status key '" ++ key ++ "' unexpectedly present with value '" ++ value ++ "'"
  | differs key expected actual =>
    "Value mismatch for status '" ++ key ++ "': expected '" ++ expected ++ "', got '" ++ actual ++
      "'"
  | count what expected actual =>
    "Expected " ++ toString expected ++ " " ++ what ++ ", found " ++ toString actual

namespace Board

variable (b : Board)

def expect (key value : String) : Except Mismatch Unit :=
  match b.status[key]? with
  | none => .error (.missing key)
  | some actual => if actual = value then .ok () else .error (.differs key value actual)

def expectAbsent (key : String) : Except Mismatch Unit :=
  match b.status[key]? with
  | none => .ok ()
  | some value => .error (.unexpected key value)

def expectEntries (entries : List Entry) : Except Mismatch Unit :=
  entries.forM fun e => b.expect e.key.render e.render

def expectNumber (what : String) (expected actual : Nat) : Except Mismatch Unit :=
  if expected = actual then .ok () else .error (.count what expected actual)

/-- So many keys have been published. -/
def expectKeys (n : Nat) : Except Mismatch Unit :=
  expectNumber "status keys" n b.status.size

/-- So many values have been published, those that were replaced included. -/
def expectWrites (n : Nat) : Except Mismatch Unit :=
  expectNumber "status writes" n b.writes.length

/-- The agent has acknowledged its shutdown so many times. -/
def expectAcks (n : Nat) : Except Mismatch Unit :=
  expectNumber "shutdown acks" n b.acks

end Board

end MacAgent
