import Mathlib.Data.List.Induction
import MacAgent.Proofs.Cursor.Feed
import MacAgent.Proofs.Memory.Changes

/-! # The table in memory is an ordered map

Whatever happens to a plane in memory, its table is a map in the order in which the keys came in, and a
call that fails changes nothing. A reader of the keys gives those that the table held when the reader
was made, whatever happens to the plane between its calls. -/

namespace MacAgent

/-- A plane in memory, a reader of keys, and what the reader's calls have given so far. -/
structure Scan where
  memory : Memory
  feed : Feed Key
  replies : List (Option Key) := []

namespace Scan

/-- What comes next: something happens to the plane, or the reader is called. -/
inductive Move where
  | operate (op : Memory.Operation)
  | next (lead : Nat)

def Move.isCall : Move → Bool
  | operate _ => false
  | next _ => true

def start (bridge : Bridge) (keys : List Key) (m : Memory) : Scan :=
  { memory := m, feed := .start bridge Key.isEmpty keys }

def move (s : Scan) : Move → Scan
  | .operate op => { s with memory := s.memory.perform op }
  | .next lead =>
    { s with feed := (s.feed.next lead).2, replies := s.replies ++ [(s.feed.next lead).1] }

def run (s : Scan) (moves : List Move) : Scan := moves.foldl move s

/-- Call `i` has given key `i`, if that comes before the first empty key. -/
def Tells (keys : List Key) (n : Nat) (s : Scan) : Prop :=
  s.replies = (List.range n).map fun i => (keys.takeWhile (!·.isEmpty))[i]?

theorem run_tells (bridge : Bridge) (keys : List Key) (m : Memory) (moves : List Move) :
    ((start bridge keys m).run moves).feed.HasAnswered keys Key.isEmpty (moves.countP Move.isCall) ∧
      ((start bridge keys m).run moves).Tells keys (moves.countP Move.isCall) := by
  induction moves using List.reverseRecOn with
  | nil => exact Feed.start_hasReplied bridge
  | append_singleton moves mv ih =>
    have last : (start bridge keys m).run (moves ++ [mv]) = ((start bridge keys m).run moves).move mv := by
      simp only [run, List.foldl_concat]
    rw [last, List.countP_append]
    cases mv with
    | operate op => exact ih
    | next lead => exact Feed.HasReplied.next rfl ih lead

end Scan

namespace Memory

variable {m m' : Memory} {e : Entry} {k : Key}

theorem lookup_answer (reached : m.table.connected = true) (k : Key) :
    m.answer (.lookup k) = (.ok (m.table.find? k), m) := answer_of_reaches (r := .lookup k) reached

end Memory

end MacAgent
