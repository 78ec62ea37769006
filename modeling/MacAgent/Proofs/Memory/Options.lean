import Mathlib.Data.List.Induction
import Mathlib.Data.List.TakeWhile
import MacAgent.Proofs.Cursor.Feed
import MacAgent.Proofs.Memory.Replay
import MacAgent.Proofs.Text.Bytes

/-! # All options are read

Of every option the board holds the value that was set last, unless that is the empty one, which removes the
option. The empty text is also what ends a cursor over the values, so that a cursor ends only after the last of
them: it gives the values of all options in the order of their keys, as they were when it was made. -/

namespace MacAgent

/-! ### What the board holds -/

namespace Memory

/-- What happens to a plane: an option is set, or a request is answered. -/
inductive Turn where
  | set (key value : String)
  | ask (r : Request)

def Turn.setting? : Turn → Option (String × String)
  | set key value => some (key, value)
  | ask _ => none

def take (m : Memory) : Turn → Memory
  | .set key value => { m with board := m.board.setOption key value }
  | .ask r => (m.answer r).2

/-- The plane after some turns, which started with options set already. -/
def configured (m : Memory) (initial : List (String × String)) (turns : List Turn) : Memory :=
  turns.foldl take { m with board := .ofOptions initial }

/-- All that was ever set, in order. -/
def settings (initial : List (String × String)) (turns : List Turn) : List (String × String) :=
  initial ++ turns.filterMap Turn.setting?

/-- The board has its connection, and under each key the value that was set last unless that is empty. -/
structure HoldsLast (m : Memory) (settings : List (String × String)) : Prop where
  connected : m.board.connected = true
  options : ∀ key : String, m.board.options[key]? = (Board.lastWrite? settings key).filter (· ≠ "")

variable {m : Memory} {initial options : List (String × String)} {turns : List Turn}

theorem filter_lastWrite?_concat (settings : List (String × String)) (key value key' : String) :
    (Board.lastWrite? (settings ++ [(key, value)]) key').filter (· ≠ "") =
      if key = key' then Board.entered value else (Board.lastWrite? settings key').filter (· ≠ "") := by
  rw [Board.lastWrite?_concat]
  split
  · unfold Board.entered
    by_cases none : value = ""
    · simp [none]
    · simp [none]
  · rfl

theorem HoldsLast.set (h : m.HoldsLast options) (key value : String) :
    (m.take (.set key value)).HoldsLast (options ++ [(key, value)]) where
  connected := h.connected
  options key' := by
    rw [filter_lastWrite?_concat, ← h.options key']
    exact m.board.setOption_options key value key'

theorem HoldsLast.ask (h : m.HoldsLast options) (r : Request) : (m.take (.ask r)).HoldsLast options := by
  have frame : m.Frame (m.answer r).2 := (heeds_frame fun _ => True).answer r trivial m
  refine ⟨frame.connected.trans h.connected, fun key => ?_⟩
  show (m.answer r).2.board.options[key]? = _
  rw [frame.options, h.options]

theorem ofOptions_holdsLast (m : Memory) (initial : List (String × String)) :
    { m with board := .ofOptions initial }.HoldsLast initial := by
  induction initial using List.reverseRecOn with
  | nil => exact ⟨rfl, fun key => by simp [Board.ofOptions, Board.lastWrite?]⟩
  | append_singleton initial o ih =>
    have last : Board.ofOptions (initial ++ [o]) = (Board.ofOptions initial).setOption o.1 o.2 := by
      simp [Board.ofOptions]
    rw [last]
    exact ih.set o.1 o.2

theorem configured_holdsLast (m : Memory) (initial : List (String × String)) (turns : List Turn) :
    (m.configured initial turns).HoldsLast (settings initial turns) := by
  induction turns using List.reverseRecOn with
  | nil =>
    rw [settings, List.filterMap_nil, List.append_nil]
    exact ofOptions_holdsLast m initial
  | append_singleton turns t ih =>
    rw [configured, List.foldl_concat, settings, List.filterMap_append, ← List.append_assoc]
    cases t with
    | set key value => exact ih.set key value
    | ask r =>
      rw [List.filterMap_cons_none rfl, List.filterMap_nil, List.append_nil]
      exact ih.ask r

/-! ### The values in the order of the keys -/

theorem HoldsLast.option (h : m.HoldsLast options) (key : String) :
    m.answer (.option key) = (.ok ((Board.lastWrite? options key).filter (· ≠ "")), m) := by
  rw [← h.options key]
  exact answer_of_reaches (r := .option key) h.connected

theorem HoldsLast.mem_toList (h : m.HoldsLast options) (key value : String) :
    (key, value) ∈ m.board.options.toList ↔ Board.lastWrite? options key = some value ∧ value ≠ "" := by
  rw [Std.TreeMap.mem_toList_iff_getElem?_eq_some, h.options, Option.filter_eq_some_iff, decide_eq_true_iff]

/-- The end of a cursor over texts is not among the values. -/
theorem HoldsLast.takeWhile_values (h : m.HoldsLast options) :
    (m.board.options.toList.map (·.2)).takeWhile (!·.isEmpty) = m.board.options.toList.map (·.2) := by
  rw [List.takeWhile_eq_self_iff]
  intro value mem
  obtain ⟨⟨key, _⟩, stored, rfl⟩ := List.mem_map.mp mem
  have nonempty := ((h.mem_toList key _).mp stored).2
  simpa using nonempty

theorem toList_ascending (m : Memory) :
    m.board.options.toList.Pairwise fun o o' => Text.bytes o.1 < Text.bytes o'.1 := by
  refine (Std.TreeMap.ordered_keys_toList (t := m.board.options)).imp fun {o o'} below => ?_
  exact Text.lt_iff_bytes_lt.mp (compareOfLessAndEq_eq_lt.mp below)

end Memory

/-! ### Reading while options are set -/

/-- A plane in memory, a reader of the values of the options, and what the reader's calls have given so far. -/
structure Listing where
  memory : Memory
  feed : Feed String
  replies : List (Option String) := []

namespace Listing

/-- What comes next: something happens to the plane, or the reader is called. -/
inductive Move where
  | turn (t : Memory.Turn)
  | next (lead : Nat)

def Move.isCall : Move → Bool
  | turn _ => false
  | next _ => true

def Move.turn? : Move → Option Memory.Turn
  | turn t => some t
  | next _ => none

def start (bridge : Bridge) (values : List String) (m : Memory) : Listing :=
  { memory := m, feed := .start bridge String.isEmpty values }

def move (s : Listing) : Move → Listing
  | .turn t => { s with memory := s.memory.take t }
  | .next lead =>
    { s with feed := (s.feed.next lead).2, replies := s.replies ++ [(s.feed.next lead).1] }

def run (s : Listing) (moves : List Move) : Listing := moves.foldl move s

/-- Call `i` has given value `i`. -/
def Tells (values : List String) (n : Nat) (s : Listing) : Prop :=
  s.replies = (List.range n).map fun i => values[i]?

theorem run_concat (s : Listing) (moves : List Move) (mv : Move) :
    s.run (moves ++ [mv]) = (s.run moves).move mv := by
  simp only [run, List.foldl_concat]

theorem run_hasReplied (bridge : Bridge) (values : List String) (m : Memory) (moves : List Move) :
    ((start bridge values m).run moves).feed.HasReplied values String.isEmpty (moves.countP Move.isCall)
      ((start bridge values m).run moves).replies := by
  induction moves using List.reverseRecOn with
  | nil => exact Feed.start_hasReplied bridge
  | append_singleton moves mv ih =>
    rw [run_concat, List.countP_append]
    cases mv with
    | turn t => exact ih
    | next lead => exact ih.next rfl lead

theorem run_memory (s : Listing) (moves : List Move) :
    (s.run moves).memory = (moves.filterMap Move.turn?).foldl Memory.take s.memory := by
  induction moves generalizing s with
  | nil => rfl
  | cons mv moves ih =>
    cases mv with
    | turn t => exact ih _
    | next lead => exact ih _

end Listing

namespace Memory

variable {m : Memory} {options : List (String × String)}

/-- Whoever reads the values of all options gets these, in this order. -/
structure Lists (m : Memory) (values : List String) : Prop where
  asked : m.answer .optionValues = (.ok values, m)
  /-- A reader gives one value after another and then none for ever, whatever happens between its calls. -/
  read : ∀ (bridge : Bridge) (moves : List Listing.Move),
    ((Listing.start bridge values m).run moves).Tells values (moves.countP Listing.Move.isCall) ∧
      ((Listing.start bridge values m).run moves).memory = (moves.filterMap Listing.Move.turn?).foldl take m
  /-- What is done with the values may itself change the options. -/
  traversed : ∀ {β : Type} (bridge : Bridge) (act : β → String → PlaneM Memory β) (acc : β),
    plane.traverse bridge .options String.isEmpty values act acc = values.foldlM act acc

/-- What can be relied on of the options of a plane when all that was ever set is given in order. -/
structure ListsOptions (m : Memory) (settings : List (String × String)) : Prop where
  looked : ∀ key, m.answer (.option key) = (.ok ((Board.lastWrite? settings key).filter (· ≠ "")), m)
  /-- All options are listed in the order of the bytes of their keys, each once. -/
  listed : ∃ options : List (String × String),
    (options.Pairwise fun o o' => Text.bytes o.1 < Text.bytes o'.1) ∧
    (∀ key value, (key, value) ∈ options ↔ Board.lastWrite? settings key = some value ∧ value ≠ "") ∧
    m.Lists (options.map (·.2))

theorem HoldsLast.lists (h : m.HoldsLast options) : m.Lists (m.board.options.toList.map (·.2)) where
  asked := answer_of_reaches (r := .optionValues) h.connected
  read bridge moves := by
    have told := (Listing.run_hasReplied bridge (m.board.options.toList.map (·.2)) m moves).2
    rw [h.takeWhile_values] at told
    exact ⟨told, Listing.run_memory _ moves⟩
  traversed bridge act acc := by
    rw [Plane.traverse_eq_foldlM (fun _ _ _ => rfl) rfl, h.takeWhile_values]

/-- No option is lost, whatever was set before and whatever the plane was asked meanwhile. -/
theorem lists_options (m : Memory) (initial : List (String × String)) (turns : List Turn) :
    (m.configured initial turns).ListsOptions (settings initial turns) := by
  have held := m.configured_holdsLast initial turns
  exact ⟨held.option, _, toList_ascending _, held.mem_toList, held.lists⟩

end Memory

end MacAgent
