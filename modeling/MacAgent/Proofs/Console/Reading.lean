import MacAgent.Proofs.Console.Applying
import MacAgent.Proofs.Memory.Changes

/-! # Reading an input line by line

An input comes down to the commands of its lines, up to the first that ends it: the command to leave, a table
command while the table has lost its connection, or a line that cannot be read. Reading the input is applying
these commands one after another; all other lines leave the plane as it is. So an input may be cut in two
anywhere before it has ended. -/

namespace MacAgent

def Command.isForTable : Command → Bool
  | install _ | delete _ => true
  | init | enable | disable | option .. | exit => false

namespace Console

variable {c : Command} {cs : List Command} {m m' : Memory} {line : Line} {lines input rest : List Line}
  {fault : Fault}

/-- The commands that the lines ask for, up to one that cannot be read. -/
def requests (input : List Line) : List Command :=
  (input.takeWhile (· ≠ .unreadable)).filterMap Line.command?

/-- Leaving ends the input, and so does a command that fails fatally. -/
def Ends (c : Command) (m : Memory) : Prop :=
  c = .exit ∨ ∃ fault : Fault, fault.isFatal ∧ (apply true c m).1 = .error fault

def enact (cs : List Command) (m : Memory) : Memory := cs.foldl (fun m c => (apply true c m).2) m

/-- How many of some commands succeed, one after another. -/
def successes : List Command → Memory → Nat
  | [], _ => 0
  | c :: rest, m => successes rest (apply true c m).2 + if (apply true c m).1.isOk then 1 else 0

def goesPast (m : Memory) (c : Command) : Bool := c ≠ .exit && !(c.isForTable && !m.table.connected)

/-- The commands of an input before the first that ends it. -/
def effective (input : List Line) (m : Memory) : List Command := (requests input).takeWhile (goesPast m)

/-! ### Lines -/

theorem isSkipped_iff (text : String) : isSkipped text.toList = true ↔
    Text.trim text.toList = [] ∨ (Text.trimStart text.toList).head? = some '#' := by
  simp [isSkipped]

theorem command?_eq_some_iff (text : String) (c : Command) : (Line.text text).command? = some c ↔
    Text.trim text.toList ≠ [] ∧ (Text.trimStart text.toList).head? ≠ some '#' ∧ Command.parse text = .ok c := by
  have asked : (Line.text text).command? =
      if isSkipped text.toList then none else (Command.parse text).toOption := rfl
  have skipped := isSkipped_iff text
  rw [asked]
  split
  · rename_i skip
    constructor
    · intro h
      cases h
    · rintro ⟨full, other, -⟩
      exact ((skipped.mp skip).elim full other).elim
  · rename_i kept
    obtain ⟨full, other⟩ := not_or.mp (mt skipped.mpr kept)
    cases parsed : Command.parse text with
    | error e => simp [Except.toOption]
    | ok c' => simp [Except.toOption, full, other]

theorem requests_unreadable : requests (.unreadable :: rest) = [] := by simp [requests]

theorem requests_cons (readable : line ≠ .unreadable) :
    requests (line :: rest) = line.command?.toList ++ requests rest := by
  cases asked : line.command? with
  | none => simp [requests, readable, asked]
  | some c => simp [requests, readable, asked]

theorem requests_append (readable : .unreadable ∉ lines) :
    requests (lines ++ rest) = requests lines ++ requests rest := by
  induction lines with
  | nil => rfl
  | cons line lines ih =>
    obtain ⟨here, later⟩ := not_or.mp (mt List.mem_cons.mpr readable)
    rw [List.cons_append, requests_cons (Ne.symm here), requests_cons (Ne.symm here), ih later, List.append_assoc]

/-! ### Commands -/

theorem apply_connected (c : Command) (m : Memory) : (apply true c m).2.table.connected = m.table.connected := by
  have kept (r : Request) : (m.answer r).2.table.connected = m.table.connected := by
    refine Memory.answer_table (P := fun t => t.connected = m.table.connected) m r rfl ?_ ?_ fun _ => rfl
    · intro e _ _
      exact (m.table.upsert_puts e).connected
    · intro k t' _ drops
      exact drops.connected
  cases c with
  | install e => exact kept (.install e)
  | delete k => exact kept (.delete k)
  | init | enable | disable | option | exit => rfl

theorem proceedAfter_error {answered : Except Fault Unit × Memory} :
    proceedAfter answered = (.error fault, m') ↔ answered = (.error fault, m') := by
  rcases answered with ⟨_ | _, m⟩
  · simp [proceedAfter, Except.map]
  · simp [proceedAfter, Except.map]

/-- Only a table command fails. It changes nothing then, and the failure is fatal if the table is cut off. -/
theorem apply_error (h : apply true c m = (.error fault, m')) :
    m' = m ∧ c.isForTable = true ∧ (fault.isFatal = true ↔ m.table.connected = false) := by
  have failed {r : Request} (reaches : m.reaches r = m.table.connected) (run : m.answer r = (.error fault, m')) :
      m' = m ∧ (fault.isFatal = true ↔ m.table.connected = false) := by
    obtain ⟨refused, same⟩ := Memory.answer_error run
    refine ⟨same, ?_⟩
    cases refused with
    | disconnected _ cut => simp [Fault.isFatal, ← reaches, cut]
    | invalidEntry _ reached _ => simp [Fault.isFatal, reached]
    | rejected _ reached _ => simp [Fault.isFatal, reached]
  cases c with
  | install e =>
    obtain ⟨same, fatal⟩ := failed (r := .install e) rfl (proceedAfter_error.mp h)
    exact ⟨same, rfl, fatal⟩
  | delete k =>
    obtain ⟨same, fatal⟩ := failed (r := .delete k) rfl (proceedAfter_error.mp h)
    exact ⟨same, rfl, fatal⟩
  | init | enable | disable | option | exit => cases h

theorem apply_ok {verdict : Verdict} (h : apply true c m = (.ok verdict, m')) (stays : c ≠ .exit) :
    verdict = .proceed := by
  have proceeds {answered : Except Fault Unit × Memory} (h : proceedAfter answered = (.ok verdict, m')) :
      verdict = .proceed := by
    rcases answered with ⟨_ | _, _⟩
    · cases h
    · cases h
      rfl
  cases c with
  | install e => exact proceeds h
  | delete k => exact proceeds h
  | exit => exact absurd rfl stays
  | init | enable | disable | option =>
    cases h
    rfl

theorem apply_of_cut (forTable : c.isForTable = true) (cut : m.table.connected = false) :
    ∃ operation, apply true c m = (.error (.disconnected operation), m) := by
  have gone {r : Request} (reaches : m.reaches r = m.table.connected) :
      m.answer r = (.error (.disconnected r.name), m) := by
    apply Memory.answer_of_not_reaches
    simp [reaches, cut]
  cases c with
  | install e => exact ⟨_, proceedAfter_error.mpr (gone (r := .install e) rfl)⟩
  | delete k => exact ⟨_, proceedAfter_error.mpr (gone (r := .delete k) rfl)⟩
  | init | enable | disable | option | exit => cases forTable

/-- Whether a command ends the input depends on the connection of the table alone. -/
theorem ends_iff : Ends c m ↔ c = .exit ∨ c.isForTable = true ∧ m.table.connected = false := by
  constructor
  · rintro (leaves | ⟨fault, isFatal, failed⟩)
    · exact .inl leaves
    · obtain ⟨-, forTable, fatal⟩ := apply_error (Prod.ext failed rfl)
      exact .inr ⟨forTable, fatal.mp isFatal⟩
  · rintro (leaves | ⟨forTable, cut⟩)
    · exact .inl leaves
    · obtain ⟨operation, run⟩ := apply_of_cut forTable cut
      exact .inr ⟨.disconnected operation, rfl, by rw [run]⟩

theorem ends_congr (same : m'.table.connected = m.table.connected) : Ends c m' ↔ Ends c m := by
  rw [ends_iff, ends_iff, same]

theorem enact_connected (cs : List Command) (m : Memory) :
    (enact cs m).table.connected = m.table.connected := by
  induction cs generalizing m with
  | nil => rfl
  | cons c cs ih => exact (ih _).trans (apply_connected c m)

theorem enact_append (cs cs' : List Command) (m : Memory) : enact (cs ++ cs') m = enact cs' (enact cs m) := by
  simp [enact]

theorem successes_append (cs cs' : List Command) (m : Memory) :
    successes (cs ++ cs') m = successes cs m + successes cs' (enact cs m) := by
  induction cs generalizing m with
  | nil => simp [successes, enact]
  | cons c cs ih =>
    have later := ih (apply true c m).2
    simp only [List.cons_append, successes, later, enact, List.foldl_cons]
    omega

/-! ### The commands before the end -/

theorem goesPast_iff : goesPast m c = true ↔ ¬Ends c m := by
  rw [ends_iff]
  unfold goesPast
  cases c.isForTable with
  | true | false => cases m.table.connected with
    | true | false => simp

theorem effective_congr (same : m'.table.connected = m.table.connected) : effective input m' = effective input m := by
  unfold effective goesPast
  rw [same]

/-- What a line comes to, and what is left to do of the commands from there on. -/
theorem step_inv (line : Line) (rest : List Line) (m : Memory) :
    (step true line m = (.ended, m) ∧ effective (line :: rest) m = []) ∨
    (step true line m = (.passed, m) ∧ line.command? = none ∧
      effective (line :: rest) m = effective rest m) ∨
    ∃ c, line.command? = some c ∧ effective (line :: rest) m = c :: effective rest m ∧
      step true line m = (if (apply true c m).1.isOk then .applied else .passed, (apply true c m).2) := by
  cases line with
  | unreadable => exact .inl ⟨rfl, by simp [effective, requests_unreadable]⟩
  | text text =>
    have more : requests (.text text :: rest) = (Line.text text).command?.toList ++ requests rest :=
      requests_cons nofun
    cases asked : (Line.text text).command? with
    | none =>
      rw [asked] at more
      have asked : request? text = none := asked
      refine .inr (.inl ⟨?_, rfl, ?_⟩)
      · simp only [step, asked]
      · simp [effective, more]
    | some c =>
      rw [asked] at more
      have asked : request? text = some c := asked
      by_cases ends : Ends c m
      · refine .inl ⟨?_, ?_⟩
        · rcases ends_iff.mp ends with rfl | ⟨forTable, cut⟩
          · simp [step, asked, apply]
          · obtain ⟨operation, run⟩ := apply_of_cut forTable cut
            simp [step, asked, run, Fault.isFatal]
        · have stops : goesPast m c = false := Bool.eq_false_iff.mpr fun goes => goesPast_iff.mp goes ends
          simp [effective, more, stops]
      · refine .inr (.inr ⟨c, rfl, ?_, ?_⟩)
        · simp [effective, more, goesPast_iff.mpr ends]
        · rcases run : apply true c m with ⟨fault | verdict, m'⟩
          · have mild : ¬fault.isFatal := fun isFatal => ends (.inr ⟨fault, isFatal, by rw [run]⟩)
            simp [step, asked, run, mild, Except.isOk, Except.toBool]
          · obtain rfl := apply_ok run fun leaves => ends (.inl leaves)
            simp [step, asked, run, Except.isOk, Except.toBool]

theorem readAll_eq (input : List Line) (m : Memory) :
    readAll true input m = (successes (effective input m) m, enact (effective input m) m) := by
  induction input generalizing m with
  | nil => rfl
  | cons line rest ih =>
    rcases step_inv line rest m with ⟨step, none⟩ | ⟨step, -, same⟩ | ⟨c, -, first, step⟩
    · simp [readAll, step, none, successes, enact]
    · simp [readAll, step, same, ih]
    · have later := ih (apply true c m).2
      rw [effective_congr (apply_connected c m)] at later
      cases succeeds : (apply true c m).1.isOk with
      | true => simp [readAll, step, succeeds, first, later, successes, enact]
      | false => simp [readAll, step, succeeds, first, later, successes, enact]

/-! ### Reading -/

/-- What reading an input comes to: `cs` are its commands before the first that ends it. -/
structure Reads (input : List Line) (m : Memory) (cs : List Command) (closing : Closing) : Prop where
  first : cs <+: requests input
  goesOn : ∀ before c later, cs = before ++ c :: later → ¬Ends c (enact before m)
  ends : ∀ c later, requests input = cs ++ c :: later → Ends c (enact cs m)
  memory : closing.memory = enact cs m
  applied : closing.applied = successes cs m
  stopped : closing.stopped = true

theorem reads_effective (input : List Line) (m : Memory) :
    Reads input m (effective input m) (run true input m) where
  first := List.takeWhile_prefix _
  goesOn before c later split := by
    have member : c ∈ effective input m := by simp [split]
    rw [ends_congr (enact_connected before m)]
    exact goesPast_iff.mp (List.mem_takeWhile_imp member)
  ends c later split := by
    rw [ends_congr (enact_connected _ m)]
    have left : (requests input).dropWhile (goesPast m) = c :: later :=
      List.append_cancel_left (List.takeWhile_append_dropWhile.trans split)
    have stops := List.head?_dropWhile_not (goesPast m) (requests input)
    rw [left] at stops
    by_contra goes
    exact Bool.eq_false_iff.mp stops (goesPast_iff.mpr goes)
  memory := congrArg Prod.snd (readAll_eq input m)
  applied := congrArg Prod.fst (readAll_eq input m)
  stopped := rfl

/-- The lines of `lines` do not end an input that they begin. -/
def GoesThrough (lines : List Line) (m : Memory) : Prop :=
  .unreadable ∉ lines ∧ ∀ before c later, requests lines = before ++ c :: later → ¬Ends c (enact before m)

theorem GoesThrough.effective_append (h : GoesThrough lines m) (rest : List Line) :
    effective (lines ++ rest) m = effective lines m ++ effective rest (enact (effective lines m) m) := by
  have all : ∀ c ∈ requests lines, goesPast m c = true := by
    intro c member
    obtain ⟨before, later, split⟩ := List.append_of_mem member
    exact goesPast_iff.mpr ((ends_congr (enact_connected before m)).not.mp (h.2 before c later split))
  rw [effective_congr (enact_connected _ m)]
  unfold effective
  rw [requests_append h.1, List.takeWhile_append_of_pos all, List.takeWhile_eq_self_iff.mpr all]

/-- How the console goes about an input. -/
structure GoesByLine (m : Memory) : Prop where
  /-- A line asks for nothing if it is blank, a comment, or no command. -/
  asks : ∀ text c, (Line.text text).command? = some c ↔
    Text.trim text.toList ≠ [] ∧ (Text.trimStart text.toList).head? ≠ some '#' ∧ Command.parse text = .ok c
  reads : ∀ input, ∃ cs, Reads input m cs (run true input m)
  skips : ∀ text, (Line.text text).command? = none → step true (.text text) m = (.passed, m)
  fails : ∀ c fault m', apply true c m = (.error fault, m') →
    m' = m ∧ c.isForTable = true ∧ (fault.isFatal = true ↔ m.table.connected = false)
  /-- A line that is skipped, or whose command fails without being fatal, changes nothing. -/
  passes : ∀ line m', step true line m = (.passed, m') → m' = m
  /-- The input may be cut where it has not ended. -/
  resumes : ∀ lines rest, GoesThrough lines m →
    let first := run true lines m
    let second := run true rest first.memory
    run true (lines ++ rest) m =
      { applied := first.applied + second.applied, memory := second.memory, stopped := true }

theorem goes_by_line (m : Memory) : GoesByLine m where
  asks := command?_eq_some_iff
  reads input := ⟨_, reads_effective input m⟩
  skips text unasked := by
    have unasked : request? text = none := unasked
    simp only [step, unasked]
  fails c fault m' := apply_error
  passes line m' passed := by
    rcases step_inv line [] m with ⟨step, -⟩ | ⟨step, -⟩ | ⟨c, -, -, step⟩
    · rw [step] at passed
      cases passed
    · rw [step] at passed
      cases passed
      rfl
    · rw [step] at passed
      rcases run : apply true c m with ⟨fault | _, m''⟩
      · obtain ⟨same, -⟩ := apply_error run
        rw [run] at passed
        cases passed
        exact same
      · rw [run] at passed
        cases passed
  resumes lines rest through := by
    simp only [run, readAll_eq, through.effective_append rest, successes_append, enact_append]

/-- A comment, a line that is no command and a delete of a locked key are passed over. -/
example :
    let closing := run true [.text "# start", .text "init", .text "mac-del 1 0000.0000.0000",
      .text "option name Ann", .text "bogus", .text " quit ", .text "disable"] { table := { locked := [⟨1, .zero⟩] } }
    (closing.applied, closing.memory.outbox) = (2, [.initialized, .option "name" "Ann"]) := by
  decide +kernel

end Console

end MacAgent
