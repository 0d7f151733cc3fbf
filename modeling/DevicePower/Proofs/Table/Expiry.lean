import DevicePower.Bench.Uart
import DevicePower.Proofs.Table.Stopping

/-!
# What the timeout policy decides

Of all that a table does, the timeout policy decides one thing: whether a settle poll that runs out
of time is a failure. Under `proceed` an entry does exactly what it does under `fail`, and ends in
the same way, but for such a poll, which it takes for a success: its outcome is forgiven. So two
runs of a table under the two policies are one and the same until a poll runs out of time, and the
run that goes on does so from where the other has stopped.

Nothing is assumed about the registers and the timer, which both runs may change with every access
and every reading.
-/

namespace DevicePower

open TableM Traced

variable {σ α : Type}

/-- The same port under another policy. -/
def Port.under (port : Port σ) (policy : TimeoutPolicy) : Port σ :=
  { port with policy }

@[simp] theorem Port.timer_under (port : Port σ) (policy : TimeoutPolicy) :
    (port.under policy).timer = port.timer := rfl

/-- The result with a poll that ran out of time taken for a success. -/
def forgive : Except Error Unit → Except Error Unit
  | .error (.timeout _) => .ok ()
  | result => result

/-- A result is left alone if no poll ran out of time. -/
theorem forgive_eq_self {result : Except Error Unit}
    (unexpired : ∀ offset, result ≠ .error (.timeout offset)) : forgive result = result := by
  unfold forgive
  split
  next offset => exact absurd rfl (unexpired offset)
  next => rfl

theorem forgive_ne_timeout (result : Except Error Unit) (offset : UInt32) :
    forgive result ≠ .error (.timeout offset) := by
  unfold forgive
  split
  next => exact nofun
  next other =>
    rintro rfl
    exact other offset rfl

/-- The lenient computation does what the strict one does, and differs in how it ends only if a poll
ran out of time. -/
def Forgives (strict lenient : TableM σ Unit) : Prop :=
  ∀ workspace, lenient workspace =
    { strict workspace with result := forgive (strict workspace).result }

/-- The computation never ends because a poll ran out of time. -/
def Unexpired (computation : TableM σ α) : Prop :=
  ∀ workspace offset, (computation workspace).result ≠ .error (.timeout offset)

namespace Forgives

/-- What never runs out of time has nothing to forgive. -/
theorem of_unexpired {computation : TableM σ Unit} (unexpired : Unexpired computation) :
    Forgives computation computation := by
  intro workspace
  rw [forgive_eq_self (unexpired workspace)]

/-- What comes before a poll may not run out of time, and is the same for both. -/
theorem after {first : TableM σ α} {strict lenient : α → TableM σ Unit}
    (unexpired : Unexpired first) (forgives : ∀ value, Forgives (strict value) (lenient value)) :
    Forgives (first >>= strict) (first >>= lenient) := by
  intro workspace
  cases ended : (first workspace).result with
  | error error =>
      rw [bind_of_error ended, bind_of_error ended]
      have same : forgive (.error error) = .error error := by
        apply forgive_eq_self
        rintro offset ⟨⟩
        exact unexpired workspace offset ended
      rw [same]
  | ok value =>
      rw [bind_of_ok ended, bind_of_ok ended, forgives value]

/-- Where no poll runs out of time, both do the same. -/
theorem apply_eq {strict lenient : TableM σ Unit} (forgives : Forgives strict lenient)
    {workspace : Workspace σ}
    (unexpired : ∀ offset, (strict workspace).result ≠ .error (.timeout offset)) :
    lenient workspace = strict workspace := by
  rw [forgives workspace, forgive_eq_self unexpired]

end Forgives

namespace Port

variable (port : Port σ) (offset : UInt32) (poll : SettlePoll)

theorem unexpired_read : Unexpired (port.read offset) := by
  intro workspace other failed
  rw [read_result] at failed
  cases answer : (port.transport.read offset workspace.hardware).result with
  | ok value => simp [answer] at failed
  | error cause => simp [answer] at failed

theorem unexpired_reading (timer : Timer σ) : Unexpired (reading timer) :=
  fun _ _ => nofun

theorem forgives_expire (last : UInt32) :
    Forgives ((port.under .fail).expire offset poll last)
      ((port.under .proceed).expire offset poll last) :=
  fun _ => rfl

/-- A poll waits in the same way under both policies. -/
theorem forgives_await (timer : Timer σ) (budget start : UInt32) (reads : Nat) (last : UInt32) :
    Forgives ((port.under .fail).await timer offset poll budget start reads last)
      ((port.under .proceed).await timer offset poll budget start reads last) := by
  induction reads generalizing last with
  | zero => exact port.forgives_expire offset poll last
  | succ reads ih =>
      apply Forgives.after (port.unexpired_read offset)
      intro value
      split
      · exact Forgives.of_unexpired fun _ _ ended => by cases ended
      · apply Forgives.after (unexpired_reading timer)
        intro now
        split
        · exact port.forgives_expire offset poll value
        · exact ih value

theorem forgives_settle :
    Forgives ((port.under .fail).settle offset poll)
      ((port.under .proceed).settle offset poll) := by
  cases timed : port.timer with
  | none =>
      simp only [settle, timer_under, timed]
      exact Forgives.of_unexpired fun _ _ ended => by cases ended
  | some timer =>
      simp only [settle, timer_under, timed]
      exact Forgives.after (unexpired_reading timer) fun start =>
        port.forgives_await offset poll timer _ start port.maxReads 0

end Port

namespace Entry

variable (port : Port σ) (entry : Entry)

/-- Moving a value is done once the accesses are, and these do not wait. -/
theorem unexpired_transfer : Unexpired (entry.transfer port) := by
  intro workspace offset expired
  have steps : Steps port (fun _ => True) (fun error => error ≠ .timeout offset)
      { entry with poll := none } := {
    read := Port.keeps_read (fun _ _ => trivial) nofun
    write := fun _ _ => Port.keeps_write (fun _ _ => trivial) nofun
    fetch := fun _ _ => keeps_fetch fun _ _ _ _ => nofun
    store := fun _ _ => keeps_deposit (fun _ _ _ _ => trivial) fun _ _ _ _ => nofun
    settle := nofun }
  exact (steps.keeps_transfer [] workspace trivial).2 _ expired rfl

theorem forgives_run :
    Forgives (entry.run (port.under .fail)) (entry.run (port.under .proceed)) := by
  refine Forgives.after (entry.unexpired_transfer port) fun _ => ?_
  cases polls : entry.poll with
  | none =>
      simp only [wait, polls]
      exact Forgives.of_unexpired fun _ _ ended => by cases ended
  | some poll =>
      simp only [wait, polls]
      split
      · exact port.forgives_settle entry.offset poll
      · exact Forgives.of_unexpired fun _ _ ended => by cases ended

/-- Only a poll runs out of time, and it names the register of its entry. -/
theorem polls_of_timeout {workspace : Workspace σ} {offset : UInt32}
    (expired : (entry.run port workspace).result = .error (.timeout offset)) :
    entry.operation.writes = true ∧ (∃ poll, entry.poll = some poll) ∧ entry.offset = offset := by
  let named (error : Error) : Prop := error = .timeout offset →
    entry.operation.writes = true ∧ (∃ poll, entry.poll = some poll) ∧ entry.offset = offset
  have read : Keeps (Workspace.Kept fun _ => True) named (port.read entry.offset) :=
    Port.keeps_read (fun _ _ => trivial) nofun
  have steps : entry.Steps port (fun _ => True) named := {
    read := read
    write := fun _ _ => Port.keeps_write (fun _ _ => trivial) nofun
    fetch := fun _ _ => keeps_fetch fun _ _ _ _ => nofun
    store := fun _ _ => keeps_deposit (fun _ _ _ _ => trivial) fun _ _ _ _ => nofun
    settle := by
      intro poll polls writes
      apply Port.keeps_settle read (fun _ _ => keeps_reading fun _ _ => trivial) _ fun _ => nofun
      rintro ⟨⟩
      exact ⟨writes, ⟨poll, polls⟩, rfl⟩ }
  exact (steps.keeps_run [] workspace trivial).2 _ expired rfl

end Entry

namespace Table

variable {port : Port σ} {table : Table} {workspace : Workspace σ}

theorem unexpired_run_proceed (port : Port σ) (table : Table) :
    Unexpired (table.run (port.under .proceed)) := by
  intro workspace offset
  induction table generalizing workspace with
  | nil => exact nofun
  | cons entry rest ih =>
      intro expired
      rcases bind_fails_iff.mp expired with first | ⟨⟨⟩, -, later⟩
      · rw [entry.forgives_run port workspace] at first
        exact forgive_ne_timeout _ _ first
      · exact ih _ later

/-- As long as no poll runs out of time, the policy does not matter. -/
theorem run_proceed_of_unexpired
    (unexpired : ∀ offset,
      (table.run (port.under .fail) workspace).result ≠ .error (.timeout offset)) :
    table.run (port.under .proceed) workspace = table.run (port.under .fail) workspace := by
  induction table generalizing workspace with
  | nil => rfl
  | cons entry rest ih =>
      have same : entry.run (port.under .proceed) workspace =
          entry.run (port.under .fail) workspace := by
        apply (entry.forgives_run port).apply_eq
        intro offset expired
        apply unexpired offset
        rw [run, bind_of_error expired]
      rw [run, run, bind_apply, bind_apply, same]
      split
      next => rfl
      next done succeeded =>
        rw [run, bind_of_ok succeeded] at unexpired
        rw [ih unexpired]

/-- Steps that do not stop at the first stop at one of the others. -/
theorem StopsAt.tail {first step : Step σ} {rest : List (Step σ)} {number : Nat} {error : Error}
    (stops : StopsAt port (first :: rest) (number + 1) step error) :
    StopsAt port rest number step error where
  present := stops.present
  before other member := stops.before other (by simp [member])
  failed := stops.failed

/-- Where a poll runs out of time, the run that takes this for a success goes on. -/
theorem run_proceed_of_stops {number : Nat} {step : Step σ} {offset : UInt32}
    (stops : StopsAt (port.under .fail) (table.steps (port.under .fail) workspace) number step
      (.timeout offset)) :
    table.run (port.under .proceed) workspace =
      let strict := table.run (port.under .fail) workspace
      let rest := Table.run (port.under .proceed) (table.drop (number + 1)) strict.state
      ⟨rest.result, strict.events ++ rest.events, rest.state⟩ := by
  induction table generalizing workspace number with
  | nil => cases stops.present
  | cons entry rest ih =>
      have forgiven := entry.forgives_run port workspace
      cases number with
      | zero =>
          have expired : (entry.run (port.under .fail) workspace).result =
              .error (.timeout offset) := by
            obtain ⟨⟩ := stops.present
            exact stops.failed
          have succeeded : (entry.run (port.under .proceed) workspace).result = .ok () := by
            rw [forgiven, expired, forgive]
          rw [run, run, bind_of_ok succeeded, bind_of_error expired, forgiven]
          rfl
      | succ number =>
          have succeeded : (entry.run (port.under .fail) workspace).result = .ok () :=
            stops.before ⟨entry, workspace⟩ (by simp [steps])
          have same : entry.run (port.under .proceed) workspace =
              entry.run (port.under .fail) workspace :=
            (entry.forgives_run port).apply_eq fun offset => by simp [succeeded]
          rw [run, run, bind_of_ok succeeded, bind_of_ok (by rw [same, succeeded]), same,
            ih stops.tail]
          simp only [List.drop_succ_cons, List.append_assoc]

/-- A slot that no entry reads into is as it was. -/
theorem get_of_unread (port : Port σ) {slot : Nat}
    (unread : ∀ entry ∈ table, entry.operation = .read → entry.slot ≠ slot)
    (workspace : Workspace σ) :
    (table.run port workspace).state.context.get slot = workspace.context.get slot := by
  have frame (context after : Context) (other : Nat) (value : UInt32) (different : ¬other = slot)
      (done : context.set other value = .ok after)
      (same : context.get slot = workspace.context.get slot) :
      after.get slot = workspace.context.get slot := by
    rw [Context.get_of_set_ne done different, same]
  exact (keeps_run (fun entry member => Entry.steps_stored frame port entry (unread entry member))
    [] workspace rfl).1

/-- The timeout policy matters only where a poll runs out of time. A run that proceeds never fails
for that reason. If the run that is to fail does not either, both are the same, with all that they
report and leave. If it does, it has come to an entry that polls, and the run that proceeds does the
same up to there: it goes on with the entries behind from where the other has stopped, so that
their contexts agree on all slots that these entries do not read into. -/
theorem policy_decides_expiry (port : Port σ) (table : Table) (workspace : Workspace σ) :
    let strict := table.run (port.under .fail) workspace
    let lenient := table.run (port.under .proceed) workspace
    (∀ offset, lenient.result ≠ .error (.timeout offset)) ∧
    ((∀ offset, strict.result ≠ .error (.timeout offset)) → lenient = strict) ∧
    ∀ offset, strict.result = .error (.timeout offset) →
      ∃ number step, Halts (port.under .fail) table workspace number step (.timeout offset) ∧
        table[number]? = some step.entry ∧ step.entry.operation.writes = true ∧
        (∃ poll, step.entry.poll = some poll) ∧ step.entry.offset = offset ∧
        let behind : Table := table.drop (number + 1)
        let rest := behind.run (port.under .proceed) strict.state
        lenient = ⟨rest.result, strict.events ++ rest.events, rest.state⟩ ∧
        ∀ slot, (∀ entry ∈ behind, entry.operation = .read → entry.slot ≠ slot) →
          lenient.state.context.get slot = strict.state.context.get slot := by
  intro strict lenient
  refine ⟨unexpired_run_proceed port table workspace, run_proceed_of_unexpired, ?_⟩
  intro offset expired
  obtain ⟨number, step, halts⟩ := halts_of_error expired
  have present : table[number]? = some step.entry := by
    rw [← steps_entries (port.under .fail) table workspace, List.getElem?_map, halts.stops.present]
    rfl
  obtain ⟨writes, polls, own⟩ := step.entry.polls_of_timeout _ halts.stops.failed
  have goesOn := run_proceed_of_stops halts.stops
  refine ⟨number, step, halts, present, writes, polls, own, goesOn, ?_⟩
  intro slot unread
  have untouched := get_of_unread (port.under .proceed) unread strict.state
  exact (congrArg (fun run => run.state.context.get slot) goesOn).trans untouched

end Table

/-! ## A register that does not settle -/

namespace Bench.Unsettled

/-- The interrupt mask is written and waited for, in vain. The divisor is saved behind that. -/
def table : Table :=
  [⟨.write, 8, 2, .none, some ⟨1, 1, 2000⟩⟩, ⟨.read, 4, 1, .none, none⟩]

def workspace : Workspace Board :=
  ⟨Uart.board, ⟨[0, 0, 0, 5], 4, true⟩⟩

theorem stopsAt : Table.StopsAt (Uart.device.port.under .fail)
    (table.steps (Uart.device.port.under .fail) workspace) 0
    ⟨⟨.write, 8, 2, .none, some ⟨1, 1, 2000⟩⟩, workspace⟩ (.timeout 8) where
  present := rfl
  before := by simp
  failed := rfl

/-- One run stops at the first entry, after two reads. The other goes on and saves the divisor, and
its other slots are those of the first. -/
theorem goes_on_behind_expiry :
    let strict := table.run (Uart.device.port.under .fail) workspace
    let lenient := table.run (Uart.device.port.under .proceed) workspace
    strict.result = .error (.timeout 8) ∧
      strict.events.filterMap Activity.asked =
        [.write 8 0 (.ok ()), .read 8 (.ok 0), .read 8 (.ok 0)] ∧
      lenient.result = .ok () ∧
      lenient.events.filterMap Activity.asked =
        [.write 8 0 (.ok ()), .read 8 (.ok 0), .read 8 (.ok 0), .read 4 (.ok 26)] ∧
      strict.events <+: lenient.events ∧
      strict.state.context.get 1 = .ok 0 ∧ lenient.state.context.get 1 = .ok 26 ∧
      lenient.state.context.get 3 = strict.state.context.get 3 := by
  intro strict lenient
  have expired : strict.result = .error (.timeout 8) := rfl
  obtain ⟨-, -, expires⟩ := Table.policy_decides_expiry Uart.device.port table workspace
  obtain ⟨number, step, halts, -, -, -, -, goesOn, agree⟩ := expires 8 expired
  obtain rfl : 0 = number := halts.stops.unique stopsAt
  have kept := agree 3 (by simp [table])
  have events := congrArg Outcome.events goesOn
  exact ⟨expired, rfl, rfl, rfl, ⟨_, events.symm⟩, rfl, rfl, kept⟩

end Bench.Unsettled

end DevicePower
