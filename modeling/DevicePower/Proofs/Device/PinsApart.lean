import DevicePower.Bench.Uart
import DevicePower.Proofs.Device.Lockstep
import DevicePower.Proofs.Device.Steps
import DevicePower.Proofs.Table.Matching

/-!
# Pins make no difference

Switching pins is best effort, and nothing depends on it: a device behaves the same with a pin
controller that works, with one that refuses, and without one, and whatever pin state its driver
maps an action to.

What a pin controller does is done to the hardware, so that the hardware of two such devices
need not be equal. A relation between hardware states says what is left to the pins; everything
else about the devices answers the same on hardware that is the same in this sense.
-/

namespace DevicePower

open DeviceM Traced

variable {σ α : Type}

/-- The clock answers the same on hardware that is the same, and leaves it the same. -/
def Clock.Respects (same : σ → σ → Prop) : Clock σ → Prop
  | .fixed => True
  | .gate isRunning enable disable => ∀ hardware other, same hardware other →
      isRunning other = isRunning hardware ∧ same (enable hardware) (enable other) ∧
        same (disable hardware) (disable other)

/-- The channel answers the same on hardware that is the same, and leaves it the same. -/
structure Channel.Respects (same : σ → σ → Prop) (channel : Channel σ) : Prop where
  active : ∀ hardware other, same hardware other →
    channel.isActive other = channel.isActive hardware
  paused : ∀ hardware other, same hardware other →
    same (channel.pause hardware) (channel.pause other)
  resumed : ∀ hardware other, same hardware other →
    same (channel.resume hardware) (channel.resume other)

/-- The machines differ in nothing but their hardware, which is the same. -/
def Machine.Resembles (same : σ → σ → Prop) (first second : Machine σ) : Prop :=
  ∃ hardware, same first.hardware hardware ∧ second = { first with hardware }

/-- A change that acts alike on hardware that is the same leaves the workspaces alike. -/
theorem ActsAlike.changed {same : σ → σ → Prop} {change : σ → α × σ}
    (acts : ActsAlike same change) : ChangedAlike (Workspace.Resembles same) change := by
  rintro workspace _ ⟨hardware, holds, rfl⟩
  exact ⟨(acts _ _ holds).1, _, (acts _ _ holds).2, rfl⟩

/-- A view that sees the same on hardware that is the same sees it in the workspaces. -/
theorem seenAlike {same : σ → σ → Prop} {view : σ → α}
    (seen : ∀ hardware other, same hardware other → view other = view hardware) :
    SeenAlike (Workspace.Resembles same) view := by
  rintro workspace _ ⟨hardware, holds, rfl⟩
  exact seen _ _ holds

theorem Clock.Respects.inStep {same : σ → σ → Prop} {clock : Clock σ}
    (respects : clock.Respects same) : clock.InStep (Workspace.Resembles same) := by
  cases clock with
  | fixed => trivial
  | gate isRunning enable disable =>
      have enabled : ActsAlike same fun hardware => ((), enable hardware) :=
        fun hardware other holds => ⟨rfl, (respects hardware other holds).2.1⟩
      have disabled : ActsAlike same fun hardware => ((), disable hardware) :=
        fun hardware other holds => ⟨rfl, (respects hardware other holds).2.2⟩
      exact ⟨seenAlike fun hardware other holds => (respects hardware other holds).1,
        enabled.changed, disabled.changed⟩

theorem Channel.Respects.inStep {same : σ → σ → Prop} {channel : Channel σ}
    (respects : channel.Respects same) : channel.InStep (Workspace.Resembles same) := by
  have paused : ActsAlike same fun hardware => ((), channel.pause hardware) :=
    fun hardware other holds => ⟨rfl, respects.paused hardware other holds⟩
  have resumed : ActsAlike same fun hardware => ((), channel.resume hardware) :=
    fun hardware other holds => ⟨rfl, respects.resumed hardware other holds⟩
  exact ⟨seenAlike respects.active, paused.changed, resumed.changed⟩

/-- What happens is the same, but for a change that leaves hardware that is the same. -/
inductive Happening.Resembles (same : σ → σ → Prop) : Happening σ → Happening σ → Prop where
  | asked (request : Request) : Resembles same (.asked request) (.asked request)
  | changed {hardware other : σ} (alike : same hardware other) :
      Resembles same (.changed hardware) (.changed other)
  | handler (holds : Bool) : Resembles same (.handler holds) (.handler holds)

theorem Happening.Resembles.inStep {same : σ → σ → Prop} {happening other : Happening σ}
    (resembles : happening.Resembles same other) :
    happening.InStep (Workspace.Resembles same) other := by
  cases resembles with
  | asked request => exact .asked request
  | changed alike =>
      apply Happening.InStep.changed
      rintro workspace _ ⟨_, _, rfl⟩
      exact ⟨_, alike, rfl⟩
  | handler holds => exact .handler holds

/-- The pin map is valid for every context that the request creates. -/
def PinMap.Accepts (map : PinMap) : Request → Prop
  | .createContext template => map.validate template.length = .ok ()
  | _ => True

namespace Device

/-- The pins are apart from everything else. Hardware that is the same differs in nothing that
registers, callbacks, timer, clocks or channels of the device can find out, and neither the pin
controller of the device nor the given one makes hardware differ in more. -/
structure PinsApart (device : Device σ) (pins : Option (PinController σ))
    (same : σ → σ → Prop) : Prop where
  equivalence : Equivalence same
  transport : device.transport.Respects same
  hooks : ∀ stage hook, device.hooks.hook stage = some hook → ActsAlike same hook
  timer : ∀ timer, device.timer = some timer → ActsAlike same timer.now
  clocks : ∀ clock ∈ device.clocks, clock.Respects same
  channels : ∀ channel ∈ device.channels, channel.Respects same
  selected : ∀ controller, device.pins = some controller ∨ pins = some controller →
    ∀ state hardware, same hardware (controller.select state hardware).2

/-- Both computations do the same to machines that differ in hardware that is the same, but for
the selection of pins. -/
abbrev Alike (same : σ → σ → Prop) (first second : DeviceM σ α) : Prop :=
  Matches (fun event => !event.aboutPins) (Machine.Resembles same) first second

/-- Machines that differ in hardware that is the same are beside each other. -/
theorem resembles_eq_beside (same : σ → σ → Prop) :
    Machine.Resembles same = Machine.Beside (Workspace.Resembles same) := by
  funext first second
  apply propext
  constructor
  · rintro ⟨hardware, holds, rfl⟩
    exact ⟨_, ⟨hardware, holds, rfl⟩, rfl⟩
  · rintro ⟨_, ⟨hardware, holds, rfl⟩, rfl⟩
    exact ⟨hardware, holds, rfl⟩

theorem alike_iff_inStep {same : σ → σ → Prop} {first second : DeviceM σ α} :
    Alike same first second ↔
      InStep (fun event => !event.aboutPins) (Workspace.Resembles same) first second := by
  rw [Alike, InStep, resembles_eq_beside]

namespace PinsApart

variable {device : Device σ} {pins : Option (PinController σ)} {same : σ → σ → Prop}
variable (apart : device.PinsApart pins same) (map : PinMap)

include apart

/-- The one step that the devices do not take alike shows in nothing but what is hidden. -/
theorem selectPins (action : Action) :
    Alike same (device.selectPins action) ((device.repinned pins map).selectPins action) := by
  rintro machine _ ⟨hardware, holds, rfl⟩
  obtain ⟨events, after, ran, kept, hidden⟩ := device.selectPins_spec same apart.equivalence.refl
    (fun controller present => apart.selected controller (.inl present)) action machine
  obtain ⟨eventsOther, afterOther, ranOther, keptOther, hiddenOther⟩ :=
    (device.repinned pins map).selectPins_spec same apart.equivalence.refl
      (fun controller present => apart.selected controller (.inr present)) action
      { machine with hardware }
  rw [ran, ranOther]
  have linked : same after afterOther :=
    apart.equivalence.trans (apart.equivalence.symm kept) (apart.equivalence.trans holds keptOther)
  exact ⟨rfl, hiddenOther.trans hidden.symm, afterOther, linked, rfl⟩

/-- Everything else is done in lockstep. -/
theorem lockstep :
    device.Lockstep pins map (fun event => !event.aboutPins) (Workspace.Resembles same) where
  port := Port.Respects.lockstep ⟨apart.transport, apart.timer⟩
  hooks stage hook present := (apart.hooks stage hook present).changed
  timer timer present := (apart.timer timer present).changed
  clocks clock member := (apart.clocks clock member).inStep
  channels channel member := (apart.channels channel member).inStep
  selectPins action := alike_iff_inStep.mp (apart.selectPins map action)

/-! ## Requests and histories -/

omit apart in
/-- Pin maps that are both valid make no difference to what a device is checked for. -/
theorem validate_repinned {length : Nat} (accepted : device.driver.pins.validate length = .ok ())
    (acceptedOther : map.validate length = .ok ()) :
    (device.repinned pins map).validate length = device.validate length := by
  have driver : (device.repinned pins map).driver.validate length =
      device.driver.validate length := by
    simp only [Driver.validate, repinned, accepted, acceptedOther]
    rfl
  simp only [validate, driver]
  rfl

omit apart in
theorem createContext {template : List UInt32}
    (accepted : device.driver.pins.validate template.length = .ok ())
    (acceptedOther : map.validate template.length = .ok ()) :
    InStep (fun event => !event.aboutPins) (Workspace.Resembles same)
      (device.createContext template) ((device.repinned pins map).createContext template) := by
  apply matches_query_bind
  rintro machine _ ⟨_, ⟨hardware, _, rfl⟩, rfl⟩
  have checked : (device.repinned pins map).newContext template machine.context =
      device.newContext template machine.context := by
    simp only [newContext, validate_repinned map accepted acceptedOther]
  rw [checked]
  cases device.newContext template machine.context with
  | error reason => exact matches_fail _
  | ok context =>
      apply matches_update
      rintro machine _ ⟨_, ⟨hardware, holds, rfl⟩, rfl⟩
      exact ⟨_, ⟨hardware, holds, rfl⟩, rfl⟩

theorem perform {request : Request} (accepted : device.driver.pins.Accepts request)
    (acceptedOther : map.Accepts request) :
    Alike same (device.perform request) ((device.repinned pins map).perform request) := by
  apply alike_iff_inStep.mpr
  apply (apart.lockstep map).perform
  rintro template rfl
  exact createContext map accepted acceptedOther

theorem history {happenings others : List (Happening σ)}
    (resemble : List.Forall₂ (Happening.Resembles same) happenings others)
    (accepted : ∀ request, .asked request ∈ happenings →
      device.driver.pins.Accepts request ∧ map.Accepts request) :
    Alike same (device.history happenings) ((device.repinned pins map).history others) := by
  apply alike_iff_inStep.mpr
  apply (apart.lockstep map).history (resemble.imp fun _ _ resembles => resembles.inStep)
  intro template member
  obtain ⟨accepts, acceptsOther⟩ := accepted _ member
  exact createContext map accepts acceptsOther

end PinsApart

/-- Two devices that are equal but for their pin controllers and their pin maps undergo the same,
starting alike. Then they report the same, but for the selection of pins, and they are left alike
in every record and in all of the hardware that is not left to the pins, and show the same time.
Whatever they are asked for next has the same result. Each of the pin controllers may be missing,
work, or refuse whenever it likes; the pin maps need only be valid for the contexts that are
created. -/
theorem pins_unnoticed (device : Device σ) {pins : Option (PinController σ)}
    {same : σ → σ → Prop} (apart : device.PinsApart pins same) (map : PinMap)
    {happenings others : List (Happening σ)}
    (resemble : List.Forall₂ (Happening.Resembles same) happenings others)
    (accepted : ∀ request, .asked request ∈ happenings →
      device.driver.pins.Accepts request ∧ map.Accepts request)
    (machine : Machine σ) {hardware : σ} (begins : same machine.hardware hardware) :
    let twin := device.repinned pins map
    let outcome := device.history happenings machine
    let outcomeTwin := twin.history others { machine with hardware }
    outcomeTwin.events.filter (fun event => !event.aboutPins) =
        outcome.events.filter (fun event => !event.aboutPins) ∧
      outcomeTwin.state = { outcome.state with hardware := outcomeTwin.state.hardware } ∧
      same outcome.state.hardware outcomeTwin.state.hardware ∧
      (∀ timer, device.timer = some timer →
        (timer.now outcomeTwin.state.hardware).1 = (timer.now outcome.state.hardware).1) ∧
      ∀ request, device.driver.pins.Accepts request → map.Accepts request →
        (twin.perform request outcomeTwin.state).result =
          (device.perform request outcome.state).result := by
  intro twin outcome outcomeTwin
  have agrees := apart.history map resemble accepted machine _ ⟨hardware, begins, rfl⟩
  obtain ⟨after, alike, left⟩ := agrees.state
  have state : outcomeTwin.state = { outcome.state with hardware := after } := left
  refine ⟨agrees.events, ?_, ?_, ?_, ?_⟩
  · rw [state]
  · rw [state]
    exact alike
  · intro timer present
    rw [state]
    exact (apart.timer timer present _ _ alike).1
  · intro request accepts acceptsOther
    exact (apart.perform map accepts acceptsOther _ _ agrees.state).result

/-! ## A board whose pins refuse -/

/-- The boards differ in nothing but whether pin states are refused. -/
def SameButPins (board other : Bench.Board) : Prop :=
  ∃ refuse, other = board.refusePins refuse

theorem sameButPins_equivalence : Equivalence SameButPins where
  refl board := ⟨board.pinsRefuse, rfl⟩
  symm := by
    rintro board _ ⟨refuse, rfl⟩
    exact ⟨board.pinsRefuse, rfl⟩
  trans := by
    rintro board _ _ ⟨_, rfl⟩ ⟨refuse, rfl⟩
    exact ⟨refuse, rfl⟩

/-- Nothing but the pin controller of the serial port asks whether pin states are refused. -/
theorem uart_pinsApart : Bench.Uart.device.PinsApart none SameButPins where
  equivalence := sameButPins_equivalence
  transport := {
    read := by
      rintro offset board _ ⟨refuse, rfl⟩
      exact ⟨rfl, rfl, refuse, rfl⟩
    write := by
      rintro offset value board _ ⟨refuse, rfl⟩
      exact ⟨rfl, rfl, refuse, rfl⟩ }
  hooks := by
    rintro stage hook present board _ ⟨refuse, rfl⟩
    cases stage <;> cases present <;> exact ⟨rfl, refuse, rfl⟩
  timer := by
    rintro timer present board _ ⟨refuse, rfl⟩
    cases present
    exact ⟨rfl, refuse, rfl⟩
  clocks := by
    intro clock member
    rw [List.mem_singleton.mp member]
    rintro board _ ⟨refuse, rfl⟩
    exact ⟨rfl, ⟨refuse, rfl⟩, refuse, rfl⟩
  channels := by
    intro channel member
    rw [List.mem_singleton.mp member]
    exact ⟨fun _ _ alike => by obtain ⟨refuse, rfl⟩ := alike; rfl, fun _ _ alike => alike,
      fun _ _ alike => alike⟩
  selected := by
    intro controller present state board
    rcases present with present | absent
    · cases present
      exact ⟨board.pinsRefuse, rfl⟩
    · cases absent

/-- A serial port whose pin controller refuses is suspended and resumed just like one that has no
pins at all. -/
theorem uart_pins_unnoticed :
    let port := Bench.Uart.device
    let bare := port.repinned none .unchanged
    let happenings : List (Happening Bench.Board) :=
      [.asked (.createContext Bench.Uart.template), .asked .runtimeResume, .asked .runtimeSuspend]
    let stubborn : Machine Bench.Board := .initial (Bench.Uart.board.refusePins true) [0, 0, 0, 0]
    let outcome := port.history happenings stubborn
    let outcomeBare := bare.history happenings { stubborn with hardware := Bench.Uart.board }
    outcome.events.any Event.aboutPins = true ∧
      outcomeBare.events.filter (fun event => !event.aboutPins) =
        outcome.events.filter (fun event => !event.aboutPins) ∧
      (bare.perform .resume outcomeBare.state).result =
        (port.perform .resume outcome.state).result := by
  intro port bare happenings stubborn outcome outcomeBare
  have resemble : List.Forall₂ (Happening.Resembles SameButPins) happenings happenings :=
    .cons (.asked _) (.cons (.asked _) (.cons (.asked _) .nil))
  have accepted : ∀ request, .asked request ∈ happenings →
      port.driver.pins.Accepts request ∧ PinMap.unchanged.Accepts request := by
    intro request member
    simp only [happenings, List.mem_cons, Happening.asked.injEq, List.not_mem_nil, or_false]
      at member
    rcases member with rfl | rfl | rfl
    · exact ⟨rfl, rfl⟩
    · exact ⟨trivial, trivial⟩
    · exact ⟨trivial, trivial⟩
  have unnoticed := port.pins_unnoticed uart_pinsApart .unchanged resemble accepted stubborn
    ⟨false, rfl⟩
  exact ⟨by decide +kernel, unnoticed.1, unnoticed.2.2.2.2 .resume trivial trivial⟩

end Device

end DevicePower
