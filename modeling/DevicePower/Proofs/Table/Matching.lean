import DevicePower.Proofs.Table.Lockstep

/-!
# Tables on hardware that is the same

A relation between hardware states says which differences do not matter. If a transport and a
timer respect it, that is, if they answer the same on hardware that is the same and leave it the
same, then so does everything that is made of accesses, readings and context slots: entries,
tables and callbacks.
-/

namespace DevicePower

open TableM Traced

variable {σ α : Type}

/-- The change answers the same on hardware that is the same, and leaves it the same. -/
def ActsAlike (same : σ → σ → Prop) (change : σ → α × σ) : Prop :=
  ∀ hardware other, same hardware other →
    (change other).1 = (change hardware).1 ∧ same (change hardware).2 (change other).2

/-- Every access answers the same on hardware that is the same, and leaves it the same. -/
structure Transport.Respects (transport : Transport σ) (same : σ → σ → Prop) : Prop where
  read : ∀ offset, Matches (fun _ => true) same (transport.read offset) (transport.read offset)
  write : ∀ offset value,
    Matches (fun _ => true) same (transport.write offset value) (transport.write offset value)

/-- The registers and the timer answer the same on hardware that is the same. -/
structure Port.Respects (port : Port σ) (same : σ → σ → Prop) : Prop where
  transport : port.transport.Respects same
  timer : ∀ timer, port.timer = some timer → ActsAlike same timer.now

/-- The workspaces have the same context, and hardware that is the same. -/
def Workspace.Resembles (same : σ → σ → Prop) (first second : Workspace σ) : Prop :=
  ∃ hardware, same first.hardware hardware ∧ second = { first with hardware }

namespace TableM

/-- The computation does the same in workspaces with hardware that is the same. -/
abbrev Respects (same : σ → σ → Prop) (computation : TableM σ α) : Prop :=
  Matches (fun _ => true) (Workspace.Resembles same) computation computation

variable {same : σ → σ → Prop} {transport : Transport σ}

theorem respects_reach {computation : BusM σ α}
    (matched : Matches (fun _ => true) same computation computation) :
    Respects same (reach computation) := by
  apply matched.attempt.within
  · rintro workspace _ ⟨hardware, holds, rfl⟩
    exact holds
  · rintro workspace _ inner innerOther ⟨hardware, _, rfl⟩ holds
    exact ⟨innerOther, holds, rfl⟩

theorem respects_readAccess (respects : transport.Respects same) (offset : UInt32) :
    Respects same (readAccess transport offset) :=
  (respects_reach (respects.read offset)).bind fun _ =>
    (matches_emit _).bind fun _ => matches_pure _

theorem respects_writeAccess (respects : transport.Respects same) (offset value : UInt32) :
    Respects same (writeAccess transport offset value) :=
  (respects_reach (respects.write offset value)).bind fun _ =>
    (matches_emit _).bind fun _ => matches_pure _

theorem respects_load (slot : Nat) :
    Respects same (load slot : TableM σ (Except ConfigError UInt32)) := by
  apply matches_query
  rintro workspace _ ⟨hardware, _, rfl⟩
  rfl

/-- What has to do with the context only is done in the same way. -/
theorem respects_act {change : Workspace σ → α × Workspace σ}
    (apart : ∀ workspace hardware, change { workspace with hardware } =
      ((change workspace).1, { (change workspace).2 with hardware }))
    (kept : ∀ workspace, (change workspace).2.hardware = workspace.hardware) :
    Respects same (act change) := by
  apply matches_act
  · rintro workspace _ ⟨hardware, _, rfl⟩
    rw [apart]
  · rintro workspace _ ⟨hardware, holds, rfl⟩
    refine ⟨hardware, ?_, by rw [apart]⟩
    rwa [kept]

theorem respects_store (slot : Nat) (value : UInt32) :
    Respects same (store slot value : TableM σ (Except ConfigError Unit)) := by
  apply respects_act
  · intro workspace hardware
    cases workspace.context.set slot value <;> rfl
  · intro workspace
    cases workspace.context.set slot value <;> rfl

theorem respects_inspect : Respects same (inspect : TableM σ (List UInt32 × Bool)) := by
  apply matches_query
  rintro workspace _ ⟨hardware, _, rfl⟩
  rfl

theorem respects_populate (template : List UInt32) :
    Respects same (populate template : TableM σ (Except ConfigError Unit)) := by
  apply respects_act
  · intro workspace hardware
    cases workspace.context.populate template <;> rfl
  · intro workspace
    cases workspace.context.populate template <;> rfl

theorem respects_replace (storage : List UInt32) :
    Respects same (replace storage : TableM σ Unit) := by
  apply matches_update
  rintro workspace _ ⟨hardware, holds, rfl⟩
  exact ⟨hardware, holds, rfl⟩

theorem respects_reading {timer : Timer σ} (respects : ActsAlike same timer.now) :
    Respects same (reading timer) := by
  have taken : Respects same (act fun workspace : Workspace σ =>
      ((timer.now workspace.hardware).1,
        { workspace with hardware := (timer.now workspace.hardware).2 })) := by
    apply matches_act
    · rintro workspace _ ⟨hardware, holds, rfl⟩
      exact (respects _ _ holds).1
    · rintro workspace _ ⟨hardware, holds, rfl⟩
      exact ⟨_, (respects _ _ holds).2, rfl⟩
  exact taken.bind fun _ => (matches_emit _).bind fun _ => matches_pure _

end TableM

/-- What a port consists of does the same in workspaces with hardware that is the same. -/
theorem Port.Respects.lockstep {same : σ → σ → Prop} {port : Port σ}
    (respects : port.Respects same) : port.Lockstep (Workspace.Resembles same) where
  readAccess := respects_readAccess respects.transport
  writeAccess := respects_writeAccess respects.transport
  load := respects_load
  store := respects_store
  inspect := respects_inspect
  populate := respects_populate
  replace := respects_replace
  reading timer present := respects_reading (respects.timer timer present)

end DevicePower
