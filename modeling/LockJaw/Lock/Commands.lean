import LockJaw.Bluetooth.Selection

/-! Lock and unlock commands against the radio, on a device that stays selected.
`isLocked` folds the four states of a peripheral into one bit, so `lockDevice`
cancels a connection but not an attempt that is still under way. -/
namespace LockJaw

open Cocoa Semantics

/-- The radio's answer, with the callback of the central manager's delegate. An
answer that cannot come changes nothing; the delegate does not implement
`centralManager:didFailToConnectPeripheral:error:`. -/
def World.radio (world : World) (peripheral : CBPeripheral) (answer : RadioAnswer) : World :=
  match (world.peripherals peripheral).link.answer answer with
  | none => world
  | some link =>
      let world := world.setLink peripheral link
      match answer with
      | .connects => world.didConnectPeripheral
      | .failsToConnect => world
      | .disconnects => world.didDisconnectPeripheral

inductive CommandEvent where
  | lockDevice
  | unlockDevice
  | radio (peripheral : CBPeripheral) (answer : RadioAnswer)
deriving DecidableEq

def commandStep (world : World) : CommandEvent → Except NSException World
  | .lockDevice => world.lockDevice
  | .unlockDevice => world.unlockDevice
  | .radio peripheral answer => .ok (world.radio peripheral answer)

def CommandEvent.isCall : CommandEvent → Bool
  | .radio _ _ => false
  | _ => true

/-- The most recent call of `lockDevice` or `unlockDevice`. -/
def latestCall (history : History World CommandEvent) : Option CommandEvent :=
  ((history.map Prod.snd).filter CommandEvent.isCall).getLast?

/-- A call is the latest one until the next. -/
theorem latestCall_concat (history : History World CommandEvent) (world : World)
    (event : CommandEvent) :
    latestCall (history ++ [(world, event)]) =
      if event.isCall then some event else latestCall history := by
  simp only [latestCall, List.map_append, List.filter_append, List.getLast?_append]
  cases hCall : event.isCall <;> simp [hCall]

/-- If the latest call locked, the device is not connected and nothing is under way
that could connect it. -/
def LockIsFinal (peripheral : CBPeripheral) (history : History World CommandEvent)
    (world : World) : Prop :=
  latestCall history = some .lockDevice →
    (world.peripherals peripheral).link.attemptPending = false ∧
      world.state peripheral ≠ .connected

namespace World

variable {world after : World} {peripheral : CBPeripheral}

theorem state_eq_connected_iff :
    world.state peripheral = .connected ↔
      (world.peripherals peripheral).link = .connected := by
  cases hLink : (world.peripherals peripheral).link <;> simp [state, hLink, Link.state]

theorem state_eq_disconnected_iff :
    world.state peripheral = .disconnected ↔
      (world.peripherals peripheral).link = .disconnected := by
  cases hLink : (world.peripherals peripheral).link <;> simp [state, hLink, Link.state]

/-- What is selected depends on the lists and the index alone. -/
theorem Designates.congr (h : world.Designates peripheral) (hSame : world.SameLists after) :
    after.Designates peripheral := by
  rw [Designates, hSame]
  exact h

/-- An answer of the radio moves the link it is about, and no other. -/
theorem radio_link (answer : RadioAnswer) (other : CBPeripheral) :
    ((world.radio other answer).peripherals peripheral).link =
      if other = peripheral then
        ((world.peripherals peripheral).link.answer answer).getD
          (world.peripherals peripheral).link
      else (world.peripherals peripheral).link := by
  unfold radio
  split
  · rename_i hAnswer
    split
    · rename_i hSame
      subst hSame
      simp [hAnswer]
    · rfl
  · rename_i link hAnswer
    have hLink : ((world.setLink other link).peripherals peripheral).link =
        if other = peripheral then ((world.peripherals peripheral).link.answer answer).getD
          (world.peripherals peripheral).link
        else (world.peripherals peripheral).link := by
      split
      · rename_i hSame
        subst hSame
        simp [hAnswer]
      · rename_i hOther
        exact setLink_link_of_ne world other link (Ne.symm hOther)
    cases answer <;> exact hLink

/-- The radio does not touch the lists. -/
theorem radio_lists (other : CBPeripheral) (answer : RadioAnswer) :
    world.SameLists (world.radio other answer) := by
  unfold radio
  split
  · rfl
  · cases answer <;> rfl

/-- Locking does not touch the lists. -/
theorem lockDevice_lists (hStep : world.lockDevice = .ok after) :
    world.SameLists after := by
  obtain ⟨peripheral, hDesignates⟩ := designates_of_lockDevice hStep
  rw [lockDevice_of_designates hDesignates] at hStep
  cases hStep
  split <;> rfl

/-- Neither does unlocking. -/
theorem unlockDevice_lists (hStep : world.unlockDevice = .ok after) :
    world.SameLists after := by
  obtain ⟨peripheral, hDesignates⟩ := designates_of_unlockDevice hStep
  rw [unlockDevice_of_designates hDesignates] at hStep
  cases hStep
  split <;> rfl

/-- What `lockDevice` does to the link: only a connection is cancelled. -/
theorem lockDevice_link (h : world.Designates peripheral)
    (hStep : world.lockDevice = .ok after) :
    (after.peripherals peripheral).link =
      if (world.peripherals peripheral).link = .connected then .disconnecting false
      else (world.peripherals peripheral).link := by
  rw [lockDevice_of_designates h] at hStep
  cases hStep
  by_cases hLink : (world.peripherals peripheral).link = .connected
  · rw [if_pos (state_eq_connected_iff.mpr hLink), if_pos hLink, cancelPeripheralConnection,
      setLink_link, hLink]
    rfl
  · rw [if_neg (mt state_eq_connected_iff.mp hLink), if_neg hLink]

end World

/-- So the selection is the same throughout a run of commands. -/
theorem commandStep_lists {world after : World} {event : CommandEvent}
    (hStep : commandStep world event = .ok after) : world.SameLists after := by
  cases event with
  | lockDevice => exact World.lockDevice_lists hStep
  | unlockDevice => exact World.unlockDevice_lists hStep
  | radio peripheral answer =>
      cases hStep
      exact World.radio_lists peripheral answer

section Finality
variable {start world after : World} {history : History World CommandEvent}
  {peripheral : CBPeripheral}

/-- The selection stays what it was. -/
theorem designates_of_commandRun (run : Run commandStep start history world)
    (hSelected : start.Designates peripheral) : world.Designates peripheral := by
  refine run.invariant (fun world => world.Designates peripheral) hSelected ?_
  intro state event after hState hStep
  exact hState.congr (commandStep_lists hStep)

/-- A lock call made while no attempt is pending leaves the device closed, and the
radio keeps it so. -/
theorem LockIsFinal.step {event : CommandEvent}
    (h : LockIsFinal peripheral history world) (hSelected : world.Designates peripheral)
    (hStep : commandStep world event = .ok after)
    (hIdle : event = .lockDevice →
      (world.peripherals peripheral).link.attemptPending = false) :
    LockIsFinal peripheral (history ++ [(world, event)]) after := by
  intro hLatest
  rw [latestCall_concat] at hLatest
  rw [Ne, World.state_eq_connected_iff]
  cases event with
  | unlockDevice => cases hLatest
  | lockDevice =>
      rw [World.lockDevice_link hSelected hStep]
      split
      · exact ⟨rfl, by decide⟩
      · rename_i hLink
        exact ⟨hIdle rfl, hLink⟩
  | radio other answer =>
      cases hStep
      obtain ⟨hPending, hOpen⟩ := h hLatest
      rw [Ne, World.state_eq_connected_iff] at hOpen
      rw [World.radio_link]
      split
      · cases hAnswer : (world.peripherals peripheral).link.answer answer with
        | none => exact ⟨hPending, hOpen⟩
        | some link => exact Link.idle_of_answer hAnswer hPending
      · exact ⟨hPending, hOpen⟩

/-- A lock call made while an attempt is pending leaves it pending. -/
theorem attemptPending_of_lockIsFinal (hSelected : world.Designates peripheral)
    (hStep : commandStep world .lockDevice = .ok after)
    (hFinal : LockIsFinal peripheral (history ++ [(world, .lockDevice)]) after) :
    (world.peripherals peripheral).link.attemptPending = false := by
  have hLatest : latestCall (history ++ [(world, .lockDevice)]) = some .lockDevice := by
    rw [latestCall_concat]
    rfl
  have hPending := (hFinal hLatest).1
  rw [World.lockDevice_link hSelected hStep] at hPending
  split at hPending
  · rename_i hLink
    rw [hLink]
    rfl
  · exact hPending

/-- A lock command is final throughout a run exactly when no lock call of the run
was made while a connection attempt was pending. -/
theorem lock_is_final_iff (run : Run commandStep start history world)
    (hSelected : start.Designates peripheral) :
    (∀ prior rest state, history = prior ++ rest → Run commandStep start prior state →
      LockIsFinal peripheral prior state) ↔
    ∀ entry ∈ history, entry.2 = .lockDevice →
      (entry.1.peripherals peripheral).link.attemptPending = false := by
  constructor
  · rintro hFinal ⟨state, event⟩ hEntry hLock
    obtain ⟨prior, rest, rfl⟩ := List.append_of_mem hEntry
    obtain ⟨next, hPrior, hStep, _⟩ := run.split_cons
    obtain rfl : event = .lockDevice := hLock
    have hNext : Run commandStep start (prior ++ [(state, .lockDevice)]) next :=
      .snoc hPrior hStep
    exact attemptPending_of_lockIsFinal (designates_of_commandRun hPrior hSelected) hStep
      (hFinal _ rest next (by simp) hNext)
  · intro hIdle prior rest state hSplit hPrior
    have hPermitted : ∀ entry ∈ prior, entry.2 = .lockDevice →
        (entry.1.peripherals peripheral).link.attemptPending = false := by
      intro entry hEntry
      exact hIdle entry (hSplit ▸ List.mem_append_left rest hEntry)
    apply hPrior.induction_of_permitted (fun state event => event = .lockDevice →
      (state.peripherals peripheral).link.attemptPending = false) (LockIsFinal peripheral)
      nofun ?_ hPermitted
    intro history state event after before hBefore hEvent hStep
    exact hBefore.step (designates_of_commandRun before hSelected) hStep hEvent

end Finality

/-- The front door was discovered and picked, and is not connected. -/
def frontDoorWorld : World :=
  ((freshWorld.didDiscoverPeripheral frontDoor ⟨100, 20⟩).moveToKnown 0 frontDoor).selectConnected
    frontDoor

theorem frontDoorWorld_designates : frontDoorWorld.Designates frontDoor :=
  World.selectedPeripheral_eq_ok.mp (by decide)

/-- The device is connected before it is locked. -/
def unlockThenLock : List CommandEvent :=
  [.unlockDevice, .radio frontDoor .connects, .lockDevice, .radio frontDoor .disconnects]

theorem lock_is_final_after_connection :
    ∃ world, exec commandStep frontDoorWorld unlockThenLock = .ok world ∧
      LockIsFinal frontDoor (historyOf commandStep frontDoorWorld unlockThenLock) world := by
  obtain ⟨world, hExec⟩ : ∃ world, exec commandStep frontDoorWorld unlockThenLock = .ok world :=
    ⟨_, rfl⟩
  have run := run_of_exec hExec
  have hIdle : ∀ entry ∈ historyOf commandStep frontDoorWorld unlockThenLock,
      entry.2 = .lockDevice →
        (entry.1.peripherals frontDoor).link.attemptPending = false := by
    refine List.forall_mem_cons.mpr ⟨by decide, ?_⟩
    refine List.forall_mem_cons.mpr ⟨by decide, ?_⟩
    refine List.forall_mem_cons.mpr ⟨fun _ => by decide, ?_⟩
    exact List.forall_mem_cons.mpr ⟨by decide, List.forall_mem_nil _⟩
  have hFinal := (lock_is_final_iff run frontDoorWorld_designates).mpr hIdle
  exact ⟨world, hExec, hFinal _ [] world (by simp) run⟩

/-- The device is locked while it connects, and opens all the same. -/
def lockWhileConnecting : List CommandEvent :=
  [.unlockDevice, .lockDevice, .radio frontDoor .connects]

theorem lock_not_final_while_connecting :
    ∃ world, exec commandStep frontDoorWorld lockWhileConnecting = .ok world ∧
      world.state frontDoor = .connected ∧
      ¬ LockIsFinal frontDoor (historyOf commandStep frontDoorWorld lockWhileConnecting)
        world := by
  obtain ⟨world, hExec, hState⟩ :
      ∃ world, exec commandStep frontDoorWorld lockWhileConnecting = .ok world ∧
        world.state frontDoor = .connected := ⟨_, rfl, by decide⟩
  have hLatest : latestCall (historyOf commandStep frontDoorWorld lockWhileConnecting) =
      some .lockDevice := rfl
  exact ⟨world, hExec, hState, fun hFinal => (hFinal hLatest).2 hState⟩

end LockJaw
