import LockJaw.Bluetooth.World
import LockJaw.Semantics.Run
import Mathlib.Data.Set.Insert

/-! What the application is for, without its screens, tables, queues and indices, over any
type of devices: a keyring. A device is heard of and then taken, and who was taken once stays
owned; the device in hand is locked and unlocked by turns of the key, which are logged. A
restart forgets who was heard of and what is in hand, and nothing else. -/
namespace LockJaw

open Cocoa Semantics

@[ext] structure Keyring (Device : Type*) where
  name : Device → Option String
  link : Device → Link
  heard : Set Device
  owned : Set Device
  inHand : Option Device
  log : List LKJHistory

inductive KeyringEvent (Device : Type*) where
  | restart (name : Device → Option String) (link : Device → Link)
  | hear (device : Device)
  | take (device : Device)
  | turn (now : NSDate)
  | answer (device : Device) (answer : RadioAnswer)
  | rename (device : Device) (name : Option String)

/-- An event other than a restart. -/
def KeyringEvent.inSession {Device : Type*} :
    KeyringEvent Device → Option (KeyringEvent Device)
  | .restart _ _ => none
  | event => some event

/-- What a keyring refuses: to hear of a device without a name, and to take one that was not
heard of. -/
inductive KeyringFailure where
  | nameless
  | unheard

namespace Keyring

variable {Device : Type*}

def new : Keyring Device where
  name := fun _ => none
  link := fun _ => .disconnected
  heard := ∅
  owned := ∅
  inHand := none
  log := []

section Steps
variable [DecidableEq Device]

def setLink (keyring : Keyring Device) (device : Device) (link : Link) : Keyring Device :=
  { keyring with link := Function.update keyring.link device link }

/-- A turn of the key in a device locks what is connected and unlocks what is disconnected;
between the two the key does not turn. -/
def turnIn (keyring : Keyring Device) (device : Device) (now : NSDate) : Keyring Device :=
  let entry (isLockAction : Bool) : LKJHistory :=
    { activatedDate := some now, isLockAction := isLockAction, lockName := keyring.name device }
  match keyring.link device with
  | .connected =>
      { keyring.setLink device (.disconnecting false) with log := keyring.log ++ [entry true] }
  | .disconnected =>
      { keyring.setLink device .connecting with log := keyring.log ++ [entry false] }
  | _ => keyring

def turn (keyring : Keyring Device) (now : NSDate) : Keyring Device :=
  match keyring.inHand with
  | some device => keyring.turnIn device now
  | none => keyring

open Classical in
noncomputable def step (keyring : Keyring Device) :
    KeyringEvent Device → Except KeyringFailure (Keyring Device)
  | .restart name link =>
      .ok { keyring with name := name, link := link, heard := ∅, inHand := none }
  | .hear device =>
      if keyring.name device = none then .error .nameless
      else .ok { keyring with heard := insert device keyring.heard }
  | .take device =>
      if device ∈ keyring.heard then
        .ok { keyring with owned := insert device keyring.owned, inHand := some device }
      else .error .unheard
  | .turn now => .ok (keyring.turn now)
  | .answer device answer =>
      .ok (keyring.setLink device
        (((keyring.link device).answer answer).getD (keyring.link device)))
  | .rename device name =>
      .ok { keyring with name := Function.update keyring.name device name }

/-- A device with a name is heard. -/
theorem step_hear {keyring : Keyring Device} {device : Device}
    (hName : keyring.name device ≠ none) :
    keyring.step (.hear device) = .ok { keyring with heard := insert device keyring.heard } := by
  rw [step, if_neg hName]

/-- A device that was heard can be taken. -/
theorem step_take {keyring : Keyring Device} {device : Device}
    (hHeard : device ∈ keyring.heard) :
    keyring.step (.take device) = .ok { keyring with
      owned := insert device keyring.owned
      inHand := some device } := by
  rw [step, if_pos hHeard]

/-- A turn of the key is about links and the log. -/
theorem turn_frame (keyring : Keyring Device) (now : NSDate) :
    ∃ link log, keyring.turn now = { keyring with link := link, log := keyring.log ++ log } := by
  unfold turn
  split
  · unfold turnIn
    dsimp only
    split
    · exact ⟨_, _, rfl⟩
    · exact ⟨_, _, rfl⟩
    · exact ⟨_, [], by rw [List.append_nil]⟩
  · exact ⟨_, [], by rw [List.append_nil]⟩

/-- What is in hand was heard of and is owned. -/
structure Holds (keyring : Keyring Device) : Prop where
  heard : ∀ device ∈ keyring.inHand, device ∈ keyring.heard
  owned : ∀ device ∈ keyring.inHand, device ∈ keyring.owned

/-- What is in hand stays heard of and owned through every step. -/
theorem Holds.step {keyring after : Keyring Device} {event : KeyringEvent Device}
    (h : keyring.Holds) (hStep : keyring.step event = .ok after) : after.Holds := by
  cases event with
  | restart name link =>
      cases hStep
      exact ⟨nofun, nofun⟩
  | hear device =>
      simp only [Keyring.step] at hStep
      split at hStep
      · cases hStep
      · cases hStep
        exact ⟨fun other hOther => .inr (h.heard other hOther), h.owned⟩
  | take device =>
      simp only [Keyring.step] at hStep
      split at hStep
      · rename_i hHeard
        cases hStep
        constructor
        · intro other hOther
          cases hOther
          exact hHeard
        · intro other hOther
          cases hOther
          exact .inl rfl
      · cases hStep
  | turn now =>
      cases hStep
      obtain ⟨link, log, hTurn⟩ := keyring.turn_frame now
      rw [hTurn]
      exact ⟨h.heard, h.owned⟩
  | answer device answer =>
      cases hStep
      exact ⟨h.heard, h.owned⟩
  | rename device name =>
      cases hStep
      exact ⟨h.heard, h.owned⟩

/-- Whatever a run leaves in hand was heard of and is owned. -/
theorem holds_of_run {history : History (Keyring Device) (KeyringEvent Device)}
    {keyring : Keyring Device} (run : Run step new history keyring) : keyring.Holds :=
  run.invariant Holds ⟨nofun, nofun⟩ fun _ _ _ hState hStep => hState.step hStep

end Steps

/-- The events of a history, the restarts left out. -/
def sessionEvents (history : History (Keyring Device) (KeyringEvent Device)) :
    List (KeyringEvent Device) :=
  history.filterMap fun entry => entry.2.inSession

end Keyring

end LockJaw
