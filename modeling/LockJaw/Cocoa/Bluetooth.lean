import LockJaw.Cocoa.Date
import LockJaw.Cocoa.UUID

/-! What CoreBluetooth keeps for a central: the peripherals it vends, their
connections and the commands sent to the radio. Commands only start something;
the radio answers later, in an order of its own. -/
namespace Cocoa

inductive CBCentralManagerState where
  | unknown
  | resetting
  | unsupported
  | unauthorized
  | poweredOff
  | poweredOn
deriving DecidableEq, Repr

inductive CBPeripheralState where
  | disconnected
  | connecting
  | connected
  | disconnecting
deriving DecidableEq, Repr

/-- A reference to a peripheral object. CoreBluetooth vends one object for an
identifier, and `isEqual:` compares identifiers. -/
structure CBPeripheral where
  identifier : NSUUID
deriving DecidableEq

/-- The connection of one peripheral. A connection attempt is pending while the
peripheral is connecting; one issued during a disconnection waits for its end. -/
inductive Link where
  | disconnected
  | connecting
  | connected
  | disconnecting (attemptWaits : Bool)
deriving DecidableEq, Repr

namespace Link

def state : Link → CBPeripheralState
  | .disconnected => .disconnected
  | .connecting => .connecting
  | .connected => .connected
  | .disconnecting _ => .disconnecting

def attemptPending : Link → Bool
  | .connecting => true
  | .disconnecting attemptWaits => attemptWaits
  | _ => false

/-- The connection is up, or an attempt to bring it up is pending. -/
def opens : Link → Bool
  | .connected => true
  | link => link.attemptPending

/-- `connectPeripheral:options:`. The attempt has no time-out. -/
def connect : Link → Link
  | .disconnected => .connecting
  | .disconnecting _ => .disconnecting true
  | link => link

/-- `cancelPeripheralConnection:` ends a pending or an established connection. -/
def cancel : Link → Link
  | .disconnected => .disconnected
  | _ => .disconnecting false

end Link

/-- What the radio may report about one peripheral. -/
inductive RadioAnswer where
  | connects
  | failsToConnect
  | disconnects
deriving DecidableEq, Repr

/-- The link after an answer, or nothing where the answer cannot come. An
established connection may drop by itself. -/
def Link.answer : Link → RadioAnswer → Option Link
  | .connecting, .connects => some .connected
  | .connecting, .failsToConnect => some .disconnected
  | .connected, .disconnects => some .disconnected
  | .disconnecting attemptWaits, .disconnects =>
      some (if attemptWaits then .connecting else .disconnected)
  | _, _ => none

/-- The attributes of a peripheral object, with the date the application
associates with it. -/
structure PeripheralObject where
  name : Option String
  link : Link
  discoveryDate : Option NSDate
deriving DecidableEq

inductive Command where
  | scanForPeripherals
  | connectPeripheral (peripheral : CBPeripheral)
  | cancelPeripheralConnection (peripheral : CBPeripheral)
deriving DecidableEq

/-- The peripheral a command is sent to. -/
def Command.target : Command → Option CBPeripheral
  | .scanForPeripherals => none
  | .connectPeripheral peripheral => some peripheral
  | .cancelPeripheralConnection peripheral => some peripheral

/-- The central manager with the commands it was sent, oldest first. -/
structure CBCentralManager where
  state : CBCentralManagerState
  commands : List Command
deriving DecidableEq

/-- Everything the radio can do to a link. -/
theorem Link.answer_cases {link after : Link} {answer : RadioAnswer}
    (h : link.answer answer = some after) :
    (link = .connecting ∧ answer = .connects ∧ after = .connected) ∨
    (link = .connecting ∧ answer = .failsToConnect ∧ after = .disconnected) ∨
    (link = .connected ∧ answer = .disconnects ∧ after = .disconnected) ∨
    (∃ attemptWaits, link = .disconnecting attemptWaits ∧ answer = .disconnects ∧
      after = if attemptWaits then .connecting else .disconnected) := by
  cases link with
  | disconnected => cases answer <;> cases h
  | connecting => cases answer <;> cases h <;> simp
  | connected =>
      cases answer <;> cases h
      simp
  | disconnecting attemptWaits =>
      cases answer <;> cases h
      simp

/-- The radio starts no attempt of its own, and only an attempt leads to a
connection. -/
theorem Link.idle_of_answer {link after : Link} {answer : RadioAnswer}
    (h : link.answer answer = some after) (hIdle : link.attemptPending = false) :
    after.attemptPending = false ∧ after ≠ .connected := by
  rcases Link.answer_cases h with ⟨rfl, _, _⟩ | ⟨rfl, _, _⟩ | ⟨rfl, _, rfl⟩ |
    ⟨attemptWaits, rfl, _, rfl⟩
  · cases hIdle
  · cases hIdle
  · exact ⟨rfl, by decide⟩
  · cases hIdle
    exact ⟨rfl, by decide⟩

/-- The radio opens nothing that was not opening. -/
theorem Link.opens_of_answer {link after : Link} {answer : RadioAnswer}
    (h : link.answer answer = some after) (hOpens : after.opens = true) : link.opens = true := by
  rcases Link.answer_cases h with ⟨rfl, _, _⟩ | ⟨rfl, _, _⟩ | ⟨rfl, _, _⟩ |
    ⟨attemptWaits, rfl, _, rfl⟩
  · rfl
  · rfl
  · rfl
  · cases attemptWaits with
    | false => cases hOpens
    | true => rfl

/-- An attempt that fails and a connection that drops are the only answers that
close what was opening. -/
theorem Link.opens_answer {link after : Link} {answer : RadioAnswer}
    (h : link.answer answer = some after)
    (hFails : ¬ (link = .connecting ∧ answer = .failsToConnect))
    (hDrops : ¬ (link = .connected ∧ answer = .disconnects)) : after.opens = link.opens := by
  rcases Link.answer_cases h with ⟨rfl, _, rfl⟩ | ⟨hLink, hAnswer, _⟩ | ⟨hLink, hAnswer, _⟩ |
    ⟨attemptWaits, rfl, _, rfl⟩
  · rfl
  · exact absurd ⟨hLink, hAnswer⟩ hFails
  · exact absurd ⟨hLink, hAnswer⟩ hDrops
  · cases attemptWaits <;> rfl

end Cocoa
