import LockJaw.App.Refinement

/-! The alert about an unreachable lock is modal: while it is in front, the application gets
no touches, and its one button takes it away. So the application with its alert is the
application with some touches left out. -/
namespace LockJaw

open Cocoa Semantics

/-- The application and whether an alert is in front of it. -/
structure Foreground where
  app : Application
  alertShown : Bool

/-- An event of the application, or a touch on the "Ok" of the alert. -/
inductive ForegroundEvent where
  | application (event : ApplicationEvent)
  | dismiss

/-- What an alert in front keeps from the application. -/
def ApplicationEvent.isTouch : ApplicationEvent → Bool
  | .buttonClicked _ | .didSelectRow _ | .changeLockStatus _ => true
  | _ => false

namespace Foreground

/-- The event that gets through to the application. -/
def event (front : Foreground) : ForegroundEvent → Option ApplicationEvent
  | .dismiss => none
  | .application event =>
      if front.alertShown = true ∧ event.isTouch = true then none else some event

section Steps
variable {platform : Platform} {front after : Foreground}

end Steps

end Foreground

end LockJaw
