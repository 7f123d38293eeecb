import LockJaw.Semantics.Run
import LockJaw.Semantics.Simulation
import LockJaw.Cocoa.Array
import LockJaw.Cocoa.Bluetooth
import LockJaw.Cocoa.Results
import LockJaw.Bluetooth.Controller
import LockJaw.Bluetooth.Methods
import LockJaw.Bluetooth.Roster
import LockJaw.Bluetooth.Refinement
import LockJaw.Bluetooth.Selection
import LockJaw.Bluetooth.Sessions
import LockJaw.Bluetooth.Listing
import LockJaw.Lock.Commands
import LockJaw.Lock.Screen
import LockJaw.Lock.Picture
import LockJaw.Lock.History
import LockJaw.Cocoa.TableView
import LockJaw.Connection.Screen
import LockJaw.Connection.Rows
import LockJaw.Connection.Taps
import LockJaw.Connection.Loss
import LockJaw.Bluetooth.Availability
import LockJaw.Bluetooth.Expiration
import LockJaw.Bluetooth.Removal
import LockJaw.Bluetooth.Store
import LockJaw.Connection.Labels
import LockJaw.Connection.Batches
import LockJaw.Lock.Power
import LockJaw.Tab.Bar
import LockJaw.Tab.Button
import LockJaw.Tab.Navigation
import LockJaw.History.Table
import LockJaw.App.Application
import LockJaw.App.Refinement
import LockJaw.App.Screens
import LockJaw.App.Rows
import LockJaw.App.Commands
import LockJaw.App.History
import LockJaw.App.Exceptions
import LockJaw.App.Touches
import LockJaw.App.Listing
import LockJaw.App.Sessions
import LockJaw.App.Answers
import LockJaw.App.Finality
import LockJaw.App.Foreground
import LockJaw.App.Reach
import LockJaw.App.Settling
import LockJaw.App.NoDevices
import LockJaw.App.Keyring
import LockJaw.App.KeyringRefinement
import LockJaw.Semantics.Checks
import LockJaw.Regex.Expr
import LockJaw.Layout.Pattern
import LockJaw.Layout.Spelling
import LockJaw.Layout.Constraint
import LockJaw.Layout.Meaning
import LockJaw.Layout.Expressible
import LockJaw.Layout.Helper
import LockJaw.Layout.Ledger
import LockJaw.Layout.Linear
