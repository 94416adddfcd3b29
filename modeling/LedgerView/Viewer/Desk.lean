import LedgerView.Viewer.Keys
import LedgerView.Workspace.Worker

/-
  A viewer at work with a worker.

  What the viewer asks goes to the worker, and what the worker
  tells goes to the viewer, each in the order in which it was
  said.

  Key definitions include:
    * `Desk`
    * `Desk.start`
    * `Desk.exchange`
    * `Desk.press`
-/

namespace LedgerView

/- A viewer with the worker that it asks. -/
structure Desk where
  worker : Worker
  viewer : Viewer

namespace Desk

/- The time in which a move is begun, run and shown. -/
def exchangeTime : Nat := 4 * Worker.turnPeriod

/- Start both; rows come from where `sourceLabel` says. -/
def start
    (settings : Settings)
    (sourceLabel : String) : Desk :=
  { worker := .start settings
    viewer :=
      { table := settings.firstTable
        sourceLabel := sourceLabel } }

/- Send what was asked. -/
def deliver
    (d : Desk) : Desk :=
  let (viewer, commands) := d.viewer.takeOutbox
  { worker := (d.worker.sendAll commands).1, viewer := viewer }

/- Let the worker go on for some milliseconds. -/
def wait
    (d : Desk)
    (ms : Nat) : Desk :=
  { d with worker := d.worker.wait ms }

/- Receive what was told. -/
def collect
    (d : Desk) : Desk :=
  let (worker, events) := d.worker.poll
  { worker := worker
    viewer := events.foldl Viewer.receive d.viewer }

/- Send what was asked, and receive what comes of it. -/
def exchange
    (d : Desk) : Desk :=
  (d.deliver.wait exchangeTime).collect

/- React to keys; tells the last file to be written. -/
def press
    (d : Desk)
    (target : ExportTarget)
    (presses : List Press) : Desk × Option ExportFile :=
  let (viewer, file) := d.viewer.pressAll target presses
  ({ d with viewer := viewer }.exchange, file)

end Desk

end LedgerView
