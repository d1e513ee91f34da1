import PageBoot.World.Signal

/-!
Events of a page at work: tasks of its event loop, events of its window, and loaded resources.
-/

namespace PageBoot.World

open Page (ConnectorId EventLoop Farewell Job Question Tasks Thing Timer)

/-! ## Tasks -/

def withLoop (w : World) (loop : EventLoop Job) : World := w.onPage ({ · with loop })

/-- Queues tasks in order. -/
def setTimeouts (w : World) (ts : Tasks) : World := w.withLoop (w.page.loop.requestAll ts.requests)

def disconnectSummary : Text := "GWT Code Server Disconnected"

def disconnectDetails : Text :=
  "Most likely, you closed GWT Development Mode. Or, you might have lost network connectivity. To fix this, try restarting GWT Development Mode and <a style=\"color: #FFFFFF; font-weight: bold;\" href=\"javascript:location.reload()\">REFRESH</a> this page."

/-- How the tasks of a page run. -/
def runJob : EventLoop.Runner World Job
  | .labelled label after, loop, w => (after.requests, w.note (.task label loop.clock))
  | .overlay, _, w => ([], w.onPage fun p => p.showGlass disconnectSummary disconnectDetails)

/-- Runs the next task, if there is one. -/
def runOnce (w : World) : Bool × World :=
  let (ran, loop, w) := w.page.loop.runOnce runJob w
  (ran, w.withLoop loop)

/-- Number of tasks, those that are queued by others included. -/
def taskCount : Tasks → Nat
  | .nil => 0
  | .task _ _ _ after rest => 1 + taskCount after + taskCount rest

def jobCount : Job → Nat
  | .labelled _ after => 1 + taskCount after
  | .overlay => 1

/-- Number of tasks in a queue, those that are planned by them included. -/
def workload : List (Timer Job) → Nat
  | [] => 0
  | t :: queue => jobCount t.task + workload queue

/-- Runs tasks until there are none. Every task that will ever run is already in the queue or
planned by one that is. -/
def drain (w : World) : Nat × World :=
  let (n, loop, w) := w.page.loop.runSome runJob (workload w.page.loop.queue) w
  (n, w.withLoop loop)

/-! ## Window -/

def fireResize (w : World) : World :=
  w.page.handlers.resize.foldl (fun w label => w.note (.resize label)) w

/-- Asks all handlers and gives the newest message that is set. -/
def fireBeforeUnload (w : World) : Question × World :=
  (w.page.handlers.question,
    w.page.handlers.beforeUnload.foldl (fun w q => w.note (.beforeUnload q.message)) w)

/-! ## Leaving the page -/

/-- A loss that is reported to a session, by a connector to its listener or in another way. -/
inductive Stir where
  | signal (c : ConnectorId)
  | loss (session : Nat)

def stir (w : World) : Stir → World
  | .signal c => w.signal c
  | .loss i => (w.disconnected i).2

/-- What is done when the page is left, one by one. -/
inductive Duty where
  | say (label : Text)
  | release (table : Nat)
  | hangUp (session : Nat)
  | close (t : Thing)

/-- A call to a connector that a duty ends with. -/
inductive Parting where
  | disconnect (s : Session ConnectorId Recovery) (c : ConnectorId)
  | close (c : ConnectorId)

/-- What a handler does. That of a bridged module releases its objects, then ends its session. -/
def dutiesOf (w : World) : Farewell → List Duty
  | .labelled label => [.say label]
  | .module m =>
    match w.modules[m]? with
    | none => []
    | some m => (m.table.map Duty.release).toList ++ [.hangUp m.session]

/-- Handlers run newest first, then what plugin elements were given is closed. -/
def duties (w : World) : List Duty :=
  w.page.handlers.unload.flatMap w.dutiesOf ++ w.page.owned.map .close

/-- Does a duty up to the call that it ends with. -/
def takeUp (w : World) : Duty → Option Parting × World
  | .say label => (none, w.note (.unload label))
  | .release t => (none, w.closeTable t)
  | .hangUp i =>
    let (ended, w) := w.endSession i
    (ended.map fun (s, c) => .disconnect s c, w)
  | .close t => ((t.connector?.filter w.isClosable).map .close, w)

def part (w : World) : Parting → World
  | .disconnect s c => w.hangUp s c
  | .close c => w.closeConnector c

/-- What is reported while a duty is done: before it is taken up, and then before its call. -/
structure Unrest where
  before : List Stir := []
  between : List Stir := []

def perform (w : World) (d : Duty) (u : Unrest) : World :=
  let (call, w) := (u.before.foldl stir w).takeUp d
  let w := u.between.foldl stir w
  call.elim w w.part

/-- Leaves the page in the given unrest, from the first duty on. -/
def leave (w : World) (unrest : Nat → Unrest) : World :=
  (w.duties.mapIdx fun n d => (d, unrest n)).foldl (fun w (d, u) => w.perform d u)
    (w.onPage fun p => { p with handlers := {}, owned := [] })

/-- Leaves the page. -/
def fireUnload (w : World) : World := w.leave fun _ => {}

/-! ## Resources -/

def subscribe (w : World) (kind : ResourceKind) (o : Watcher) : World :=
  let (n, r) := (w.state.registry kind).subscribe o
  { w with
    state := w.state.setRegistry r kind
    subscriptions := w.subscriptions.set o.label (kind, n) }

def cancel (w : World) (label : Text) : World :=
  match w.subscriptions.get? label with
  | none => w
  | some (kind, n) => { w with state := w.state.setRegistry ((w.state.registry kind).cancel n) kind }

/-- Tells a watcher about an event. `mark` marks a name on its behalf. -/
def tell (mark : ResourceKind → Text → World → Bool × World) (kind : ResourceKind) (name : Text)
    (w : World) (observer : Nat × Watcher) : World :=
  let (n, o) := observer
  let w := w.note (.loaded o.label kind name)
  match o.reaction with
  | none => w
  | some r =>
    if w.fired.contains (kind, n) then w
    else
      let w := { w with fired := (kind, n) :: w.fired }
      let w := match r.mark with
        | none => w
        | some m =>
          let (first, w) := mark kind m w
          w.note (.marked first)
      let w := match r.cancel with
        | none => w
        | some label => w.cancel label
      match r.subscribe with
      | none => w
      | some label => w.subscribe kind { label }

/-- Marks a name and tells the watchers, to the given depth of marks made by watchers. -/
def markWithin : Nat → ResourceKind → Text → World → Bool × World
  | 0, _, _, w => (false, w)
  | depth + 1, kind, name, w =>
    match (w.state.registry kind).mark name with
    | (none, _) => (false, w)
    | (some observers, r) =>
      (true, observers.foldl (tell (markWithin depth) kind name)
        { w with state := w.state.setRegistry r kind })

/-- Marks a resource as loaded; the flag says whether it was not loaded before. A watcher marks
at most one name, at its first event, so marks are nested no deeper than there are watchers. -/
def mark (w : World) (kind : ResourceKind) (name : Text) : Bool × World :=
  markWithin (w.state.scripts.observers.length + w.state.styles.observers.length + 1) kind name w

end PageBoot.World
