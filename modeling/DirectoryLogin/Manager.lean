import DirectoryLogin.Connection.Open
import DirectoryLogin.Handle
import DirectoryLogin.Pool
import DirectoryLogin.Registry
/-!
# The Connection Manager

The manager hands out handles with open connections, in one of two ways.

- With a pool, idle handles wait on a stack. A handle is made when the stack is empty, and closed when it is full
  on release.
- Without a pool there is one shared handle, and a mutex that is held as long as somebody has it.

A handle keeps the snapshot it was made for. New settings take effect at once for handles made from then on;
a handle that is out is closed when it comes back.
-/

namespace DirectoryLogin

/-! ## §1 State -/

/-- The number of a handle. -/
abbrev HandleId := Nat

/-- The state of the manager, and of everything it manages. -/
structure Manager where
  /-- What settings choose from. -/
  registry : Registry
  active : Snapshot
  /-- The kind of connections that are opened. -/
  connector : ConnectionKind
  /-- How connections are upgraded to TLS, if they are. -/
  tls : Option TlsArguments
  /-- The idle handles, if there is a pool. -/
  pool : Option (Pool HandleId)
  shared : Option HandleId := none
  /-- A handle without a connection, made for the active snapshot. -/
  ready : Option HandleId := none
  /-- The mutex of the shared handle is held. -/
  isLocked : Bool := false
  /-- All handles, by number. -/
  handles : List Handle := []
  /-- Everything outside. -/
  world : World

/-- A step of the manager. -/
abbrev Managed (α : Type) := Session Manager α

namespace Manager

/-- The handle of a number. -/
def handle? (m : Manager) (h : HandleId) : Option Handle :=
  m.handles[h]?

def connection? (m : Manager) (h : HandleId) : Option Connection :=
  (m.handle? h).bind (·.connection)

/-- Change a handle. -/
def updateHandle (m : Manager) (h : HandleId) (f : Handle → Handle) : Manager :=
  { m with handles := m.handles.modify h f }

/-- Give a handle another connection, or none. -/
def setConnection (m : Manager) (h : HandleId) (c : Option Connection) : Manager :=
  m.updateHandle h fun handle => { handle with connection := c }

/-- The handle was made for the active snapshot. -/
def isCurrent (m : Manager) (h : HandleId) : Bool :=
  (m.handle? h).any (·.snapshot == m.active)

/-- The handle belongs to a pool. -/
def isPooled (m : Manager) (h : HandleId) : Bool :=
  (m.handle? h).any (·.pooled)

def poolFor (s : Settings) : Option (Pool HandleId) :=
  if s.poolingEnabled then some { capacity := s.connectionPoolSize.toNat } else none

/-- A connection can be had at once: there is a pool, or the shared handle is open. -/
def isAvailable (m : Manager) : Bool :=
  m.pool.isSome || (m.shared.bind m.connection?).isSome

/-- Start a manager. The settings are checked before anything is opened. -/
def create (registry : Registry) (snapshot : Snapshot) : Session World Manager := do
  let chosen ← Session.ofExcept (registry.collaborators snapshot.settings)
  chosen.notes.forM fun note => modify (·.write note)
  let _ ← Session.ofExcept (Handle.create snapshot false)
  return {
    registry := registry, active := snapshot, connector := chosen.connector, tls := chosen.tls,
    pool := poolFor snapshot.settings, world := ← get }

/-! ## §2 Calls that would wait -/

/-- The calls that may have to wait for the mutex. -/
inductive Call where
  /-- Acquire a handle. -/
  | acquire
  /-- Close the shared handle. -/
  | shutdown
  /-- Make some settings the active ones. -/
  | reconfigure (s : Settings)

/-- The call would wait for the mutex. -/
def waits (m : Manager) : Call → Bool
  | .acquire => m.pool.isNone && m.isLocked
  | .shutdown => m.isLocked
  | .reconfigure s => s.poolingEnabled && m.isLocked

end Manager

namespace Managed

/-! ## §3 Parts of the state -/

/-- A step of the world. -/
def onWorld {α : Type} (x : Session World α) : Managed α :=
  Session.within Manager.world (fun w m => { m with world := w }) x

/-- A step on the connection of a handle. -/
def onConnection {α : Type} (h : HandleId) (x : Exchange α) : Managed α := do
  let m ← get
  match m.connection? h with
  | none => throw (.defect .missingAttribute "'NoneType' object has no attribute 'environment'")
  | some c =>
    Session.within (fun m : Manager => Channel.mk c m.world)
      (fun channel m => { m.setConnection h (some channel.connection) with world := channel.world }) x

/-- Write a message. -/
def say (level : Level) (text : String) : Managed Unit :=
  onWorld (World.say level .connections text)

/-- Take the mutex. -/
def lock : Managed Unit := do
  if (← get).isLocked then throw .blocked
  modify fun m => { m with isLocked := true }

/-- Give the mutex back. -/
def unlock : Managed Unit := do
  if !(← get).isLocked then throw (.defect .badState "release unlocked lock")
  modify fun m => { m with isLocked := false }

/-- Make a handle. -/
def newHandle (snapshot : Snapshot) (pooled : Bool) : Managed HandleId := do
  let handle ← Session.ofExcept (Handle.create snapshot pooled)
  let m ← get
  set { m with handles := m.handles ++ [handle] }
  return m.handles.length

/-! ## §4 Opening and closing -/

/-- One attempt to open a connection. -/
def connect (s : Settings) (attempt : Int) : Managed Connection := do
  let m ← get
  onWorld (Connection.openWith m.connector m.tls (Environment.ofSettings s attempt))

/-- One attempt to open the connection of a handle. -/
def openAttempt (h : HandleId) (s : Settings) (attempt : Int) : Managed Unit := do
  let c ← connect s attempt
  modify (·.setConnection h (some c))

/-- Open the connection of a handle. If the usual URL fails, the alternate one is tried once. -/
def openHandle (h : HandleId) : Managed Unit := do
  let some handle := (← get).handle? h
    | throw (.defect .missingAttribute "'NoneType' object has no attribute 'settings'")
  let s := handle.settings
  (openAttempt h s 0).rescue fun e =>
    -- an interrupt is no reason to try elsewhere
    if !e.isOrdinary then none
    else some <|
      match s.alternateUrl with
      | none => throw (.unreachable s.connectionUrl e)
      | some alternate => do
        say .info ("Connection to " ++ s.connectionUrl.getD "None" ++ " failed (" ++ e.message
          ++ "), trying alternate URL " ++ alternate)
        (openAttempt h s 1).rescue fun e' =>
          if e'.isOrdinary then some (throw (.unreachable (some alternate) e')) else none

/-- Close the connection of a handle, if it has one. What goes wrong is only reported. -/
def closeConnection (h : HandleId) : Managed Unit := do
  if ((← get).connection? h).isNone then return
  (onConnection h Exchange.close).rescue fun e =>
    if e.isOrdinary then some (say .error ("Error closing directory connection: " ++ e.message)) else none
  -- an interrupt does not get here, so it leaves the connection in the handle
  modify (·.setConnection h none)

/-! ## §5 Acquiring and giving back -/

/-- The shared handle for a snapshot. A handle of an older snapshot is closed and replaced. -/
def sharedHandle (snapshot : Snapshot) : Managed HandleId := do
  let m ← get
  match m.shared.filter fun h => (m.handle? h).any (·.snapshot == snapshot) with
  | some h => return h
  | none =>
    match m.shared with
    | some old => closeConnection old
    | none => pure ()
    -- the handle that was made ready is used once, and only for the snapshot it was made for
    let ready := (← get).ready
    modify fun m => { m with ready := none }
    let m ← get
    let h ← match ready.filter fun h => (m.handle? h).any (·.snapshot == snapshot) with
      | some h => pure h
      | none => newHandle snapshot false
    modify fun m => { m with shared := some h }
    return h

/-- A handle to be opened: from the pool, or the shared one under the mutex. -/
def takeHandle : Managed HandleId := do
  let m ← get
  match m.pool with
  | some pool =>
    match pool.pop? with
    | some (h, rest) =>
      set { m with pool := some rest }
      return h
    | none => newHandle m.active true
  | none =>
    lock
    -- whoever gets no handle must not keep the mutex
    (sharedHandle m.active).onFailure Failure.isOrdinary fun _ => unlock

/-- Get a handle with an open connection. Without a pool, the mutex is held until the handle is given back. -/
def acquire : Managed HandleId := do
  let h ← takeHandle
  if ((← get).connection? h).isNone then
    (openHandle h).onFailure Failure.isOrdinary fun _ => do
      if !(← get).isPooled h then unlock
  return h

/-- Give a handle back after a success. A handle of an older snapshot, or one for which the pool has no room, is
closed. -/
def release (h : HandleId) : Managed Unit := do
  let m ← get
  if m.isPooled h then
    -- no pool, an older snapshot and a full pool all come to the same
    match if m.isCurrent h then m.pool.bind (·.push? h) else none with
    | some pool => set { m with pool := some pool }
    | none => closeConnection h
  else
    if !m.isCurrent h then closeConnection h
    unlock

/-- Give a handle back after a failure: it is closed. -/
def close (h : HandleId) : Managed Unit := do
  closeConnection h
  if !(← get).isPooled h then unlock

/-- Close every idle handle. -/
def drainPool : Managed Unit := do
  let m ← get
  match m.pool with
  | none => return
  | some pool =>
    let (idle, empty) := pool.drain
    set { m with pool := some empty }
    idle.forM closeConnection

/-- Run a step with a handle. After a success it is released; after any failure it is closed, and so is every
idle handle. -/
def withConnection {α : Type} (x : HandleId → Managed α) : Managed α := do
  let h ← acquire
  -- interrupts count here too: a connection in an unknown state must not be used again
  let a ← (x h).onFailure (fun _ => true) fun _ => do
    close h
    drainPool
  release h
  return a

/-! ## §6 Life of the manager -/

/-- Close the shared handle and forget it. -/
def closeShared : Managed Unit := do
  lock
  let m ← get
  set { m with shared := none, ready := none, isLocked := false }
  m.shared.toList.forM closeConnection
  m.ready.toList.forM closeConnection

/-- Make a snapshot the active one. Everything that can fail is done before anything is changed. The value is a
handle for the new snapshot. -/
def reconfigure (snapshot : Snapshot) : Managed HandleId := do
  let s := snapshot.settings
  let chosen ← Session.ofExcept ((← get).registry.collaborators s)
  chosen.notes.forM fun note => onWorld (modify (·.write note))
  let h ← newHandle snapshot s.poolingEnabled
  -- all that can be rejected has been checked by now
  let m ← get
  let pool := (Manager.poolFor s).map fun pool => (pool.push? h).getD pool
  set { m with
    active := snapshot, connector := chosen.connector, tls := chosen.tls, pool := pool,
    ready := if s.poolingEnabled then m.ready else some h }
  match m.pool with
  | some old => old.toList.forM closeConnection
  | none => pure ()
  if s.poolingEnabled then closeShared
  say .info "Directory realm reconfigured"
  return h

/-- Open a connection early. A failure is only reported. -/
def start : Managed Unit := do
  let opened : Managed (Option HandleId) := do
    return some (← acquire)
  match ← opened.rescue fun e =>
      if e.isOrdinary then some do
        say .error ("Unable to open directory connection at startup: " ++ e.message)
        return none
      else none with
  | some h => release h
  | none => return

/-- Close the shared handle and every idle one. -/
def shutdown : Managed Unit := do
  closeShared
  drainPool

end Managed

end DirectoryLogin
