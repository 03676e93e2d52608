import DirectoryLogin.Proofs.Manager.Invariants
import DirectoryLogin.Proofs.Realm.HistoryIndependence
/-!
# The Calls of a Realm as Moves

A call of the realm is a run at the desk that begins and ends with the same handles out. Most calls are one block over
a connection, which is repeated on a new connection if it fails in a way that may be mended by that, with messages in
between. What the moves are depends on how those before have ended, so they are computed along the run.

- `Desk.block`, `Desk.answer`: the moves of a block, and of a block with a retry.
- `Realm.moves`: the moves of a call.
- `Realm.run_moves`: they leave the realm as the call does.
-/

namespace DirectoryLogin

open Managed

/-! ## §1 Blocks -/

theorem Managed.onHandle_map {α β : Type} (id : HandleId) (f : α → β) (x : Handle → Exchange α) :
    onHandle id (fun h => f <$> x h) = f <$> onHandle id x := by
  refine Session.ext fun m => ?_
  rw [Session.perform_map]
  rcases hid : m.handle? id with _ | h
  · rw [perform_onHandle_of_none hid, perform_onHandle_of_none hid]
    rfl
  · rw [perform_onHandle_of_some hid, perform_onHandle_of_some hid, perform_onConnection, perform_onConnection]
    rcases m.connection? id with _ | c
    · rfl
    · dsimp only
      rw [Session.perform_map]

namespace Desk

variable {α : Type}

/-- A program that is run for what it does. -/
def discard (x : Handle → Exchange α) (h : Handle) : Exchange Unit :=
  (fun _ => ()) <$> x h

/-- The moves of a block: a handle is acquired, used, and given back, unless none can be had. -/
def block (d : Desk) (x : Handle → Exchange α) : List Move :=
  match (acquire.perform d.manager).1 with
  | .error _ => [.acquire]
  | .ok id =>
    match ((onHandle id x).perform (d.step .acquire).manager).1 with
    | .ok _ => [.acquire, .use id (discard x), .release id]
    | .error _ => [.acquire, .use id (discard x), .abandon id]

/-- The moves of a block that is repeated after some failures. -/
def blockTwice (d : Desk) (description : String) (x : Handle → Exchange α) : List Move :=
  d.block x ++
    match ((attempt x).perform d.manager).1 with
    | .ok _ => []
    | .error e =>
      let note := Move.write
        ⟨.info, .realm, "Directory " ++ description ++ " failed, retrying on a new connection: " ++ e.message⟩
      if e.isRetryable then note :: ((d.run (d.block x)).step note).block x else []

/-- The moves of a block with a retry, the remaining failures of which are reported. -/
def answer (d : Desk) (description : String) (x : Handle → Exchange (Option α)) : List Move :=
  d.blockTwice description x ++
    match ((attemptTwice description x).perform d.manager).1 with
    | .ok _ => []
    | .error e =>
      if e.isOrdinary then [.write ⟨.error, .realm, "Directory " ++ description ++ " failed: " ++ e.message⟩] else []

theorem run_cons (d : Desk) (move : Move) (rest : List Move) : d.run (move :: rest) = (d.step move).run rest := rfl

theorem run_nil (d : Desk) : d.run [] = d := rfl

theorem step_write (d : Desk) (message : Message) :
    d.step (.write message) = ⟨{ d.manager with world := d.manager.world.write message }, d.out⟩ :=
  rfl

theorem run_block (d : Desk) (x : Handle → Exchange α) :
    d.run (d.block x) = ⟨((attempt x).perform d.manager).2, d.out⟩ := by
  have hacquired := step_acquire d
  rw [attempt_eq, withConnection, block]
  rcases hacquire : acquire.perform d.manager with ⟨e | id, m₁⟩
  · rw [hacquire] at hacquired
    rw [Session.perform_bind_of_error hacquire]
    exact hacquired
  rw [hacquire] at hacquired
  rw [Session.perform_bind_of_ok hacquire, Session.perform_bind, Session.perform_onFailure]
  have hacquired : d.step .acquire = ⟨m₁, id :: d.out⟩ := hacquired
  rw [hacquired]
  dsimp only
  -- the use leaves what the body of the block leaves
  have hused : step ⟨m₁, id :: d.out⟩ (.use id (discard x)) = ⟨((onHandle id x).perform m₁).2, id :: d.out⟩ := by
    have hmap : onHandle id (discard x) = (fun _ => ()) <$> onHandle id x := onHandle_map id _ x
    rw [step_of_program (x := onHandle id (discard x)) rfl, hmap, Session.perform_map]
    rfl
  -- an exception of the body costs the handle and the idle ones, and then goes on
  rcases hbody : (onHandle id x).perform m₁ with ⟨e | a, m₂⟩
  all_goals
    rw [hbody] at hused
    dsimp only at hused ⊢
    rw [run_cons, hacquired, run_cons, hused, run_cons, run_nil]
  · have hgiven : step ⟨m₂, id :: d.out⟩ (.abandon id) =
        ⟨((close id >>= fun _ => drainPool).perform m₂).2, (id :: d.out).erase id⟩ := step_of_program rfl
    rw [hgiven, List.erase_cons_head]
    simp only [if_true]
    rcases (close id >>= fun _ => drainPool).perform m₂ with ⟨_ | _, m₃⟩ <;> rfl
  · have hgiven : step ⟨m₂, id :: d.out⟩ (.release id) = ⟨((release id).perform m₂).2, (id :: d.out).erase id⟩ :=
      step_of_program rfl
    rw [hgiven, List.erase_cons_head, Session.perform_bind]
    rcases (release id).perform m₂ with ⟨_ | _, m₃⟩ <;> rfl

theorem run_blockTwice (d : Desk) (description : String) (x : Handle → Exchange α) :
    d.run (d.blockTwice description x) = ⟨((attemptTwice description x).perform d.manager).2, d.out⟩ := by
  have hfirst := run_block d x
  rw [blockTwice, run_append, attemptTwice, Session.perform_rescue]
  rcases hattempt : (attempt x).perform d.manager with ⟨e | a, m₁⟩
  · rw [hattempt] at hfirst
    dsimp only at hfirst ⊢
    -- a failure that may pass is written down, and the block runs again
    by_cases hretry : e.isRetryable = true
    · simp only [hretry, if_true]
      rw [hfirst, run_cons, step_write]
      exact run_block _ x
    · simp only [hretry]
      exact hfirst
  · rw [hattempt] at hfirst
    exact hfirst

/-- **A block with a retry** begins and ends with the same handles out. -/
theorem run_answer (d : Desk) (description : String) (x : Handle → Exchange (Option α)) :
    d.run (d.answer description x) = ⟨((Managed.answer description x).perform d.manager).2, d.out⟩ := by
  have hblocks := run_blockTwice d description x
  rw [answer, run_append, Managed.answer, Session.perform_rescue]
  rcases hattempt : (attemptTwice description x).perform d.manager with ⟨e | a, m₁⟩
  · rw [hattempt] at hblocks
    -- an ordinary failure is written down, and any other is raised
    dsimp only at hblocks ⊢
    by_cases hordinary : e.isOrdinary = true
    · simp only [hordinary, if_true]
      rw [hblocks, run_cons, step_write]
      rfl
    · simp only [hordinary]
      exact hblocks
  · rw [hattempt] at hblocks
    exact hblocks

end Desk

/-! ## §2 Calls -/

namespace Realm

/-- The realm as a desk, while handles are out. -/
def desk (r : Realm) (out : List HandleId) : Desk :=
  ⟨r.manager, out⟩

/-- The moves of a login with a name and a password: a block, and a message about how it has ended. -/
def loginMoves (r : Realm) (out : List HandleId) (username : String) (password : Password) : List Move :=
  let x := fun h => Exchange.authenticate h r.matcher username password
  (r.desk out).answer "authentication" x ++
    match ((Managed.answer "authentication" x).perform r.manager).1 with
    | .error _ => []
    | .ok (some g) =>
      [.write ⟨.info, .realm,
        "Authenticated " ++ username ++ " with " ++ toString g.principal.roles.length ++ " roles"⟩]
    | .ok none => [.write ⟨.info, .realm, "Authentication failed for " ++ username⟩]

/-- The moves of a call of the realm. -/
def moves (r : Realm) (out : List HandleId) : Activity → List Move
  | .start => [.start]
  | .stop => [.shutdown]
  | .authenticate username password =>
    match Login.nonEmpty? username, Login.givenPassword? password with
    | some username, some password => r.loginMoves out username password
    | _, _ => []
  | .getPassword username =>
    if r.settings.userPassword.isNone then []
    else (r.desk out).answer "password lookup" fun h => Exchange.storedPassword h username
  | .getPrincipal username credential =>
    match Login.nonEmpty? username with
    | some username => (r.desk out).answer "principal lookup" fun h => Exchange.knownPrincipal h username credential
    | none => []
  | .reconfigure snapshot =>
    -- an unknown matcher is found out before anything else
    match chooseMatcher r.givenMatcher r.manager.registry snapshot.settings with
    | .ok _ => [.reconfigure snapshot]
    | .error _ => []
  | _ => []

theorem run_loginMoves {r : Realm} {username : Option String} {password : Option Password} {name : String}
    {word : Password} (hname : Login.nonEmpty? username = some name) (hword : Login.givenPassword? password = some word)
    (out : List HandleId) :
    (r.desk out).run (r.loginMoves out name word) = ((Login.grant username password).perform r).2.desk out := by
  have hanswer := Desk.run_answer (r.desk out) "authentication" fun h => Exchange.authenticate h r.matcher name word
  rw [loginMoves, Desk.run_append, hanswer, Login.grant, hname, hword]
  dsimp only [desk]
  rw [Session.perform_bind_of_ok (Session.perform_get r), Session.perform_bind, Login.onManager,
    Session.perform_within]
  -- what is left is the message about how the login has ended
  rcases (Managed.answer "authentication" fun h => Exchange.authenticate h r.matcher name word).perform r.manager
    with ⟨e | _ | g, m₁⟩
  all_goals rfl

/-- **A call is a run at the desk**: its moves leave the realm as the call does, and the same handles are out. -/
theorem run_moves (r : Realm) (out : List HandleId) {activity : Activity} (hcall : activity.IsCall) :
    (r.desk out).run (r.moves out activity) = (Scene.step { realm := r } activity).realm.desk out := by
  cases activity with
  | start => exact Desk.step_of_program (d := r.desk out) (x := Managed.start) rfl
  | stop => exact Desk.step_of_program (d := r.desk out) (x := Managed.shutdown) rfl
  | authenticate username password =>
    -- the value that is made of the grant changes nothing in the realm
    have hcalled : (Scene.step { realm := r } (.authenticate username password)).realm =
        ((Login.grant username password).perform r).2 := by
      rw [Scene.step, Scene.call, Login.authenticate, Session.perform_bind]
      rcases (Login.grant username password).perform r with ⟨e | g, r'⟩ <;> rfl
    rw [hcalled, moves]
    -- without a name or a password there is nothing to do
    rcases hname : Login.nonEmpty? username with _ | name
    · rw [Login.grant, hname]
      rfl
    · rcases hword : Login.givenPassword? password with _ | word
      · rw [Login.grant, hname, hword]
        rfl
      · exact run_loginMoves hname hword out
  | getPassword username =>
    rw [moves, Scene.step, Scene.call, Login.getPassword, Session.perform_bind_of_ok (Session.perform_get r)]
    split
    · rfl
    · exact Desk.run_answer (r.desk out) _ _
  | getPrincipal username credential =>
    rw [moves, Scene.step, Scene.call, Login.getPrincipal]
    rcases Login.nonEmpty? username with _ | name
    · rfl
    · exact Desk.run_answer (r.desk out) _ _
  | reconfigure snapshot =>
    rw [moves, Scene.step, Scene.call, Login.reconfigure, Session.perform_bind_of_ok (Session.perform_get r)]
    -- the matcher is chosen first, and the manager is only told if that succeeds
    rcases hmatcher : chooseMatcher r.givenMatcher r.manager.registry snapshot.settings with e | matcher
    · rfl
    · have hstep : (r.desk out).step (.reconfigure snapshot) =
          ⟨((Managed.reconfigure snapshot).perform r.manager).2, out⟩ := Desk.step_of_program rfl
      rw [Session.perform_bind_of_ok (Session.perform_ofExcept (.ok matcher) r), Session.perform_bind,
        Login.onManager, Session.perform_within]
      refine hstep.trans ?_
      dsimp only [desk]
      rcases (Managed.reconfigure snapshot).perform r.manager with ⟨e | id, m⟩ <;> rfl
  | _ => cases hcall

end Realm

end DirectoryLogin
