import AgentRuntimeOps.RootActions.AuthService
import AgentRuntimeOps.RootActions.Broker

/-!
# The service: processes, threads and their interleaving

`service.py` and the loops of `worker.py` and `listener.py`.  A system is a set of processes on one
store.  A process recovers, reconciles, starts its worker, opens its listener and then serves; its
threads are the main program, the calls it serves and the job its worker executes.  One step of
the system is one operation of one thread, the start or end of a thread, or the death of a process.

What the outside answers (the clock, a handler, the publisher, the verifier, the socket) is an
`Env`; the theorems are about every environment.  A thread also carries ghost knowledge: which job
it has admitted, claimed or is executing (`Held`), and the system remembers which handlers were
called and which processes changed the store.  No step depends on these.

The listener of the source serves one connection after the other; here calls may overlap.
-/

namespace AgentRuntimeOps.RootActions

open AgentRuntimeOps.Lib

/-! ## Requests -/

/-- What a caller can ask for. -/
inductive Request where
  | submit (manifest : Document) (peer : BrokerPeerIdentity)
  | status (jobId : String)
  | requesterProjection (peer : BrokerPeerIdentity) (jobId jobDigest requestId replyTarget : String)
  | repairPublic (jobId : String)
  | createInitialBootstrap
  | authStatus
  | beginRegistration (token : Except Exn (List UInt8)) (role : CredentialRole) (label : String)
  | finishRegistration (token : Except Exn (List UInt8)) (ceremonyId : String)
      (message : BrowserCredential)
  | beginApproval (jobId jobDigest : String)
  | finishApproval (ceremonyId : String) (message : BrowserCredential)

/-- What a thread returns. -/
inductive Value where
  | submitted (job : SubmittedJob)
  | status (status : StatusProjection)
  | bundle (bundle : PublicProjectionBundle)
  | record (record : JobRecord)
  | ceremony (ceremony : PendingCeremony)
  | done

section programs

variable [UnicodeData] (cfg : BrokerConfig)

/-- The program that serves a request. -/
def Request.program : Request → Prog Value
  | .submit manifest peer => do
    let job ← cfg.submit manifest peer
    return .submitted job
  | .status jobId => do
    let status ← cfg.status jobId
    return .status status
  | .requesterProjection peer jobId jobDigest requestId replyTarget => do
    let bundle ← cfg.requesterProjection peer jobId jobDigest requestId replyTarget
    return .bundle bundle
  | .repairPublic jobId => do
    let bundle ← cfg.repairPublicBestEffort jobId
    return .bundle bundle
  | .createInitialBootstrap => do
    discard RootActions.createInitialBootstrap
    return .done
  | .authStatus => do
    discard RootActions.authStatus
    return .done
  | .beginRegistration token role label => do
    let ceremony ← RootActions.beginRegistration token role label
    return .ceremony ceremony
  | .finishRegistration token ceremonyId message => do
    discard (RootActions.finishRegistration token ceremonyId message)
    return .done
  | .beginApproval jobId jobDigest => do
    let ceremony ← RootActions.beginApproval jobId jobDigest
    return .ceremony ceremony
  | .finishApproval ceremonyId message => do
    let record ← cfg.finishApproval ceremonyId message
    return .record record

/-- The program of `_execute` as a thread. -/
def BrokerConfig.workerProgram (jobId jobDigest : String) : Prog Value := do
  cfg.execute jobId jobDigest
  return .done

/-- Source: `service.py`, `main`, up to the point where it serves. -/
def BrokerConfig.main : Prog Value := do
  discard cfg.recoverOrphanedClaims
  discard cfg.reconcilePublic
  Program.perform Op.startWorker
  Program.perform Op.openListener
  return .done

end programs

/-! ## The state of the system -/

/-- What a thread has taken on itself. -/
inductive Held where
  | none
  /-- It is a main program, which recovers the orphans of dead processes. -/
  | recovering
  /-- It sealed the job, which was admitted. -/
  | admitted (jobId : String)
  /-- It claimed the job and has not queued it. -/
  | claimed (jobId : String)
  /-- It took the job out of the queue and has not called the handler. -/
  | executing (jobId : String)
  /-- The handler was called and the job is not finalized. -/
  | ran (jobId : String)
  deriving DecidableEq, Repr

/-- What a thread is for. -/
inductive Role where
  | main
  | worker (jobId jobDigest : String)
  | call (request : Request)

/-- A thread of a process. -/
structure Thread where
  pid : Nat
  role : Role
  held : Held
  code : Prog Value

/-- An item of the queue of a process. -/
structure Queued where
  pid : Nat
  jobId : String
  jobDigest : String
  deriving DecidableEq, Repr

/-- Where a process is. -/
inductive Phase where
  | unborn
  /-- It runs its main program. -/
  | starting
  /-- It holds the lock of the listener. -/
  | serving
  /-- It left `serve_forever`; the lock is released and its worker may still be busy. -/
  | stopping
  | dead
  deriving DecidableEq, Repr

/-- The worker thread of a process. -/
inductive WorkerState where
  | absent
  | idle
  | busy
  | stopped
  deriving DecidableEq, Repr

/-- The state of a process besides its threads. -/
structure Proc where
  phase : Phase := .unborn
  worker : WorkerState := .absent
  /-- `_published_projection_revisions` and `_published_projection_digests`, oldest first. -/
  published : List (String × Nat × String) := []

/-- A live process. -/
def Proc.live (proc : Proc) : Bool := proc.phase != .unborn && proc.phase != .dead

/-- The state of the system. -/
structure Sys where
  store : Store
  threads : List Thread
  queue : List Queued
  proc : Nat → Proc
  /-- The process that holds the lock of the listener. -/
  lock : Option Nat
  /-- How many events were drawn. -/
  drawn : Nat
  /-- How many operations were performed. -/
  tick : Nat
  /-- The jobs whose handler was called, in order. -/
  runs : List String
  /-- The processes that changed the store, in order. -/
  wrote : List Nat

/-- An empty store and no process. -/
def Sys.initial : Sys := ⟨Store.empty, [], [], fun _ => {}, none, 0, 0, [], []⟩

/-! ## The outside -/

/-- What the outside answers: the `n`-th event, and for the rest whatever the number of the
operation makes it. -/
structure Env where
  event : Nat → String × String
  token : Nat → Nat → List UInt8
  verifier : Nat → (v : VerifierCall) → Except Exn v.Res
  handler : Nat → SealedJob → Except Exn HandlerResult
  publish : Nat → PublicProjectionBundle → Except Exn Unit
  publishCatalog : Nat → List PublicProjectionBundle → Nat → Except Exn Unit
  /-- Binding the socket, once the lock is taken. -/
  listen : Nat → Except Exn Unit

/-- Source: `worker.py`, the default of `queue_capacity`. -/
def queueCapacity : Nat := 32

/-- `_remember_publication`: the newest publication is the last, and the oldest are forgotten. -/
def rememberPublication (bundle : PublicProjectionBundle) (published : List (String × Nat × String)) :
    List (String × Nat × String) :=
  let updated := published.filter (·.1 ≠ bundle.jobId) ++
    [(bundle.jobId, bundle.revision, bundle.projectionDigest)]
  updated.drop (updated.length - publicCatalogJobLimit)

namespace Sys

/-- Replace the state of a process. -/
def setProc (w : Sys) (p : Nat) (proc : Proc) : Sys :=
  { w with proc := Function.update w.proc p proc }

/-- Add a thread. -/
def spawn (w : Sys) (t : Thread) : Sys := { w with threads := w.threads ++ [t] }

/-- The queue of a process. -/
def queueOf (w : Sys) (p : Nat) : List Queued := w.queue.filter (·.pid = p)

variable [UnicodeData] (env : Env)

/-- Perform an operation of process `p`. -/
def exec (p : Nat) : (op : Op) → Sys → Except Exn op.Res × Sys
  | .read r, w => (r.run w.store, { w with tick := w.tick + 1 })
  | .write c, w =>
      ((c.run w.store).1, { w with
        tick := w.tick + 1
        store := c.after w.store
        -- A call that raises is rolled back.
        wrote := if (c.run w.store).1.isOk then w.wrote ++ [p] else w.wrote })
  | .nextEvent, w =>
      (.ok (env.event w.drawn), { w with tick := w.tick + 1, drawn := w.drawn + 1 })
  | .tokenBytes count, w => (.ok (env.token w.tick count), { w with tick := w.tick + 1 })
  | .verify v, w => (env.verifier w.tick v, { w with tick := w.tick + 1 })
  | .runHandler job, w =>
      (env.handler w.tick job, { w with tick := w.tick + 1, runs := w.runs ++ [job.jobId] })
  | .publish bundle, w => (env.publish w.tick bundle, { w with tick := w.tick + 1 })
  | .publishCatalog bundles count, w =>
      (env.publishCatalog w.tick bundles count, { w with tick := w.tick + 1 })
  | .published jobId, w => (.ok ((w.proc p).published.lookup jobId), { w with tick := w.tick + 1 })
  | .remember bundle, w =>
      (.ok (), { w with tick := w.tick + 1 }.setProc p { w.proc p with
        published := rememberPublication bundle (w.proc p).published })
  | .workerAlive, w =>
      (.ok ((w.proc p).worker = .idle || (w.proc p).worker = .busy), { w with tick := w.tick + 1 })
  | .putNowait jobId jobDigest, w =>
      if (w.queueOf p).length < queueCapacity then
        (.ok true, { w with tick := w.tick + 1, queue := w.queue ++ [⟨p, jobId, jobDigest⟩] })
      else (.ok false, { w with tick := w.tick + 1 })
  | .startWorker, w =>
      (.ok (), { w with tick := w.tick + 1 }.setProc p { w.proc p with worker := .idle })
  | .openListener, w =>
      if w.lock = none then
        match env.listen w.tick with
        | .ok _ => (.ok (), { w with tick := w.tick + 1, lock := some p })
        | .error exc => (.error exc, { w with tick := w.tick + 1 })
      else
        (.error ⟨.rootActionListenerError, "broker listener lock is already held"⟩,
          { w with tick := w.tick + 1 })

end Sys

/-- What a thread holds after an operation. -/
def Held.after (held : Held) : (op : Op) → Except Exn op.Res → Held
  | .write (.sealWithLineageAdmission job ..), .ok r =>
      let r : JobRecord × SubmissionAdmission := r
      if r.2.allowed then .admitted job.jobId else held
  | .write (.compareAndAppend event), .ok _ =>
      if event.kind = .claimExecution then .claimed event.jobId else held
  | .write (.claimWithApproval _ _ _ _ event), .ok _ => .claimed event.jobId
  | .write (.completeClaimedExecution ..), .ok _ => .none
  | .write (.markClaimedExecutionUnknown ..), .ok _ =>
      if held = .recovering then .recovering else .none
  | .putNowait .., .ok queued => let queued : Bool := queued; if queued then .none else held
  | .runHandler job, _ => .ran job.jobId
  | _, _ => held

/-! ## Steps -/

/-- A choice of the scheduler. -/
inductive Choice where
  /-- `service.main` is started as process `p`. -/
  | start (p : Nat)
  /-- The serving process `p` accepts a request. -/
  | call (p : Nat) (request : Request)
  /-- Thread `i` performs its next operation. -/
  | step (i : Nat)
  /-- Thread `i` has returned or raised. -/
  | finish (i : Nat)
  /-- The worker of `p` takes the next item of its queue. -/
  | pop (p : Nat)
  /-- The idle worker thread of `p` ends. -/
  | stopWorker (p : Nat)
  /-- Process `p` leaves `serve_forever`. -/
  | stop (p : Nat)
  /-- Process `p` dies. -/
  | crash (p : Nat)

namespace Sys

/-- The process is gone, with its threads, its queue and its lock. -/
def kill (w : Sys) (p : Nat) : Sys :=
  { w with
    threads := w.threads.filter (·.pid ≠ p)
    queue := w.queue.filter (·.pid ≠ p)
    lock := if w.lock = some p then none else w.lock }.setProc p { phase := .dead }

/-- The thread has ended. -/
def ended (t : Thread) : Bool :=
  match t.code with
  | .call .. => false
  | _ => true

/-- What the end of a thread does. -/
def afterEnd (w : Sys) (t : Thread) : Sys :=
  match t.role, t.code with
  | .main, .ret _ => w.setProc t.pid { w.proc t.pid with phase := .serving }
  | .main, _ => w.kill t.pid
  | .worker .., _ => w.setProc t.pid { w.proc t.pid with worker := .idle }
  | .call _, _ => w

variable [UnicodeData] (env : Env) (cfg : BrokerConfig)

/-- One step of the system; `none` when the choice is not enabled. -/
def step : Choice → Sys → Option Sys
  | .start p, w =>
      if (w.proc p).phase = .unborn then
        some ((w.spawn ⟨p, .main, .recovering, cfg.main⟩).setProc p { w.proc p with phase := .starting })
      else none
  | .call p request, w =>
      if (w.proc p).phase = .serving then
        some (w.spawn ⟨p, .call request, .none, request.program cfg⟩)
      else none
  | .step i, w =>
      match w.threads[i]? with
      | some ⟨p, role, held, .call op k⟩ =>
          let r := exec env p op w
          some { r.2 with threads := w.threads.set i ⟨p, role, held.after op r.1, k r.1⟩ }
      | _ => none
  | .finish i, w =>
      match w.threads[i]? with
      | some t =>
          if ended t then some ({ w with threads := w.threads.eraseIdx i }.afterEnd t) else none
      | none => none
  | .pop p, w =>
      match (w.proc p).worker, w.queue.find? (·.pid = p) with
      | .idle, some item =>
          some (({ w with queue := w.queue.erase item }.spawn
            ⟨p, .worker item.jobId item.jobDigest, .executing item.jobId,
              cfg.workerProgram item.jobId item.jobDigest⟩).setProc p
            { w.proc p with worker := .busy })
      | _, _ => none
  | .stopWorker p, w =>
      if (w.proc p).worker = .idle then
        some (w.setProc p { w.proc p with worker := .stopped })
      else none
  | .stop p, w =>
      if (w.proc p).phase = .serving ∧
          w.threads.all (fun t => t.pid ≠ p || match t.role with | .call _ => false | _ => true) then
        some ({ w with lock := if w.lock = some p then none else w.lock }.setProc p
          { w.proc p with phase := .stopping })
      else none
  | .crash p, w => if (w.proc p).live then some (w.kill p) else none

/-- The states of the system that steps meeting `ok` lead to. -/
abbrev ReachableBy (ok : Sys → Choice → Prop) : Sys → Prop :=
  Reaches (step env cfg) ok Sys.initial

end Sys

/-! ## An environment

The concrete runs of this development: a clock of one's choice, a publisher and a socket that work,
and a verifier and handlers that refuse. -/

/-- The broker that `service.py` constructs, for the caller with uid 0 and without a public sink. -/
def sampleConfig : BrokerConfig where
  policies := defaultExecutionPolicies
  submissionPolicy := { allowedUids := [0], allowedGids := [], allowlist := by decide }
  lineageFailurePolicy := .standard
  publicSink := false

/-- An environment with the given clock. -/
def sampleEnv (event : Nat → String × String) : Env where
  event := event
  token _ count := List.replicate count 0
  verifier _ _ := .error ⟨.webAuthnAuthorizationError, "refused"⟩
  handler _ _ := .error ⟨.valueError, "refused"⟩
  publish _ _ := .ok ()
  publishCatalog _ _ _ := .ok ()
  listen _ := .ok ()

end AgentRuntimeOps.RootActions
