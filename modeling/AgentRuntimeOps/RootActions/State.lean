import AgentRuntimeOps.RootActions.Contracts

/-!
# The state machine of a job

`state.py`: a job record moves through `PENDING`, `RUNNING`, `TERMINAL` and `UNKNOWN` by transition
events.  `applyTransition` is a chain of checks followed by `next`, which validates the record it
builds; `applyTransition_ok` says once what a successful transition is, and everything about
transitions elsewhere is derived from it.

The type checks of the source (`isinstance`) are the types of the fields here; revisions and
counters are natural numbers.
-/

namespace AgentRuntimeOps.RootActions

open AgentRuntimeOps.Lib

/-- Source: `state.py`, `JobState`. -/
inductive JobState where
  | pending
  | running
  | terminal
  | unknown
  deriving DecidableEq, Repr

/-- Source: `state.py`, `TransitionKind`. -/
inductive TransitionKind where
  | claimExecution
  | closePending
  | completeExecution
  | markUnknown
  | reconcileUnknown
  deriving DecidableEq, Repr

/-- Source: `state.py`, `TerminalOutcome`. -/
inductive TerminalOutcome where
  | succeeded
  | failed
  | rejected
  | expired
  | canceled
  | prestartFailed
  deriving DecidableEq, Repr

/-- `JobState.value`. -/
def JobState.value : JobState → String
  | pending => "pending"
  | running => "running"
  | terminal => "terminal"
  | unknown => "unknown"

/-- A final state: the two in which a receipt may be published. -/
def JobState.isFinal : JobState → Bool
  | terminal | unknown => true
  | _ => false

/-- `TransitionKind.value`. -/
def TransitionKind.value : TransitionKind → String
  | claimExecution => "claim_execution"
  | closePending => "close_pending"
  | completeExecution => "complete_execution"
  | markUnknown => "mark_unknown"
  | reconcileUnknown => "reconcile_unknown"

/-- `TransitionKind(text)`; `none` stands for its `ValueError`. -/
def TransitionKind.ofValue? (text : String) : Option TransitionKind :=
  [claimExecution, closePending, completeExecution, markUnknown, reconcileUnknown].find?
    (·.value = text)

/-- `TerminalOutcome.value`. -/
def TerminalOutcome.value : TerminalOutcome → String
  | succeeded => "succeeded"
  | failed => "failed"
  | rejected => "rejected"
  | expired => "expired"
  | canceled => "canceled"
  | prestartFailed => "prestart_failed"

/-- `TerminalOutcome(text)`; `none` stands for its `ValueError`. -/
def TerminalOutcome.ofValue? (text : String) : Option TerminalOutcome :=
  [succeeded, failed, rejected, expired, canceled, prestartFailed].find? (·.value = text)

@[simp] lemma TransitionKind.ofValue?_value (kind : TransitionKind) :
    TransitionKind.ofValue? kind.value = some kind := by
  cases kind <;> decide

@[simp] lemma TerminalOutcome.ofValue?_value (outcome : TerminalOutcome) :
    TerminalOutcome.ofValue? outcome.value = some outcome := by
  cases outcome <;> decide

/-- Source: `state.py`, `JobRecord`. -/
structure JobRecord where
  jobId : String
  jobDigest : String
  state : JobState
  revision : Nat
  executionCount : Nat
  terminalOutcome : Option TerminalOutcome
  reasonCode : Option String
  lastEventId : String
  lastChangedAt : String
  deriving DecidableEq, Repr

/-- Source: `state.py`, `TransitionEvent`. -/
structure TransitionEvent where
  eventId : String
  jobId : String
  jobDigest : String
  expectedRevision : Nat
  kind : TransitionKind
  occurredAt : String
  outcome : Option TerminalOutcome := none
  reasonCode : Option String := none
  deriving DecidableEq, Repr

/-! ## Validation -/

/-- Source: `state.py`, `_validate_event_fields`. -/
def validateEventFields (eventId occurredAt : String) : Except Exn Unit := do
  require (isSafeId eventId) (Exn.stateTransitionError "event_id must be a safe identifier")
  require (isTimestamp occurredAt)
    (Exn.stateTransitionError "occurred_at must be an RFC3339 UTC second timestamp")
  require ((DateTime.strptime occurredAt).isSome)
    (Exn.stateTransitionError "occurred_at must be a real RFC3339 UTC second timestamp")

/-- The terminal outcomes of an execution; the others close a job that never ran. -/
def TerminalOutcome.isExecuted : TerminalOutcome → Bool
  | succeeded | failed => true
  | _ => false

/-- The `valid` flag of `validate_record`. -/
def stateInvariant (record : JobRecord) : Bool :=
  match record.state with
  | .pending =>
    record.executionCount == 0 && record.terminalOutcome.isNone && record.reasonCode.isNone
  | .running =>
    record.executionCount == 1 && record.terminalOutcome.isNone && record.reasonCode.isNone
  | .unknown =>
    record.executionCount == 1 && record.terminalOutcome.isNone && record.reasonCode.isSome
  | .terminal =>
    record.terminalOutcome.isSome && record.reasonCode.isSome &&
      record.executionCount == (if record.terminalOutcome.any (·.isExecuted) then 1 else 0)

/-- Source: `state.py`, `validate_record`. -/
def validateRecord (record : JobRecord) : Except Exn Unit := do
  require (isSafeId record.jobId ∧ isDigest record.jobDigest)
    (Exn.stateTransitionError "job record identity invariant failed")
  require (record.executionCount = 0 ∨ record.executionCount = 1)
    (Exn.stateTransitionError "job record counter invariant failed")
  validateEventFields record.lastEventId record.lastChangedAt
  require (stateInvariant record) (Exn.stateTransitionError "job record state invariant failed")
  require (∀ reason ∈ record.reasonCode, isSafeId reason)
    (Exn.stateTransitionError "job record reason_code is invalid")

/-- Source: `state.py`, `initial_record`. -/
def initialRecord (job : SealedJob) (eventId occurredAt : String) : Except Exn JobRecord := do
  validateEventFields eventId occurredAt
  let record : JobRecord := {
    jobId := job.jobId
    jobDigest := job.jobDigest
    state := .pending
    revision := 0
    executionCount := 0
    terminalOutcome := none
    reasonCode := none
    lastEventId := eventId
    lastChangedAt := occurredAt }
  validateRecord record
  return record

/-! ## Transitions -/

/-- Source: `state.py`, `_require_reason`. -/
def requireReason (event : TransitionEvent) : Except Exn String := do
  let reason ← orRaise event.reasonCode
    (Exn.stateTransitionError "transition requires a safe reason_code")
  require (isSafeId reason) (Exn.stateTransitionError "transition requires a safe reason_code")
  return reason

/-- The record that `_next` builds. -/
def updatedRecord (record : JobRecord) (event : TransitionEvent) (state : JobState)
    (executionCount : Nat) (outcome : Option TerminalOutcome) (reasonCode : Option String) :
    JobRecord :=
  { record with
    state := state
    revision := record.revision + 1
    executionCount := executionCount
    terminalOutcome := outcome
    reasonCode := reasonCode
    lastEventId := event.eventId
    lastChangedAt := event.occurredAt }

/-- Source: `state.py`, `_next`.  Its assertion that the execution count is `0` or `1` is part of
`validateRecord`. -/
def next (record : JobRecord) (event : TransitionEvent) (state : JobState) (executionCount : Nat)
    (outcome : Option TerminalOutcome) (reasonCode : Option String) : Except Exn JobRecord := do
  let updated := updatedRecord record event state executionCount outcome reasonCode
  validateRecord updated
  return updated

/-- The checks of `apply_transition` that do not depend on the kind of the event. -/
def checkTransition (record : JobRecord) (event : TransitionEvent) : Except Exn Unit := do
  validateRecord record
  validateEventFields event.eventId event.occurredAt
  require (event.jobId = record.jobId ∧ event.jobDigest = record.jobDigest)
    (Exn.stateTransitionError "transition job identity mismatch")
  require (event.expectedRevision = record.revision)
    (Exn.staleRevision ("stale revision expected=" ++ toString event.expectedRevision ++
      " actual=" ++ toString record.revision))
  require (¬ event.occurredAt < record.lastChangedAt)
    (Exn.stateTransitionError "transition timestamp precedes the current record")
  require (event.eventId ≠ record.lastEventId) (Exn.replayBlocked "event replay is blocked")

/-- Source: `state.py`, `apply_transition`. -/
def applyTransition (record : JobRecord) (event : TransitionEvent) : Except Exn JobRecord := do
  checkTransition record event
  match event.kind with
  | .claimExecution =>
    require (record.state = .pending ∧ record.executionCount = 0)
      (Exn.replayBlocked "execution has already been claimed or the job is closed")
    require (event.outcome = none ∧ event.reasonCode = none)
      (Exn.stateTransitionError "execution claim cannot carry an outcome or reason")
    next record event .running 1 none none
  | .closePending =>
    require (record.state = .pending)
      (Exn.stateTransitionError "only a pending job can close without execution")
    require (event.outcome.any fun o => !o.isExecuted)
      (Exn.stateTransitionError "pending close has an invalid terminal outcome")
    let reason ← requireReason event
    next record event .terminal 0 event.outcome (some reason)
  | .completeExecution =>
    require (record.state = .running ∧ record.executionCount = 1)
      (Exn.stateTransitionError "only a running claimed job can complete")
    require (event.outcome.any (·.isExecuted))
      (Exn.stateTransitionError "execution completion has an invalid outcome")
    let reason ← requireReason event
    next record event .terminal 1 event.outcome (some reason)
  | .markUnknown =>
    require (record.state = .running ∧ record.executionCount = 1)
      (Exn.stateTransitionError "only a running claimed job can become unknown")
    require (event.outcome = none)
      (Exn.stateTransitionError "unknown outcome cannot claim a terminal result")
    let reason ← requireReason event
    next record event .unknown 1 none (some reason)
  | .reconcileUnknown =>
    require (record.state = .unknown ∧ record.executionCount = 1)
      (Exn.stateTransitionError "only an unknown claimed job can be reconciled")
    require (event.outcome.any (·.isExecuted))
      (Exn.stateTransitionError "unknown reconciliation has an invalid outcome")
    let reason ← requireReason event
    next record event .terminal 1 event.outcome (some reason)

/-! ## What validation and transitions are -/

lemma validateEventFields_ok {eventId occurredAt : String} {u : Unit} :
    validateEventFields eventId occurredAt = .ok u ↔
      isSafeId eventId = true ∧ isRealTimestamp occurredAt = true := by
  unfold validateEventFields isRealTimestamp
  simp only [except_bind_ok, require_ok, exists_const, Bool.and_eq_true]

/-- A valid record, as the conjunction of what `validate_record` checks. -/
structure JobRecord.Valid (record : JobRecord) : Prop where
  jobId : isSafeId record.jobId = true
  jobDigest : isDigest record.jobDigest = true
  executionCount : record.executionCount = 0 ∨ record.executionCount = 1
  lastEventId : isSafeId record.lastEventId = true
  lastChangedAt : isRealTimestamp record.lastChangedAt = true
  state : stateInvariant record = true
  reasonCode : ∀ reason ∈ record.reasonCode, isSafeId reason = true

lemma validateRecord_ok {record : JobRecord} {u : Unit} :
    validateRecord record = .ok u ↔ record.Valid := by
  unfold validateRecord
  simp only [except_bind_ok, require_ok, exists_const, validateEventFields_ok]
  constructor
  · rintro ⟨⟨h₁, h₂⟩, h₃, ⟨h₄, h₅⟩, h₆, h₇⟩
    exact ⟨h₁, h₂, h₃, h₄, h₅, h₆, h₇⟩
  · rintro ⟨h₁, h₂, h₃, h₄, h₅, h₆, h₇⟩
    exact ⟨⟨h₁, h₂⟩, h₃, ⟨h₄, h₅⟩, h₆, h₇⟩

namespace JobRecord.Valid

variable {record : JobRecord}

lemma pending (h : record.Valid) (hs : record.state = .pending) :
    record.executionCount = 0 ∧ record.terminalOutcome = none ∧ record.reasonCode = none := by
  have hstate := h.state
  unfold stateInvariant at hstate
  rw [hs] at hstate
  simpa [and_assoc] using hstate

lemma running (h : record.Valid) (hs : record.state = .running) :
    record.executionCount = 1 ∧ record.terminalOutcome = none ∧ record.reasonCode = none := by
  have hstate := h.state
  unfold stateInvariant at hstate
  rw [hs] at hstate
  simpa [and_assoc] using hstate

lemma unknown (h : record.Valid) (hs : record.state = .unknown) :
    record.executionCount = 1 ∧ record.terminalOutcome = none ∧ record.reasonCode.isSome = true := by
  have hstate := h.state
  unfold stateInvariant at hstate
  rw [hs] at hstate
  simpa [and_assoc] using hstate

/-- A terminal job was executed exactly when its outcome is one of an execution. -/
lemma terminal (h : record.Valid) (hs : record.state = .terminal) :
    ∃ outcome, record.terminalOutcome = some outcome ∧
      record.executionCount = if outcome.isExecuted then 1 else 0 := by
  have hstate := h.state
  unfold stateInvariant at hstate
  rw [hs] at hstate
  cases houtcome : record.terminalOutcome with
  | none => simp [houtcome] at hstate
  | some outcome =>
      simp only [houtcome, Option.isSome_some, Option.any_some, Bool.true_and, Bool.and_eq_true,
        beq_iff_eq] at hstate
      exact ⟨outcome, rfl, hstate.2⟩

end JobRecord.Valid

/-- The initial record of a job at an event. -/
def pendingRecord (job : SealedJob) (eventId occurredAt : String) : JobRecord :=
  ⟨job.jobId, job.jobDigest, .pending, 0, 0, none, none, eventId, occurredAt⟩

lemma valid_pendingRecord {job : SealedJob} {eventId occurredAt : String} (hjob : job.WellFormed)
    (hid : isSafeId eventId = true) (htime : isRealTimestamp occurredAt = true) :
    (pendingRecord job eventId occurredAt).Valid := by
  refine ⟨hjob.jobId, hjob.jobDigest, .inl rfl, hid, htime, rfl, ?_⟩
  intro reason hreason
  cases hreason

/-- A valid record in its initial state is the initial record of its job. -/
lemma eq_pendingRecord {job : SealedJob} {record : JobRecord} (hvalid : record.Valid)
    (hpending : record.state = .pending) (hrevision : record.revision = 0)
    (hid : job.jobId = record.jobId) (hdigest : job.jobDigest = record.jobDigest) :
    record = pendingRecord job record.lastEventId record.lastChangedAt := by
  obtain ⟨hcount, houtcome, hreason⟩ := hvalid.pending hpending
  unfold pendingRecord
  rw [hid, hdigest]
  cases record
  simp_all

lemma initialRecord_ok {job : SealedJob} {eventId occurredAt : String} {record : JobRecord} :
    initialRecord job eventId occurredAt = .ok record ↔
      record = pendingRecord job eventId occurredAt ∧ record.Valid := by
  unfold initialRecord
  simp only [except_bind_ok, exists_const, validateEventFields_ok, validateRecord_ok,
    except_pure_ok]
  constructor
  · rintro ⟨-, hvalid, rfl⟩
    exact ⟨rfl, hvalid⟩
  · rintro ⟨rfl, hvalid⟩
    exact ⟨⟨hvalid.lastEventId, hvalid.lastChangedAt⟩, hvalid, rfl⟩

/-- The checks that precede the case distinction of `apply_transition`. -/
structure TransitionChecked (record : JobRecord) (event : TransitionEvent) : Prop where
  valid : record.Valid
  eventId : isSafeId event.eventId = true
  occurredAt : isRealTimestamp event.occurredAt = true
  jobId : event.jobId = record.jobId
  jobDigest : event.jobDigest = record.jobDigest
  revision : event.expectedRevision = record.revision
  time : record.lastChangedAt ≤ event.occurredAt
  fresh : event.eventId ≠ record.lastEventId

lemma checkTransition_ok {record : JobRecord} {event : TransitionEvent} {u : Unit} :
    checkTransition record event = .ok u ↔ TransitionChecked record event := by
  unfold checkTransition
  simp only [except_bind_ok, require_ok, exists_const, validateEventFields_ok, validateRecord_ok,
    not_lt]
  constructor
  · rintro ⟨h₁, ⟨h₂, h₃⟩, ⟨h₄, h₅⟩, h₆, h₇, h₈⟩
    exact ⟨h₁, h₂, h₃, h₄, h₅, h₆, h₇, h₈⟩
  · rintro ⟨h₁, h₂, h₃, h₄, h₅, h₆, h₇, h₈⟩
    exact ⟨h₁, ⟨h₂, h₃⟩, ⟨h₄, h₅⟩, h₆, h₇, h₈⟩

/-- Which state an event of a kind leaves and which it enters, with the execution count before and
after, and whether it carries a terminal outcome. -/
inductive Moves (record updated : JobRecord) (event : TransitionEvent) : Prop where
  /-- `PENDING → RUNNING`. -/
  | claim (kind : event.kind = .claimExecution) (source : record.state = .pending)
      (count : record.executionCount = 0) (outcome : event.outcome = none)
      (reason : event.reasonCode = none)
      (result : updated = updatedRecord record event .running 1 none none)
  /-- `PENDING → TERMINAL` without an execution. -/
  | close (kind : event.kind = .closePending) (source : record.state = .pending)
      (o : TerminalOutcome) (outcome : event.outcome = some o) (executed : o.isExecuted = false)
      (r : String) (reason : event.reasonCode = some r)
      (result : updated = updatedRecord record event .terminal 0 (some o) (some r))
  /-- `RUNNING → TERMINAL`. -/
  | complete (kind : event.kind = .completeExecution) (source : record.state = .running)
      (count : record.executionCount = 1) (o : TerminalOutcome) (outcome : event.outcome = some o)
      (executed : o.isExecuted = true) (r : String) (reason : event.reasonCode = some r)
      (result : updated = updatedRecord record event .terminal 1 (some o) (some r))
  /-- `RUNNING → UNKNOWN`. -/
  | mark (kind : event.kind = .markUnknown) (source : record.state = .running)
      (count : record.executionCount = 1) (outcome : event.outcome = none)
      (r : String) (reason : event.reasonCode = some r)
      (result : updated = updatedRecord record event .unknown 1 none (some r))
  /-- `UNKNOWN → TERMINAL`. -/
  | reconcile (kind : event.kind = .reconcileUnknown) (source : record.state = .unknown)
      (count : record.executionCount = 1) (o : TerminalOutcome) (outcome : event.outcome = some o)
      (executed : o.isExecuted = true) (r : String) (reason : event.reasonCode = some r)
      (result : updated = updatedRecord record event .terminal 1 (some o) (some r))

lemma requireReason_ok {event : TransitionEvent} {reason : String} :
    requireReason event = .ok reason ↔ event.reasonCode = some reason ∧ isSafeId reason = true := by
  unfold requireReason
  simp only [except_bind_ok, orRaise_ok, require_ok, exists_const, except_pure_ok]
  constructor
  · rintro ⟨r, hr, hsafe, rfl⟩
    exact ⟨hr, hsafe⟩
  · rintro ⟨hr, hsafe⟩
    exact ⟨reason, hr, hsafe, rfl⟩

lemma next_ok {record updated : JobRecord} {event : TransitionEvent} {state : JobState} {n : Nat}
    {outcome : Option TerminalOutcome} {reason : Option String} :
    next record event state n outcome reason = .ok updated ↔
      updated = updatedRecord record event state n outcome reason ∧ updated.Valid := by
  unfold next
  simp only [except_bind_ok, validateRecord_ok, exists_const, except_pure_ok]
  constructor
  · rintro ⟨hvalid, rfl⟩
    exact ⟨rfl, hvalid⟩
  · rintro ⟨rfl, hvalid⟩
    exact ⟨hvalid, rfl⟩

/-- **What a transition is.** `apply_transition` succeeds exactly when the common checks hold, the
event moves the record along one of the five edges, and the record it builds is valid. -/
theorem applyTransition_ok {record updated : JobRecord} {event : TransitionEvent} :
    applyTransition record event = .ok updated ↔
      TransitionChecked record event ∧ Moves record updated event ∧ updated.Valid := by
  unfold applyTransition
  rw [except_bind_ok]
  simp only [checkTransition_ok, exists_const]
  refine and_congr_right fun _ => ?_
  rcases hkind : event.kind with _ | _ | _ | _ | _
  · simp only [except_bind_ok, require_ok, exists_const, next_ok]
    constructor
    · rintro ⟨⟨h₁, h₂⟩, ⟨h₃, h₄⟩, hto, hvalid⟩
      exact ⟨.claim hkind h₁ h₂ h₃ h₄ hto, hvalid⟩
    · rintro ⟨hmoves, hvalid⟩
      cases hmoves with
      | claim _ h₁ h₂ h₃ h₄ hto => exact ⟨⟨h₁, h₂⟩, ⟨h₃, h₄⟩, hto, hvalid⟩
      | _ => simp_all
  · simp only [except_bind_ok, require_ok, exists_const, next_ok, requireReason_ok,
      Option.any_eq_true]
    constructor
    · rintro ⟨h₁, ⟨o, ho, hexec⟩, r, ⟨hr, -⟩, hto, hvalid⟩
      rw [ho] at hto
      exact ⟨.close hkind h₁ o ho (by simpa using hexec) r hr hto, hvalid⟩
    · rintro ⟨hmoves, hvalid⟩
      cases hmoves with
      | close _ h₁ o ho hexec r hr hto =>
          refine ⟨h₁, ⟨o, ho, by simpa using hexec⟩, r, ⟨hr, ?_⟩, by rw [ho]; exact hto, hvalid⟩
          exact hvalid.reasonCode r (by rw [hto]; rfl)
      | _ => simp_all
  · simp only [except_bind_ok, require_ok, exists_const, next_ok, requireReason_ok,
      Option.any_eq_true]
    constructor
    · rintro ⟨⟨h₁, h₂⟩, ⟨o, ho, hexec⟩, r, ⟨hr, -⟩, hto, hvalid⟩
      rw [ho] at hto
      exact ⟨.complete hkind h₁ h₂ o ho hexec r hr hto, hvalid⟩
    · rintro ⟨hmoves, hvalid⟩
      cases hmoves with
      | complete _ h₁ h₂ o ho hexec r hr hto =>
          refine ⟨⟨h₁, h₂⟩, ⟨o, ho, hexec⟩, r, ⟨hr, ?_⟩, by rw [ho]; exact hto, hvalid⟩
          exact hvalid.reasonCode r (by rw [hto]; rfl)
      | _ => simp_all
  · simp only [except_bind_ok, require_ok, exists_const, next_ok, requireReason_ok]
    constructor
    · rintro ⟨⟨h₁, h₂⟩, h₃, r, ⟨hr, -⟩, hto, hvalid⟩
      exact ⟨.mark hkind h₁ h₂ h₃ r hr hto, hvalid⟩
    · rintro ⟨hmoves, hvalid⟩
      cases hmoves with
      | mark _ h₁ h₂ h₃ r hr hto =>
          refine ⟨⟨h₁, h₂⟩, h₃, r, ⟨hr, ?_⟩, hto, hvalid⟩
          exact hvalid.reasonCode r (by rw [hto]; rfl)
      | _ => simp_all
  · simp only [except_bind_ok, require_ok, exists_const, next_ok, requireReason_ok,
      Option.any_eq_true]
    constructor
    · rintro ⟨⟨h₁, h₂⟩, ⟨o, ho, hexec⟩, r, ⟨hr, -⟩, hto, hvalid⟩
      rw [ho] at hto
      exact ⟨.reconcile hkind h₁ h₂ o ho hexec r hr hto, hvalid⟩
    · rintro ⟨hmoves, hvalid⟩
      cases hmoves with
      | reconcile _ h₁ h₂ o ho hexec r hr hto =>
          refine ⟨⟨h₁, h₂⟩, ⟨o, ho, hexec⟩, r, ⟨hr, ?_⟩, by rw [ho]; exact hto, hvalid⟩
          exact hvalid.reasonCode r (by rw [hto]; rfl)
      | _ => simp_all

end AgentRuntimeOps.RootActions
