import AgentRuntimeOps.Lib.Transition
import AgentRuntimeOps.RootActions.StoreSpecs

/-!
# The store as a transition system

`StoreWrite` lists the methods of the store that write, each with its arguments, and
`StoreWrite.run` is what calling it does.  A store is `Reachable` when some sequence of calls,
successful or failing, leads to it from the empty store.

Every method is atomic (`StoreWrite.atomic`): a call that raises leaves the store as it was, so an
invariant only has to be checked for the calls that succeed (`Reachable.induction`).
-/

namespace AgentRuntimeOps.RootActions

open AgentRuntimeOps.Lib

/-- The writing methods of `PosixRootActionStore`. -/
inductive StoreWrite where
  | putIfAbsent (job : SealedJob)
  | createPending (record : JobRecord)
  | sealPending (job : SealedJob) (eventId occurredAt : String)
      (submission : Option SubmissionMetadata) (limits : SubmissionLimits)
  | sealRejected (job : SealedJob) (pendingEventId pendingOccurredAt : String)
      (closeEvent : TransitionEvent) (notice : ReceiptArtifact) (submission : SubmissionMetadata)
      (limits : SubmissionLimits)
  | sealWithLineageAdmission (job : SealedJob) (pendingEventId pendingOccurredAt : String)
      (circuitEvent : TransitionEvent) (circuitNotice : ReceiptArtifact)
      (submission : SubmissionMetadata) (limits : SubmissionLimits)
      (failurePolicy : LineageFailurePolicy)
  | compareAndAppend (event : TransitionEvent)
  | putRawIfAbsent (artifact : RawReceiptArtifact)
  | completeClaimedExecution (event : TransitionEvent) (raw : RawReceiptArtifact)
      (receipt : ReceiptArtifact)
  | markClaimedExecutionUnknown (event : TransitionEvent) (raw : RawReceiptArtifact)
      (receipt : ReceiptArtifact)
  | publishIfAbsent (artifact : ReceiptArtifact)
  | quarantineIfAbsent (record : QuarantineRecord)
  | createAuthBootstrap (session : BootstrapSession)
  | issueRegistrationCeremony (tokenDigest : String) (ceremony : PendingCeremony)
  | completeRegistration (tokenDigest ceremonyId : String) (credential : RegisteredCredential)
      (consumedAt : String)
  | issueApprovalCeremony (ceremony : PendingCeremony)
  | claimWithApproval (ceremony : PendingCeremony) (credential : RegisteredCredential)
      (verified : VerifiedAssertion) (approval : ApprovalRecord) (claimEvent : TransitionEvent)

namespace StoreWrite

/-- What a method returns. -/
def Res : StoreWrite → Type
  | sealPending .. | sealRejected .. | compareAndAppend .. | completeClaimedExecution ..
  | markClaimedExecutionUnknown .. | claimWithApproval .. => JobRecord
  | sealWithLineageAdmission .. => JobRecord × SubmissionAdmission
  | completeRegistration .. => RegisteredCredential
  | _ => Unit

variable [UnicodeData]

/-- What calling a method does. -/
def run : (w : StoreWrite) → StoreTx w.Res
  | putIfAbsent job => Store.putIfAbsent job
  | createPending record => Store.createPending record
  | sealPending job eventId occurredAt submission limits =>
      Store.sealPending job eventId occurredAt submission limits
  | sealRejected job pendingEventId pendingOccurredAt closeEvent notice submission limits =>
      Store.sealRejected job pendingEventId pendingOccurredAt closeEvent notice submission limits
  | sealWithLineageAdmission job pendingEventId pendingOccurredAt circuitEvent circuitNotice
      submission limits failurePolicy =>
      Store.sealWithLineageAdmission job pendingEventId pendingOccurredAt circuitEvent circuitNotice
        submission limits failurePolicy
  | compareAndAppend event => Store.compareAndAppend event
  | putRawIfAbsent artifact => Store.putRawIfAbsent artifact
  | completeClaimedExecution event raw receipt => Store.completeClaimedExecution event raw receipt
  | markClaimedExecutionUnknown event raw receipt =>
      Store.markClaimedExecutionUnknown event raw receipt
  | publishIfAbsent artifact => Store.publishIfAbsent artifact
  | quarantineIfAbsent record => Store.quarantineIfAbsent record
  | createAuthBootstrap session => Store.createAuthBootstrap session
  | issueRegistrationCeremony tokenDigest ceremony =>
      Store.issueRegistrationCeremony tokenDigest ceremony
  | completeRegistration tokenDigest ceremonyId credential consumedAt =>
      Store.completeRegistration tokenDigest ceremonyId credential consumedAt
  | issueApprovalCeremony ceremony => Store.issueApprovalCeremony ceremony
  | claimWithApproval ceremony credential verified approval claimEvent =>
      Store.claimWithApproval ceremony credential verified approval claimEvent

/-- The store after a call. -/
def after (w : StoreWrite) (s : Store) : Store := (w.run s).2

/-! ## Atomicity -/

lemma atomic_finalize (event : TransitionEvent) (raw : RawReceiptArtifact)
    (receipt : ReceiptArtifact) : Tx.Atomic (Store.finalizeClaimedExecution event raw receipt) := by
  unfold Store.finalizeClaimedExecution
  refine .bind (Tx.readOnly_ofExcept _) fun _ => .bind (Tx.readOnly_require _ _) fun _ => ?_
  exact Tx.atomic_transaction _

/-- **Every method is atomic**: the checks before a transaction do not write, and a transaction
that raises is rolled back. -/
theorem atomic (w : StoreWrite) : Tx.Atomic w.run := by
  cases w with
  | putIfAbsent job =>
      exact .bind (Tx.readOnly_ofExcept _) fun _ => Tx.atomic_transaction _
  | createPending record =>
      refine .bind (Tx.readOnly_ofExcept _) fun _ => .bind (Tx.readOnly_require _ _) fun _ => ?_
      exact Tx.atomic_transaction _
  | sealPending job eventId occurredAt submission limits =>
      refine .bind (Tx.readOnly_ofExcept _) fun _ => .bind (Tx.readOnly_ofExcept _) fun _ => ?_
      refine .bind (Tx.readOnly_ofExcept _) fun _ => ?_
      exact .map (Tx.atomic_transaction _) _
  | sealRejected job pendingEventId pendingOccurredAt closeEvent notice submission limits =>
      refine .bind (Tx.readOnly_ofExcept _) fun _ => .bind (Tx.readOnly_ofExcept _) fun _ => ?_
      refine .bind (Tx.readOnly_ofExcept _) fun _ => .bind (Tx.readOnly_ofExcept _) fun _ => ?_
      refine .bind (Tx.readOnly_require _ _) fun _ => .bind (Tx.readOnly_ofExcept _) fun _ => ?_
      refine .bind (Tx.readOnly_require _ _) fun _ => ?_
      exact .map (Tx.atomic_transaction _) _
  | sealWithLineageAdmission job pendingEventId pendingOccurredAt circuitEvent circuitNotice
      submission limits failurePolicy =>
      refine .bind (Tx.readOnly_ofExcept _) fun _ => .bind (Tx.readOnly_ofExcept _) fun _ => ?_
      refine .bind (Tx.readOnly_ofExcept _) fun _ => .bind (Tx.readOnly_ofExcept _) fun _ => ?_
      exact Tx.atomic_transaction _
  | compareAndAppend event => exact Tx.atomic_transaction _
  | putRawIfAbsent artifact =>
      exact .bind (Tx.readOnly_ofExcept _) fun _ => Tx.atomic_transaction _
  | completeClaimedExecution event raw receipt =>
      refine .bind (Tx.readOnly_ofExcept _) fun _ => .bind (Tx.readOnly_require _ _) fun _ => ?_
      exact atomic_finalize event raw receipt
  | markClaimedExecutionUnknown event raw receipt =>
      refine .bind (Tx.readOnly_ofExcept _) fun _ => .bind (Tx.readOnly_require _ _) fun _ => ?_
      exact atomic_finalize event raw receipt
  | publishIfAbsent artifact =>
      exact .bind (Tx.readOnly_ofExcept _) fun _ => Tx.atomic_transaction _
  | quarantineIfAbsent record =>
      refine .bind (Tx.readOnly_ofExcept _) fun _ => .bind (Tx.readOnly_ofExcept _) fun _ => ?_
      exact Tx.atomic_transaction _
  | createAuthBootstrap session =>
      refine .bind (Tx.readOnly_ofExcept _) fun _ => .bind (Tx.readOnly_require _ _) fun _ => ?_
      exact Tx.atomic_transaction _
  | issueRegistrationCeremony tokenDigest ceremony =>
      refine .bind (Tx.readOnly_ofExcept _) fun _ => .bind (Tx.readOnly_require _ _) fun _ => ?_
      exact Tx.atomic_transaction _
  | completeRegistration tokenDigest ceremonyId credential consumedAt =>
      refine .bind (Tx.readOnly_ofExcept _) fun _ => ?_
      exact .map (Tx.atomic_transaction _) _
  | issueApprovalCeremony ceremony =>
      refine .bind (Tx.readOnly_ofExcept _) fun _ => .bind (Tx.readOnly_require _ _) fun _ => ?_
      exact Tx.atomic_transaction _
  | claimWithApproval ceremony credential verified approval claimEvent =>
      refine .bind (Tx.readOnly_ofExcept _) fun _ => .bind (Tx.readOnly_ofExcept _) fun _ => ?_
      refine .bind (Tx.readOnly_ofExcept _) fun _ => .bind (Tx.readOnly_ofExcept _) fun _ => ?_
      refine .bind (Tx.readOnly_require _ _) fun _ => ?_
      exact Tx.atomic_transaction _

lemma after_of_ok {w : StoreWrite} {s s' : Store} {r : w.Res} (h : w.run s = (.ok r, s')) :
    w.after s = s' := by
  unfold after
  rw [h]

/-- A call either raises and changes nothing, or succeeds. -/
lemma after_cases (w : StoreWrite) (s : Store) :
    w.after s = s ∨ ∃ r, w.run s = (.ok r, w.after s) := by
  rcases h : w.run s with ⟨e | r, s'⟩
  · left
    unfold after
    rw [h]
    exact w.atomic s e s' h
  · right
    refine ⟨r, ?_⟩
    unfold after
    rw [h]

end StoreWrite

/-! ## Reachable stores -/

variable [UnicodeData]

/-- The store as a transition system: any method with any arguments, at any time. -/
def storeStep (w : StoreWrite) (s : Store) : Option Store := some (w.after s)

/-- The stores that sequences of calls from `ok` lead to. -/
abbrev ReachableBy (ok : StoreWrite → Prop) : Store → Prop :=
  Reaches storeStep (fun _ w => ok w) Store.empty

/-- The stores that any sequence of calls leads to. -/
abbrev Reachable : Store → Prop := ReachableBy fun _ => True

/-- **Invariants of the store.** A property of the empty store that every successful call keeps
holds of every store reached. -/
theorem ReachableBy.induction {ok : StoreWrite → Prop} {P : Store → Prop} {s : Store}
    (h : ReachableBy ok s) (hempty : P Store.empty)
    (hstep : ∀ w s r s', ok w → P s → w.run s = (.ok r, s') → P s') : P s := by
  apply Reaches.invariant h hempty
  intro s₁ s₂ w hs₁ hok hw
  obtain rfl : w.after s₁ = s₂ := Option.some.inj hw
  rcases w.after_cases s₁ with hsame | ⟨r, hr⟩
  · rw [hsame]
    exact hs₁
  · exact hstep w s₁ r _ hok hs₁ hr

end AgentRuntimeOps.RootActions
