import AgentRuntimeOps.RootActions.Receipts

/-!
# Execution policies and handler results

`execution.py`: which operations are enabled, which of them are dispatched without an approval, and
what a handler may return.  The checks of the two constructors are fields, so a registry or a
result that the source refuses to build cannot be built here either.
-/

namespace AgentRuntimeOps.RootActions

open AgentRuntimeOps.Lib

/-- Source: `execution.py`, `OperationAvailability`. -/
inductive OperationAvailability where
  | enabled
  | disabledUnverifiedAuthority
  deriving DecidableEq, Repr

/-- Source: `execution.py`, `ExecutionPolicy`. -/
structure ExecutionPolicy where
  operationId : String
  operationVersion : Int
  availability : OperationAvailability
  reasonCode : Option String
  autoDispatch : Bool := false
  deriving DecidableEq, Repr

/-- The checks of `ExecutionPolicyRegistry.__init__` on one policy. -/
def ExecutionPolicy.admitted (policy : ExecutionPolicy) : Bool :=
  (defaultRegistry.find? (·.operationId = policy.operationId)).any
      (·.version = policy.operationVersion) &&
    match policy.availability with
    | .enabled => policy.reasonCode.isNone
    | .disabledUnverifiedAuthority => policy.reasonCode.any (· ≠ "") && !policy.autoDispatch

/-- Source: `execution.py`, `ExecutionPolicyRegistry`. -/
structure ExecutionPolicyRegistry where
  policies : List ExecutionPolicy
  /-- `duplicate execution policy`. -/
  nodup : (policies.map (·.operationId)).Nodup
  /-- The checks on each policy. -/
  admitted : ∀ policy ∈ policies, policy.admitted = true
  /-- `execution policy must cover every manifest operation`. -/
  covers : ∀ spec ∈ defaultRegistry, spec.operationId ∈ policies.map (·.operationId)

/-- Source: `execution.py`, `ExecutionPolicyRegistry.policy`. -/
def ExecutionPolicyRegistry.policy (registry : ExecutionPolicyRegistry) (operationId : String) :
    Except Exn ExecutionPolicy :=
  orRaise (registry.policies.find? (·.operationId = operationId)) ⟨.keyError, operationId⟩

/-- Source: `execution.py`, `DEFAULT_EXECUTION_POLICIES`. -/
def defaultExecutionPolicies : ExecutionPolicyRegistry where
  policies := [
    ⟨"audit.verify", 1, .disabledUnverifiedAuthority, some "disabled_unverified_authority", false⟩,
    ⟨"projection.staging_selftest", 1, .disabledUnverifiedAuthority,
      some "disabled_unverified_authority", false⟩,
    ⟨"agent_loop.campaign_run", 1, .disabledUnverifiedAuthority,
      some "disabled_unverified_authority", false⟩,
    ⟨"nas.observe_groupware_runtime", 1, .enabled, none, true⟩]
  nodup := by decide
  admitted := by decide
  covers := by decide

/-- Source: `execution.py`, `HandlerResult`.  `json.dumps` renders the public part: `publicStatus`
and `publicFacts` are the values it writes, and `unrenderable` is the exception it raises when one
of them is no JSON value. -/
structure HandlerResult where
  rawBytes : List UInt8
  publicStatus : Json
  publicFacts : List (Json × Json)
  unrenderable : Option Exn
  terminalOutcome : String
  reasonCode : String
  exitCode : Int
  /-- `handler raw receipt must be non-empty bytes`. -/
  raw_ne_nil : rawBytes ≠ []
  /-- `handler terminal outcome is invalid`. -/
  outcome_mem : terminalOutcome = "succeeded" ∨ terminalOutcome = "failed"
  /-- `handler reason code is invalid`. -/
  reason_ne : reasonCode ≠ ""
  /-- `successful handler result requires exit code zero`. -/
  exit_zero : terminalOutcome = "succeeded" → exitCode = 0

/-- The `result` object of the receipt of an execution. -/
def HandlerResult.publicResult (result : HandlerResult) : Json := .obj [
  ("facts", .arr (result.publicFacts.map fun fact =>
    .obj [("name", fact.1), ("value", fact.2)])),
  ("status", result.publicStatus)]

/-- `sys.int_info.default_max_str_digits`. -/
def maxStrDigits : Nat := 4300

/-- What `json.dumps` raises on the parts of a receipt that a handler chose. -/
def HandlerResult.render (result : HandlerResult) : Except Exn Unit := do
  match result.unrenderable with
  | some exc => .error exc
  | none => .ok ()
  require ((toString result.exitCode.natAbs).length ≤ maxStrDigits)
    (Exn.valueError "Exceeds the limit (4300 digits) for integer string conversion")

end AgentRuntimeOps.RootActions
