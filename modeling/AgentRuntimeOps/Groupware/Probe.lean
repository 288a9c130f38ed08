import AgentRuntimeOps.Lib.Checks

/-!
# Probes of declared paths

`domain/groupware_runtime_observation.py` looks at each declared path of a slot twice, in the mount
tables of the host and of the container and by a bounded search through the directory, and puts what
it saw into one class.
-/

namespace AgentRuntimeOps.Groupware

/-- The failure classes. -/
inductive FailureClass where
  | healthy
  | mountMissing
  | sourceMismatch
  | accessDenied
  | emptyReadable
  | observerContractMismatch
  | pathCardinalityMismatch
  deriving DecidableEq, Repr

/-- How a search ended. -/
inductive Representative where
  | regularFile
  | openFailed
  | scanFailed
  | searchBoundReached
  | noRegularFileWithinBound
  | directoryOpenFailed
  | namespaceProbeFailed
  | namespaceProbeTimeout
  | unobserved
  deriving DecidableEq, Repr

/-- `errno.EPERM` -/
def EPERM : Nat := 1

/-- `errno.EACCES` -/
def EACCES : Nat := 13

/-- What a mount table says of a path; `none` where it is not known. -/
structure MountState where
  present : Option Bool
  sourceMatch : Option Bool
  readonly : Option Bool
  deriving DecidableEq, Repr

/-- What the search in the container says of a path. -/
structure ProbeRow where
  listOk : Option Bool
  openReadOk : Option Bool
  errno : Option Nat
  representative : Representative
  deriving DecidableEq, Repr

/-- `DeclaredPathProbe`, without its index. -/
structure DeclaredPathProbe where
  hostMount : MountState
  containerMount : MountState
  row : ProbeRow
  deriving DecidableEq, Repr

namespace DeclaredPathProbe

/-- `mount_failure_class` -/
def mountFailureClass (probe : DeclaredPathProbe) : Option FailureClass :=
  let mounts := [probe.hostMount, probe.containerMount]
  if mounts.any (·.present.isNone) then some .observerContractMismatch
  else if !mounts.all (·.present = some true) then some .mountMissing
  else if mounts.any (·.sourceMatch.isNone) then some .observerContractMismatch
  else if !mounts.all (·.sourceMatch = some true) then some .sourceMismatch
  else if mounts.any (·.readonly ≠ some true) then some .observerContractMismatch
  else none

end DeclaredPathProbe

/-- `bounded_probe_outcome` -/
def ProbeRow.boundedProbeOutcome (row : ProbeRow) : FailureClass :=
  if row.listOk = some true ∧ row.openReadOk = some true then .healthy
  else if row.errno = some EACCES ∨ row.errno = some EPERM then .accessDenied
  else if row.listOk = some true ∧ row.openReadOk = some false ∧ row.errno = none ∧
      row.representative = .noRegularFileWithinBound then .emptyReadable
  else .observerContractMismatch

/-- `failure_class` -/
def DeclaredPathProbe.failureClass (probe : DeclaredPathProbe) : FailureClass :=
  probe.mountFailureClass.getD probe.row.boundedProbeOutcome

/-- `_aggregate_failure_class` -/
def aggregateFailureClass (probes : List DeclaredPathProbe) : FailureClass :=
  if probes = [] then .observerContractMismatch
  else
    match ((probes.map DeclaredPathProbe.failureClass).filter (· ≠ .healthy)).dedup with
    | [] => .healthy
    | [failure] => failure
    | _ => .observerContractMismatch

/-- The status of an observation. -/
inductive Status where
  | healthy
  | unhealthy
  | unknown
  deriving DecidableEq, Repr

/-- The failure class that `observe_groupware_runtime` reports: the paths are counted first. -/
def reportedClass (requested effective : Nat) (probes : List DeclaredPathProbe) : FailureClass :=
  if requested ≠ effective then .pathCardinalityMismatch else aggregateFailureClass probes

/-- The status that it reports with a failure class. -/
def FailureClass.status : FailureClass → Status
  | .healthy => .healthy
  | .mountMissing | .sourceMismatch | .accessDenied | .pathCardinalityMismatch => .unhealthy
  | .emptyReadable | .observerContractMismatch => .unknown

end AgentRuntimeOps.Groupware
