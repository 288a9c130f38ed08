import AgentRuntimeOps.Lib.Crash
import AgentRuntimeOps.Usage.Consistency

/-!
# The collector

`collect_target` of `commands/usage.py` as a program over the operations by which it meets the rest
of the world: the clock, the binding file, the container, the product's two commands, and the
database.  A page is asked for at the cursor, checked against the live runtime before and after, and
stored; a failure is recorded unless it is a conflict of the ledger.

The functions of `routing.py` and `domain/runtime_truth.py` that read the host appear by what they
answer.
-/

namespace AgentRuntimeOps.Usage

open AgentRuntimeOps.Lib Program

/-! ## Bindings -/

/-- The text of a UUID: five groups of hexadecimal digits. -/
def isUuid (text : String) : Bool :=
  text.toList.length == 36 &&
    text.toList.zipIdx.all fun c =>
      if c.2 ∈ [8, 13, 18, 23] then c.1 == '-' else isHexDigit c.1

/-- `RuntimeBinding`, as `_binding_from_item` makes it. -/
structure RuntimeBinding where
  instanceId : String
  linuxAccount : String
  publicHost : String
  family : String
  runtimeClass : String
  gatewayPort : Nat
  bridgePort : Nat
  enabled : Bool
  upstreamKind : String
  upstreamOwner : String
  upstreamContainer : String
  /-- `validate_instance_id` -/
  instance_uuid : isUuid instanceId = true
  /-- `LINUX_ACCOUNT_RE` -/
  account_short : linuxAccount.toList.length ≤ 32
  /-- `HOST_RE` -/
  host_dot : '.' ∈ publicHost.toList

namespace RuntimeBinding

/-- `to_json`, with its keys in order. -/
def toJson (binding : RuntimeBinding) : Json :=
  .obj [("bridge_port", .int binding.bridgePort), ("enabled", .bool binding.enabled),
    ("family", .str binding.family), ("gateway_port", .int binding.gatewayPort),
    ("instance_id", .str binding.instanceId), ("linux_account", .str binding.linuxAccount),
    ("public_host", .str binding.publicHost), ("runtime_class", .str binding.runtimeClass),
    ("upstream_container", .str binding.upstreamContainer),
    ("upstream_kind", .str binding.upstreamKind), ("upstream_owner", .str binding.upstreamOwner)]

/-- `runtime_binding_digest`. -/
def digest (binding : RuntimeBinding) : String :=
  "sha256:" ++ String.ofList (hexdigest (utf8 binding.toJson.dumps))

end RuntimeBinding

/-- `get_runtime_binding`, for an instance id, which is its own normal form. -/
def getRuntimeBinding (bindings : List RuntimeBinding) (target : String) :
    Except Raised RuntimeBinding :=
  orRaise
    (bindings.find? fun binding =>
      target ∈ [binding.instanceId, binding.linuxAccount, binding.publicHost])
    (.other "KeyError" ("'runtime binding not found: " ++ target ++ "'"))

lemma length_of_isUuid {text : String} (h : isUuid text = true) : text.toList.length = 36 := by
  unfold isUuid at h
  rw [Bool.and_eq_true, beq_iff_eq] at h
  exact h.1

lemma char_of_isUuid {text : String} (h : isUuid text = true) {c : Char} (hc : c ∈ text.toList) :
    c = '-' ∨ isHexDigit c = true := by
  unfold isUuid at h
  rw [Bool.and_eq_true, List.all_eq_true] at h
  obtain ⟨i, hi⟩ := List.mem_iff_getElem?.mp hc
  have hchar := h.2 (c, i) (List.mem_zipIdx_iff_getElem?.mpr hi)
  split_ifs at hchar
  · exact .inl (beq_iff_eq.mp hchar)
  · exact .inr hchar

lemma no_dot_of_isUuid {text : String} (h : isUuid text = true) : '.' ∉ text.toList := by
  intro hdot
  rcases char_of_isUuid h hdot with hc | hc
  · cases hc
  · cases hc

/-- The name of the lock is short enough. -/
lemma length_lockName {instanceId : String} (h : isUuid instanceId = true) :
    (utf8 ("jitech-usage:" ++ instanceId).toList).length = 49 := by
  have hascii : ∀ c ∈ ("jitech-usage:" ++ instanceId).toList, c.toNat ≤ 127 := by
    intro c hc
    rw [String.toList_append, List.mem_append] at hc
    rcases hc with hc | hc
    · have hprefix : ("jitech-usage:".toList.all fun c => decide (c.toNat ≤ 127)) = true := by decide
      exact of_decide_eq_true (List.all_eq_true.mp hprefix c hc)
    · rcases char_of_isUuid h hc with rfl | hhex
      · decide
      · exact toNat_le_of_isHexDigit hhex
  rw [length_utf8_of_ascii hascii, String.toList_append, List.length_append, length_of_isUuid h]
  rfl

/-- An instance id names no account and no host, so the binding that is found is that of the
instance. -/
lemma getRuntimeBinding_instanceId {bindings : List RuntimeBinding} {target : String}
    {binding : RuntimeBinding} (huuid : isUuid target = true)
    (h : getRuntimeBinding bindings target = .ok binding) : binding.instanceId = target := by
  rw [getRuntimeBinding, orRaise_ok] at h
  have hfound := List.find?_some h
  simp only [List.mem_cons, List.not_mem_nil, or_false, decide_eq_true_eq] at hfound
  rcases hfound with hid | haccount | hhost
  · exact hid.symm
  · have hshort := binding.account_short
    rw [← haccount, length_of_isUuid huuid] at hshort
    omega
  · have hdot := binding.host_dot
    rw [← hhost] at hdot
    exact absurd hdot (no_dot_of_isUuid huuid)

/-! ## Operations -/

/-- What a command of the product leaves. -/
structure Proc where
  returncode : Int
  stdout : String
  stderr : String

/-- What `live_runtime_truth` finds, by its keys, and its checks with their names. -/
structure Live where
  truth : List (String × String)
  checks : List (Bool × String)

/-- `truth.get(name)`. -/
def Live.get (live : Live) (name : String) : Option String := live.truth.lookup name

/-- The operations of a collector. -/
inductive CollectOp where
  /-- `connection_factory()` -/
  | connect
  /-- `now_rfc3339()` -/
  | now
  /-- The tables that `ensure_schema` looks up. -/
  | listTables
  /-- `SELECT GET_LOCK(name, 0)` -/
  | getLock (name : String)
  /-- `load_runtime_bindings` -/
  | loadBindings
  /-- `find_gateway_container_by_binding` -/
  | findContainer (binding : RuntimeBinding)
  /-- `live_runtime_truth` -/
  | liveTruth (instanceId : String)
  /-- `read_cursor` -/
  | readCursor (stamp : Stamp)
  /-- `docker exec … usage-receipts coverage` -/
  | runCoverage (containerId family : String)
  /-- `docker exec … usage-receipts export` -/
  | runExport (containerId family : String) (after limit : Int)
  /-- `store_export_page` -/
  | store (stamp : Stamp) (coverage : ValidatedCoverage) (page : ValidatedExport)
  /-- `record_collection_failure` -/
  | recordFailure (stamp : Stamp) (code detail : String)
  /-- `connection.close()` -/
  | close

/-- What the operations answer. -/
abbrev CollectOp.Res : CollectOp → Type
  | .connect => Unit
  | .now => String
  | .listTables => List String
  | .getLock _ => Bool
  | .loadBindings => List RuntimeBinding
  | .findContainer _ => Option String × String
  | .liveTruth _ => Live
  | .readCursor _ => Int
  | .runCoverage .. => Proc
  | .runExport .. => Proc
  | .store .. => Stored
  | .recordFailure .. => Unit
  | .close => Unit

/-- A collector. -/
abbrev Collector (α : Type) : Type := Program CollectOp CollectOp.Res Raised α

/-- One operation. -/
def ask (op : CollectOp) : Collector op.Res := perform op

/-- A check of the collector. -/
def pass {α : Type} (x : Except Raised α) : Collector α := Program.ofExcept x

/-- What `json.loads` makes of a text. -/
inductive Loaded where
  /-- `JSONDecodeError` -/
  | notJson
  /-- Another exception. -/
  | raises (e : Raised)
  | value (payload : Json)

/-- The parts of the standard library that the collector reads outputs with. -/
class PythonOutput where
  /-- `text.strip()` -/
  strip : String → String
  /-- `json.loads(text)` -/
  loads : String → Loaded
  /-- `redact_error(text)` -/
  redactError : String → String

section collector

variable [PythonText] [PythonOutput]

/-! ## Parts -/

/-- `_failure_stamp`. -/
def failureStamp (binding : RuntimeBinding) (collectedAt : String) : Stamp where
  instanceId := binding.instanceId
  linuxAccount := binding.linuxAccount
  publicHost := binding.publicHost
  family := binding.family
  runtimeClass := binding.runtimeClass
  bindingDigest := binding.digest
  containerId := ""
  wrapperImage := ""
  productImage := ""
  opsRepoCommit := ""
  collectedAt := collectedAt

/-- What `build_runtime_stamp` checks; it returns the images. -/
def checkTruth (binding : RuntimeBinding) (containerId : String) (live : Live) :
    Except Raised (String × String) := do
  check (live.get "truth_status" = some "ok")
    ("live runtime truth is not ok: " ++ (live.get "truth_status").getD "None")
  check ((live.get "instance_id").getD "" = binding.instanceId)
    "live runtime instance_id does not match binding"
  check ((live.get "family").getD "" = binding.family)
    "live runtime family does not match binding"
  let wrapper ← requiredString (.ofOption (live.get "wrapper_image")) "truth.wrapper_image" 512
  let product ← requiredString (.ofOption (live.get "product_image")) "truth.product_image" 512
  discard (requiredString (.str containerId) "container_id" 512)
  return (wrapper, product)

/-- `_live_stamp`. -/
def liveStamp (binding : RuntimeBinding) : Collector Stamp := do
  let (found, lookup) ← ask (.findContainer binding)
  let containerId ← pass (orRaise (found.filter (· ≠ ""))
    (.contract ("gateway container not found: " ++ lookup)))
  let live ← ask (.liveTruth binding.instanceId)
  let failed := (live.checks.filter fun item => !item.1).map Prod.snd
  pass (check (failed = [])
    ("live runtime truth checks failed: " ++ String.intercalate "," failed))
  let (wrapper, product) ← pass (checkTruth binding containerId live)
  let moment ← ask .now
  return { failureStamp binding moment with
    containerId := containerId
    wrapperImage := wrapper
    productImage := product
    opsRepoCommit := (live.get "ops_repo_commit").getD "" }

/-- The tables that collection needs. -/
def requiredTables : List String :=
  ["provider_usage_call", "provider_usage_coverage_manifest", "slot_assignment_interval",
    "usage_collection_conflict", "usage_collection_cursor"]

/-- `ensure_schema`. -/
def ensureSchema : Collector Unit := do
  let found ← ask .listTables
  pass (check (∀ name ∈ requiredTables, name ∈ found)
    ("usage DB schema incomplete: missing=" ++ nameList (requiredTables.filter (· ∉ found))))

/-- `acquire_collection_lock`. -/
def acquireCollectionLock (instanceId : String) : Collector Unit := do
  let name := "jitech-usage:" ++ instanceId
  pass (check ((utf8 name.toList).length ≤ 64)
    "usage collection lock name exceeds MySQL limit")
  let acquired ← ask (.getLock name)
  pass (require (acquired = true)
    (.busy ("usage collection already running: instance=" ++ instanceId)))

/-- What a failing command of the product raises. -/
def procFailure (kind : String) (proc : Proc) : Raised :=
  let detail :=
    if proc.stderr ≠ "" then proc.stderr
    else if proc.stdout ≠ "" then proc.stdout else "returncode=" ++ toString proc.returncode
  .contract (kind ++ PythonOutput.redactError (PythonOutput.strip detail))

/-- The document that a command of the product prints. -/
def parseStdout (subject stdout : String) : Except Raised Json := do
  let text := PythonOutput.strip stdout
  check (text ≠ "") (subject ++ " returned empty stdout")
  match PythonOutput.loads text with
  | .notJson => throw (.contract (subject ++ " stdout is not exactly one JSON document"))
  | .raises e => throw e
  | .value payload => return payload

/-- `parse_coverage_stdout`. -/
def parseCoverageStdout (stdout family : String) : Except Raised ValidatedCoverage := do
  let payload ← parseStdout "product usage coverage" stdout
  validateCoverage payload family

/-- `parse_export_stdout`. -/
def parseExportStdout (stdout : String) (after : Int) (family : String) :
    Except Raised ValidatedExport := do
  let payload ← parseStdout "product usage export" stdout
  validateExport payload after family

/-- The coverage that the product reports. -/
def fetchCoverage (containerId family : String) : Collector ValidatedCoverage := do
  pass (check (family ∈ productFamilies) ("unsupported usage coverage family: " ++ family))
  let proc ← ask (.runCoverage containerId family)
  pass (require (proc.returncode = 0) (procFailure "product_coverage_failed: " proc))
  pass (parseCoverageStdout proc.stdout family)

/-- The page that the product exports above the cursor. -/
def fetchExport (containerId family : String) (after limit : Int) : Collector ValidatedExport := do
  pass (check (0 ≤ after) "after must be an integer >= 0")
  pass (check (1 ≤ limit) "limit must be an integer >= 1")
  pass (check (family ∈ productFamilies) ("unsupported usage export family: " ++ family))
  let proc ← ask (.runExport containerId family after limit)
  pass (require (proc.returncode = 0) (procFailure "product_export_failed: " proc))
  pass (parseExportStdout proc.stdout after family)

/-! ## One page -/

/-- The binding, and the stamp of its live runtime. -/
def beforePage (binding : RuntimeBinding) : Collector (RuntimeBinding × Stamp) := do
  let bindings ← ask .loadBindings
  let before ← pass (getRuntimeBinding bindings binding.instanceId)
  let stamp ← liveStamp before
  return (before, stamp)

/-- The runtime did not change while the page was exported. -/
def unchangedRuntime (binding before : RuntimeBinding) (stamp : Stamp) : Collector Unit := do
  let bindings ← ask .loadBindings
  let after ← pass (getRuntimeBinding bindings binding.instanceId)
  pass (check (before.digest = after.digest) "runtime binding changed during usage export")
  let afterStamp ← liveStamp after
  pass (check (afterStamp.containerId = stamp.containerId)
    "gateway container changed during usage export")
  pass (check
    (afterStamp.wrapperImage = stamp.wrapperImage ∧ afterStamp.productImage = stamp.productImage)
    "runtime image changed during usage export")

/-- The coverage and the page at the cursor. -/
def fetchPage (binding before : RuntimeBinding) (stamp : Stamp) (limit : Int) :
    Collector (ValidatedCoverage × ValidatedExport) := do
  let cursor ← ask (.readCursor stamp)
  let coverage ← fetchCoverage stamp.containerId binding.family
  let page ← fetchExport stamp.containerId binding.family cursor limit
  unchangedRuntime binding before stamp
  return (coverage, page)

/-! ## Results -/

/-- The counters of a call, and the stamp that a failure is recorded with. -/
structure Locals where
  stamp : Stamp
  pages : Nat
  inserted : Nat
  idempotent : Nat

/-- What `collect_target` returns, by its `status`. -/
inductive Collected where
  | ok (pages inserted idempotent : Nat) (cursor highWatermark : Int)
      (coverageStatus coverageDigest : String)
  | busy (pages inserted idempotent : Nat) (reason : String)
  | failed (pages inserted idempotent : Nat) (reason : String)

/-- Run a part, and hand on its exception. -/
def attempt {α : Type} (p : Collector α) : Collector (Except Raised α) :=
  tryCatch (p >>= fun a => pure (.ok a)) fun e => pure (.error e)

/-- `_record_failure_safely`: an exception is only printed. -/
def recordFailureSafely (stamp : Stamp) (code detail : String) : Collector Unit := do
  let _ ← attempt (ask (.recordFailure stamp code (PythonOutput.redactError detail)))
  return ()

/-- The handlers of `collect_target`. -/
def onException (locals : Locals) : Raised → Collector Collected
  | .busy message =>
      return .busy locals.pages locals.inserted locals.idempotent
        (PythonOutput.redactError message)
  | .conflict message =>
      return .failed locals.pages locals.inserted locals.idempotent
        (PythonOutput.redactError message)
  | e => do
      recordFailureSafely locals.stamp e.className e.message
      return .failed locals.pages locals.inserted locals.idempotent
        (PythonOutput.redactError e.message)

/-- The loop over the pages, with the number of pages that are still allowed. -/
def collectPages (binding : RuntimeBinding) (limit maxPages : Int) :
    Nat → Locals → Collector Collected
  | 0, locals => onException locals
      (.contract ("collection page limit reached: max_pages=" ++ toString maxPages))
  | pages + 1, locals => do
      match ← attempt (beforePage binding) with
      | .error e => onException locals e
      | .ok (before, stamp) =>
          match ← attempt (fetchPage binding before stamp limit) with
          | .error e => onException { locals with stamp := stamp } e
          | .ok (coverage, page) =>
              match ← attempt (ask .now) with
              | .error e => onException { locals with stamp := stamp } e
              | .ok moment =>
                  let stamp := { stamp with collectedAt := moment }
                  match ← attempt (ask (.store stamp coverage page)) with
                  | .error e => onException { locals with stamp := stamp } e
                  | .ok stored =>
                      let locals : Locals :=
                        { stamp := stamp
                          pages := locals.pages + 1
                          inserted := locals.inserted + stored.inserted
                          idempotent := locals.idempotent + stored.idempotent }
                      if page.hasMore then
                        collectPages binding limit maxPages pages locals
                      else
                        return .ok locals.pages locals.inserted locals.idempotent
                          page.nextCursor page.highWatermark coverage.status
                          coverage.manifestDigest

/-- The body of `collect_target` between the connection and its closing. -/
def collectBody (binding : RuntimeBinding) (limit maxPages : Int) : Collector Collected := do
  let moment ← ask .now
  let locals : Locals :=
    { stamp := failureStamp binding moment, pages := 0, inserted := 0, idempotent := 0 }
  match ← attempt (do ensureSchema; acquireCollectionLock binding.instanceId) with
  | .error e => onException locals e
  | .ok () => collectPages binding limit maxPages maxPages.toNat locals

/-- `collect_target`. -/
def collectTarget (binding : RuntimeBinding) (limit maxPages : Int) : Collector Collected := do
  ask .connect
  let collected ← collectBody binding limit maxPages
  ask .close
  return collected

end collector

/-! ## Running a part -/

section running

variable {exec : (op : CollectOp) → Db → Except Raised op.Res × Db}

lemma eval_attempt {α : Type} (p : Collector α) (db : Db) :
    eval exec (attempt p) db = (.ok (eval exec p db).1, (eval exec p db).2) := by
  unfold attempt
  rw [eval_tryCatch, eval_bind]
  rcases eval exec p db with ⟨_ | a, db'⟩
  · rfl
  · rfl

lemma eval_attempt_bind {α β : Type} {p : Collector α} {f : Except Raised α → Collector β}
    {db db' : Db} {x : Except Raised α} (h : eval exec p db = (x, db')) :
    eval exec (attempt p >>= f) db = eval exec (f x) db' := by
  refine eval_bind_of_ok _ ?_
  rw [eval_attempt, h]

/-- An operation that leaves the tables. -/
lemma eval_step {α β : Type} {p : Collector α} {f : α → Collector β} {db : Db} {a : α}
    (h : eval exec p db = (.ok a, db)) : eval exec (p >>= f) db = eval exec (f a) db :=
  eval_bind_of_ok _ h

lemma eval_attempt_step {α β : Type} {p : Collector α} {f : Except Raised α → Collector β}
    {db : Db} {x : Except Raised α} (h : eval exec p db = (x, db)) :
    eval exec (attempt p >>= f) db = eval exec (f x) db := eval_attempt_bind h

end running

end AgentRuntimeOps.Usage
