import AgentRuntimeOps.RootActions.StoreHistory

/-!
# Stored authorization rows stay readable

A ceremony, a bootstrap session and a credential pass the check of their constructor when they are
handed to the store, and again whenever their row is read.  In between, `UPDATE` statements change
the rows without running the check: they consume or expire a ceremony, count a session down or
invalidate it, and move the counter of a credential.

All of them keep the check, with one exception.  A ceremony must not be consumed before it was
issued, and neither `complete_registration` nor `claim_with_approval` compares the two times: when
the clock steps back in between, the consumed row can never be read again.
`authorization_rows_readable` says that this is the only way.
-/

namespace AgentRuntimeOps.RootActions

open AgentRuntimeOps.Lib Connection

/-! ## Readable rows -/

/-- Every row passes the check of its constructor. -/
structure Store.AuthValid (s : Store) : Prop where
  ceremonies : ∀ row ∈ s.ceremonies.rows, row.postInit = .ok ()
  bootstraps : ∀ row ∈ s.bootstraps.rows, row.postInit = .ok ()
  credentials : ∀ row ∈ s.credentials.rows, row.credential.postInit = .ok () ∧
    row.credential.fingerprint = row.credentialFingerprint

/-- Reading a row that is there answers it. -/
def Store.AuthReadable (s : Store) : Prop :=
  (∀ row ∈ s.ceremonies.rows, s.readCeremony row.ceremonyId = .ok row) ∧
  (∀ row ∈ s.bootstraps.rows, s.readAuthBootstrap row.bootstrapId = .ok row) ∧
  (∀ row ∈ s.credentials.rows,
    s.readCredential row.credential.credentialId = .ok row.credential)

lemma readAuthBootstrap_ok {s : Store} {bootstrapId : String} {session : BootstrapSession} :
    s.readAuthBootstrap bootstrapId = .ok session ↔
      s.bootstraps.find? bootstrapId = some session ∧ session.postInit = .ok () := by
  unfold Store.readAuthBootstrap
  simp only [except_bind_ok, orRaise_ok, except_pure_ok]
  constructor
  · rintro ⟨row, hrow, _, hinit, rfl⟩
    exact ⟨hrow, hinit⟩
  · rintro ⟨hrow, hinit⟩
    exact ⟨session, hrow, (), hinit, rfl⟩

lemma Store.authReadable_iff {s : Store} : s.AuthReadable ↔ s.AuthValid := by
  constructor
  · rintro ⟨hceremonies, hbootstraps, hcredentials⟩
    refine ⟨?_, ?_, ?_⟩
    · intro row hrow
      exact (readCeremony_ok.mp (hceremonies row hrow)).2
    · intro row hrow
      exact (readAuthBootstrap_ok.mp (hbootstraps row hrow)).2
    · intro row hrow
      obtain ⟨hfound, hinit⟩ := readCredential_ok.mp (hcredentials row hrow)
      have hsame := (Table.find?_of_mem hrow).symm.trans hfound
      exact ⟨hinit, congrArg CredentialRow.credentialFingerprint (Option.some.inj hsame).symm⟩
  · intro h
    refine ⟨?_, ?_, ?_⟩
    · intro row hrow
      exact readCeremony_ok.mpr ⟨Table.find?_of_mem hrow, h.ceremonies row hrow⟩
    · intro row hrow
      exact readAuthBootstrap_ok.mpr ⟨Table.find?_of_mem hrow, h.bootstraps row hrow⟩
    · intro row hrow
      obtain ⟨hinit, hprint⟩ := h.credentials row hrow
      refine readCredential_ok.mpr ⟨?_, hinit⟩
      rw [Table.find?_of_mem hrow, hprint]

/-! ## What the updates do to the checks -/

section updates

/-- The check of a ceremony after its state columns change: the other columns still pass. -/
lemma postInit_with_state {row : PendingCeremony} (h : row.postInit = .ok ())
    (state : CeremonyState) (consumedAt fingerprint : Option String) :
    ({ row with state := state, consumedAt := consumedAt,
                credentialFingerprint := fingerprint } : PendingCeremony).postInit =
      ({ row with state := state, consumedAt := consumedAt,
                  credentialFingerprint := fingerprint } : PendingCeremony).checkState := by
  unfold PendingCeremony.postInit at h ⊢
  simp only [except_bind_ok, require_ok, exists_const] at h
  obtain ⟨⟨⟩, hid, ⟨⟩, hchallenge, hnonce, ⟨⟩, hdigest, hbinding, ⟨⟩, hissued, ⟨⟩, hexpires, hlt, ⟨⟩, -,
    hpurpose⟩ := h
  generalize hstate : ({ row with
    state := state, consumedAt := consumedAt,
    credentialFingerprint := fingerprint } : PendingCeremony).checkState = x
  rw [hid, hchallenge, require_of hnonce, hdigest, require_of hbinding, hissued, hexpires,
    require_of hlt]
  change (x >>= fun _ => row.checkPurpose) = x
  rw [hpurpose]
  rcases x with e | ⟨⟩
  · rfl
  · rfl

/-- A ceremony expires after it was issued. -/
lemma issuedAt_lt_expiresAt {row : PendingCeremony} (h : row.postInit = .ok ()) :
    row.issuedAt < row.expiresAt := by
  unfold PendingCeremony.postInit at h
  simp only [except_bind_ok, require_ok, exists_const] at h
  obtain ⟨-, -, -, -, -, -, -, -, -, -, -, -, hlt, -⟩ := h
  exact hlt

/-- The issue time of a ceremony is a timestamp. -/
lemma authTimestamp_issuedAt {row : PendingCeremony} (h : row.postInit = .ok ()) (field : String) :
    authTimestamp row.issuedAt field = .ok () := by
  unfold PendingCeremony.postInit at h
  simp only [except_bind_ok, require_ok, exists_const] at h
  obtain ⟨-, -, -, -, -, -, -, -, ⟨⟩, hissued, -⟩ := h
  unfold authTimestamp at hissued ⊢
  simp only [except_bind_ok, require_ok, exists_const] at hissued ⊢
  exact hissued

/-- A consumed ceremony passes the check exactly when it was not consumed before its issue. -/
lemma postInit_assignConsumed {row : PendingCeremony} {consumedAt : String}
    (h : row.postInit = .ok ()) (message : List UInt8) :
    (assignConsumed consumedAt (sha256Digest message) row).postInit = .ok () ↔
      authTimestamp consumedAt "consumed_at" = .ok () ∧ row.issuedAt ≤ consumedAt := by
  have hdigest : authDigest (sha256Digest message) "credential_fingerprint" = .ok () :=
    require_of (isDigest_sha256Digest message)
  unfold assignConsumed
  rw [postInit_with_state h, PendingCeremony.checkState, if_neg (by simp)]
  simp only [except_bind_ok, require_ok, exists_const, Option.getD_some, not_lt, hdigest, and_true]
  constructor
  · rintro ⟨⟨⟩, hstamp, hle⟩
    exact ⟨hstamp, hle⟩
  · rintro ⟨hstamp, hle⟩
    exact ⟨(), hstamp, hle⟩

/-- A ceremony expires at the issue of another one, which is not before its own. -/
lemma postInit_assignExpired {row ceremony : PendingCeremony} (h : row.postInit = .ok ())
    (hissued : row.state = .issued) (hnew : ceremony.postInit = .ok ())
    (hstale : row.expiresAt ≤ ceremony.issuedAt) :
    (assignExpired ceremony.issuedAt row).postInit = .ok () := by
  have hblank : row.credentialFingerprint = none := by
    have hcheck := h.symm.trans
      (postInit_with_state h row.state row.consumedAt row.credentialFingerprint)
    rw [eq_comm, PendingCeremony.checkState, if_pos hissued, require_ok] at hcheck
    exact hcheck.2
  have hafter : row.issuedAt ≤ ceremony.issuedAt := (issuedAt_lt_expiresAt h).le.trans hstale
  unfold assignExpired
  rw [postInit_with_state h, PendingCeremony.checkState, if_neg (by simp)]
  simp only [except_bind_ok, require_ok, exists_const, Option.getD_some, not_lt, hblank, and_true]
  exact ⟨(), authTimestamp_issuedAt hnew "consumed_at", hafter⟩

/-- Counting an issued session down keeps its check. -/
lemma postInit_assignRemaining {row : BootstrapSession} (h : row.postInit = .ok ())
    {remaining : Nat} (hle : remaining ≤ row.remainingRegistrations) :
    (assignRemaining remaining row).postInit = .ok () := by
  unfold BootstrapSession.postInit at h ⊢
  simp only [except_bind_ok, require_ok, exists_const] at h ⊢
  obtain ⟨⟨⟩, hid, ⟨⟩, htoken, ⟨⟩, hissued, ⟨⟩, hexpires, hlt, hbound, -⟩ := h
  refine ⟨(), hid, (), htoken, (), hissued, (), hexpires, hlt, hle.trans hbound, ?_, ?_⟩
  · change (if remaining = 0 then BootstrapState.consumed else .issued) = .issued → 1 ≤ remaining
    split_ifs with hzero
    · intro hstate
      cases hstate
    · intro _
      omega
  · change (if remaining = 0 then BootstrapState.consumed else .issued) = .consumed → remaining = 0
    split_ifs with hzero
    · intro _
      exact hzero
    · intro hstate
      cases hstate

/-- Invalidating a session keeps its check. -/
lemma postInit_assignInvalid {row : BootstrapSession} (h : row.postInit = .ok ()) :
    (assignInvalid row).postInit = .ok () := by
  unfold BootstrapSession.postInit at h ⊢
  simp only [except_bind_ok, require_ok, exists_const] at h ⊢
  obtain ⟨⟨⟩, hid, ⟨⟩, htoken, ⟨⟩, hissued, ⟨⟩, hexpires, hlt, hbound, -⟩ := h
  refine ⟨(), hid, (), htoken, (), hissued, (), hexpires, hlt, hbound, ?_, ?_⟩
  · intro hstate
    cases hstate
  · intro hstate
    cases hstate

/-- Moving the counter of an approval credential keeps its check: only a recovery credential must
not be backed up. -/
lemma postInit_assignSignCount {row : CredentialRow} (h : row.credential.postInit = .ok ())
    (hrole : row.credential.role = .approval) (verified : VerifiedAssertion) :
    (assignSignCount verified row).credential.postInit = .ok () := by
  have hnot : (assignSignCount verified row).credential.role = .recovery → False := by
    intro hrecovery
    change row.credential.role = .recovery at hrecovery
    rw [hrole] at hrecovery
    cases hrecovery
  unfold RegisteredCredential.postInit at h ⊢
  simp only [except_bind_ok, require_ok, exists_const] at h ⊢
  obtain ⟨⟨⟩, hid, ⟨⟩, hkey, hlabel, ⟨⟩, haaguid, hdevice, ⟨⟩, hregistered, hrest⟩ := h
  refine ⟨(), hid, (), hkey, hlabel, (), haaguid, hdevice, (), hregistered, ?_⟩
  have hsame : (assignSignCount verified row).credential.revokedAt = row.credential.revokedAt := rfl
  rw [hsame]
  cases hrevoked : row.credential.revokedAt with
  | none => exact require_of fun hrecovery => (hnot hrecovery).elim
  | some revokedAt =>
      rw [hrevoked] at hrest
      simp only [except_bind_ok, require_ok, exists_const] at hrest ⊢
      obtain ⟨⟨⟩, hstamp, hafter, -⟩ := hrest
      exact ⟨(), hstamp, hafter, fun hrecovery => (hnot hrecovery).elim⟩

end updates

/-! ## One call -/

/-- A ceremony is consumed at a timestamp that does not precede its issue. -/
def StoreWrite.Timely (s : Store) : StoreWrite → Prop
  | .completeRegistration _ ceremonyId _ consumedAt =>
      authTimestamp consumedAt "consumed_at" = .ok () ∧
        ∀ row ∈ s.ceremonies.rows, row.ceremonyId = ceremonyId → row.issuedAt ≤ consumedAt
  | .claimWithApproval ceremony _ _ approval _ => ceremony.issuedAt ≤ approval.verifiedAt
  | _ => True

namespace Store.AuthValid

variable {s s' : Store}

lemma empty : Store.empty.AuthValid := by
  refine ⟨?_, ?_, ?_⟩ <;> intro row hrow <;> cases hrow

lemma congr (h : s'.authTables = s.authTables) : s'.AuthValid ↔ s.AuthValid := by
  have hbootstraps : s'.bootstraps = s.bootstraps := congrArg AuthTables.bootstraps h
  have hcredentials : s'.credentials = s.credentials := congrArg AuthTables.credentials h
  have hceremonies : s'.ceremonies = s.ceremonies := congrArg AuthTables.ceremonies h
  constructor
  · rintro ⟨h₁, h₂, h₃⟩
    rw [hceremonies] at h₁
    rw [hbootstraps] at h₂
    rw [hcredentials] at h₃
    exact ⟨h₁, h₂, h₃⟩
  · rintro ⟨h₁, h₂, h₃⟩
    rw [← hceremonies] at h₁
    rw [← hbootstraps] at h₂
    rw [← hcredentials] at h₃
    exact ⟨h₁, h₂, h₃⟩

/-- Consuming an issued ceremony keeps the ceremonies readable exactly when it is timely. -/
lemma consumed_iff (h : s.AuthValid) {ceremony : PendingCeremony}
    (hfound : s.ceremonies.find? ceremony.ceremonyId = some ceremony)
    (hissued : ceremony.state = .issued) (consumedAt : String) (message : List UInt8) :
    (∀ row ∈ (consumedCeremonies s ceremony.ceremonyId consumedAt (sha256Digest message)).rows,
      row.postInit = .ok ()) ↔
      authTimestamp consumedAt "consumed_at" = .ok () ∧ ceremony.issuedAt ≤ consumedAt := by
  have hmem := Table.mem_of_find? hfound
  have hvalid := h.ceremonies ceremony hmem
  constructor
  · intro hall
    rw [← postInit_assignConsumed hvalid message]
    apply hall
    refine Table.mem_updateWhere.mpr ⟨ceremony, hmem, ?_⟩
    simp [hissued]
  · intro htimely
    refine Table.forall_updateWhere (ceremonyId_assignConsumed consumedAt _) h.ceremonies ?_
    intro row hrow hp
    simp only [Bool.and_eq_true, decide_eq_true_eq] at hp
    obtain rfl := Table.eq_of_key_eq hrow hmem hp.1
    exact (postInit_assignConsumed hvalid message).mpr htimely

/-- A ceremony is inserted as its constructor left it. -/
lemma insertCeremony (h : s.AuthValid) {ceremony : PendingCeremony}
    (hinit : ceremony.postInit = .ok ())
    (hins : Connection.insertCeremony ceremony s = (.ok (), s')) : s'.AuthValid := by
  obtain ⟨ceremonies, -, hrow, rfl⟩ := insertCeremony_ok.mp hins
  refine ⟨?_, h.bootstraps, h.credentials⟩
  intro row hmem
  rcases (Table.mem_insert? hrow).mp hmem with hmem | rfl
  · exact h.ceremonies row hmem
  · exact hinit

/-- Expiring the stale approval ceremonies. -/
lemma expireCeremonies (h : s.AuthValid) {ceremony : PendingCeremony}
    (hinit : ceremony.postInit = .ok ()) :
    ({ s with ceremonies := Store.expiredCeremonies s ceremony.issuedAt } : Store).AuthValid := by
  refine ⟨?_, h.bootstraps, h.credentials⟩
  refine Table.forall_updateWhere (ceremonyId_assignExpired _) h.ceremonies ?_
  intro row hrow hp
  simp only [Bool.and_eq_true, decide_eq_true_eq] at hp
  exact postInit_assignExpired (h.ceremonies row hrow) hp.1.2 hinit hp.2

/-- A session is created, and the unused one before it is invalidated. -/
lemma createAuthBootstrap (h : s.AuthValid) {session : BootstrapSession} {u : Unit}
    (hrun : Store.createAuthBootstrap session s = (.ok u, s')) : s'.AuthValid := by
  obtain ⟨hinit, -, before, bootstraps, hcases, hins, rfl⟩ := Store.createAuthBootstrap_ok hrun
  have hbefore : ∀ row ∈ before.rows, row.postInit = .ok () := by
    rcases hcases with ⟨-, rfl⟩ | ⟨-, rfl⟩
    · exact h.bootstraps
    · refine Table.forall_updateWhere bootstrapId_assignInvalid h.bootstraps ?_
      intro row hrow _
      exact postInit_assignInvalid (h.bootstraps row hrow)
  refine ⟨h.ceremonies, ?_, h.credentials⟩
  intro row hrow
  rcases (Table.mem_insert? hins).mp hrow with hrow | rfl
  · exact hbefore row hrow
  · exact hinit

/-- The session is counted down, the credential inserted as its constructor left it. -/
lemma completeRegistration_iff (h : s.AuthValid) {tokenDigest ceremonyId consumedAt : String}
    {credential result : RegisteredCredential}
    (hrun : Store.completeRegistration tokenDigest ceremonyId credential consumedAt s =
      (.ok result, s')) :
    s'.AuthValid ↔
      (StoreWrite.completeRegistration tokenDigest ceremonyId credential consumedAt).Timely s := by
  obtain ⟨hinit, ceremony, bootstrap, s₁, s₂, hceremony, -, hissued, hbootstrap, -, -, -, hins, rfl,
    rfl⟩ := Store.completeRegistration_ok hrun
  obtain ⟨credentials, -, hrow, rfl⟩ := insertCredential_ok.mp hins
  obtain ⟨hfound, -⟩ := readCeremony_ok.mp hceremony
  have hkey : ceremony.ceremonyId = ceremonyId := Table.key_of_find? hfound
  have hconsumed := h.consumed_iff (hkey.symm ▸ hfound) hissued consumedAt
    (tagged "agent-runtime-root-action-credential/v1" credential.credentialId)
  have htimely :
      (StoreWrite.completeRegistration tokenDigest ceremonyId credential consumedAt).Timely s ↔
        authTimestamp consumedAt "consumed_at" = .ok () ∧ ceremony.issuedAt ≤ consumedAt := by
    constructor
    · rintro ⟨hstamp, hall⟩
      exact ⟨hstamp, hall ceremony (Table.mem_of_find? hfound) hkey⟩
    · rintro ⟨hstamp, hle⟩
      refine ⟨hstamp, fun row hmem hid => ?_⟩
      rw [Table.eq_of_key_eq hmem (Table.mem_of_find? hfound) (hid.trans hkey.symm)]
      exact hle
  rw [htimely, ← hconsumed]
  constructor
  · intro hvalid
    exact hvalid.ceremonies
  · intro hceremonies
    refine ⟨hceremonies, ?_, ?_⟩
    · refine Table.forall_updateWhere (bootstrapId_assignRemaining _) h.bootstraps ?_
      intro row hmem hp
      simp only [Bool.and_eq_true, decide_eq_true_eq] at hp
      have hle : bootstrap.remainingRegistrations - 1 ≤ row.remainingRegistrations := by omega
      exact postInit_assignRemaining (h.bootstraps row hmem) hle
    · intro row hmem
      rcases (Table.mem_insert? hrow).mp hmem with hmem | rfl
      · exact h.credentials row hmem
      · exact ⟨hinit, rfl⟩

/-- The counter of the credential moves; an approval credential may be backed up. -/
lemma claimWithApproval_iff [UnicodeData] (h : s.AuthValid) {ceremony : PendingCeremony}
    {credential : RegisteredCredential} {verified : VerifiedAssertion} {approval : ApprovalRecord}
    {claimEvent : TransitionEvent} {record : JobRecord}
    (hrun : Store.claimWithApproval ceremony credential verified approval claimEvent s =
      (.ok record, s')) :
    s'.AuthValid ↔ ceremony.issuedAt ≤ approval.verifiedAt := by
  have hstamp : authTimestamp approval.verifiedAt "consumed_at" = .ok () := by
    have hinit := Store.claimWithApproval_postInit hrun
    unfold ApprovalRecord.postInit authTimestamp at hinit
    simp only [except_bind_ok, require_ok, exists_const] at hinit
    obtain ⟨-, -, -, -, -, -, -, -, -, -, ⟨hform, hreal⟩, -⟩ := hinit
    unfold authTimestamp
    simp only [except_bind_ok, require_ok, exists_const]
    exact ⟨hform, hreal⟩
  obtain ⟨hcontract, hceremony, -, hcredential, s₁, s₂, s₃, rfl, rfl, hins, happend⟩ :=
    Store.claimWithApproval_ok hrun
  obtain ⟨hfound, -⟩ := readCeremony_ok.mp hceremony
  obtain ⟨hcred, -⟩ := readCredential_ok.mp hcredential
  obtain ⟨approvals, -, -, rfl⟩ := (insertApproval_ok hcontract.userVerified).mp hins
  have hconsumed := h.consumed_iff hfound hcontract.2.1 approval.verifiedAt
    (tagged "agent-runtime-root-action-credential/v1" credential.credentialId)
  rw [hstamp] at hconsumed
  rw [congr (authTables_compareAndAppend happend)]
  constructor
  · intro hvalid
    exact (hconsumed.mp hvalid.ceremonies).2
  · intro hle
    refine ⟨hconsumed.mpr ⟨rfl, hle⟩, h.bootstraps, ?_⟩
    refine Table.forall_updateWhere (credentialId_assignSignCount verified) h.credentials ?_
    intro row hmem hp
    obtain ⟨hvalid, hprint⟩ := h.credentials row hmem
    simp only [Bool.and_eq_true, decide_eq_true_eq] at hp
    have hrole : row.credential.role = .approval := by
      rw [Table.eq_of_key_eq hmem (Table.mem_of_find? hcred) hp.1.1]
      exact hcontract.2.2.1
    exact ⟨postInit_assignSignCount hvalid hrole verified, hprint⟩

/-- **A successful call keeps the rows readable exactly when it is timely.** -/
theorem run_iff [UnicodeData] (h : s.AuthValid) (w : StoreWrite) (r : w.Res)
    (hrun : w.run s = (.ok r, s')) : s'.AuthValid ↔ w.Timely s := by
  by_cases hauth : w.isAuth = true
  · cases w with
    | createAuthBootstrap session => exact iff_of_true (h.createAuthBootstrap hrun) trivial
    | issueRegistrationCeremony tokenDigest ceremony =>
        have hinit := Store.issueRegistrationCeremony_postInit hrun
        have hins := (Store.issueRegistrationCeremony_ok hrun).2
        exact iff_of_true (h.insertCeremony hinit hins) trivial
    | completeRegistration tokenDigest ceremonyId credential consumedAt =>
        exact h.completeRegistration_iff hrun
    | issueApprovalCeremony ceremony =>
        obtain ⟨hinit, -, -, -, hins⟩ := Store.issueApprovalCeremony_ok hrun
        exact iff_of_true ((h.expireCeremonies hinit).insertCeremony hinit hins) trivial
    | claimWithApproval ceremony credential verified approval claimEvent =>
        exact h.claimWithApproval_iff hrun
    | _ => cases hauth
  · have hother : w.isAuth = false := by simpa using hauth
    have htimely : w.Timely s := by
      cases w with
      | completeRegistration => cases hother
      | claimWithApproval => cases hother
      | _ => trivial
    exact iff_of_true ((congr (authTables_run w r hother hrun)).mpr h) htimely

end Store.AuthValid

/-! ## Runs -/

/-- **The rows stay readable in every run whose consumptions are timely**, and the first accepted
call that is not leaves a row that cannot be read. -/
theorem authorization_rows_readable [UnicodeData] {s : Store}
    (h : Reaches storeStep (fun s w => w.Timely s) Store.empty s) :
    s.AuthReadable ∧
      ∀ (w : StoreWrite) (r : w.Res) (s' : Store), w.run s = (.ok r, s') →
        (s'.AuthReadable ↔ w.Timely s) := by
  have hvalid : s.AuthValid := by
    refine h.invariant Store.AuthValid.empty ?_
    intro s₁ s₂ w hs₁ htimely hw
    obtain rfl : w.after s₁ = s₂ := Option.some.inj hw
    rcases w.after_cases s₁ with hsame | ⟨r, hr⟩
    · rw [hsame]
      exact hs₁
    · exact (hs₁.run_iff w r hr).mpr htimely
  refine ⟨Store.authReadable_iff.mpr hvalid, ?_⟩
  intro w r s' hrun
  rw [Store.authReadable_iff]
  exact hvalid.run_iff w r hrun

/-! ## A registration while the clock steps back -/

/-- A bootstrap session for three registrations. -/
def sampleSession : BootstrapSession :=
  ⟨"bootstrap-1", "sha256:" ++ String.ofList (List.replicate 64 '0'), "2026-01-01T00:00:00Z",
    "2026-01-01T00:10:00Z", 3, .issued⟩

/-- The challenge of the ceremony below. -/
def sampleChallenge : List UInt8 :=
  sha256 (tagged "agent-runtime-root-action-registration/v1"
    (utf8 "bootstrap-1".toList ++ 0 :: utf8 "approval".toList ++ 0 ::
      utf8 "office_windows_hello".toList ++ 0 :: List.replicate 32 0 ++ 0 ::
      utf8 "2026-01-01T00:06:00Z".toList))

/-- A registration ceremony of the session, issued one minute after it. -/
def sampleRegistration : PendingCeremony where
  ceremonyId := "ceremony-1"
  purpose := .registration
  challenge := sampleChallenge
  bindingNonce := List.replicate 32 0
  challengeDigest := sha256Digest sampleChallenge
  issuedAt := "2026-01-01T00:01:00Z"
  expiresAt := "2026-01-01T00:06:00Z"
  bootstrapId := some "bootstrap-1"
  role := some .approval
  label := some "office_windows_hello"

/-- The credential that is registered. -/
def sampleCredential : RegisteredCredential :=
  ⟨[1], [2], 0, .approval, "office_windows_hello", "aaguid", "single_device", false,
    "2026-01-01T00:00:30Z", none⟩

lemma postInit_sampleSession : sampleSession.postInit = .ok () := by
  decide

lemma postInit_sampleRegistration : sampleRegistration.postInit = .ok () := by
  have hlength : sampleChallenge.length = 32 := length_sha256 _
  have hnonempty : sampleChallenge ≠ [] := by
    intro hnil
    rw [hnil] at hlength
    cases hlength
  have hdigest := isDigest_sha256Digest sampleChallenge
  unfold PendingCeremony.postInit
  simp only [except_bind_ok, require_ok, exists_const]
  refine ⟨(), by decide, (), ?_, by decide, (), ?_, rfl, (), by decide, (), by decide, by decide, (),
    ?_, ?_⟩
  · exact require_of ⟨hnonempty, by change sampleChallenge.length ≤ 64; omega⟩
  · exact require_of hdigest
  · rfl
  · have hchallenge : registrationChallengeBytes "bootstrap-1" .approval "office_windows_hello"
        (List.replicate 32 0) "2026-01-01T00:06:00Z" = .ok sampleChallenge := by
      unfold registrationChallengeBytes
      simp only [except_bind_ok, require_ok, exists_const, except_pure_ok]
      exact ⟨(), by decide, by decide, by decide, (), by decide, rfl⟩
    unfold PendingCeremony.checkPurpose
    simp only [sampleRegistration, Option.getD_some, except_bind_ok, require_ok, exists_const,
      orRaise_ok]
    exact ⟨(), by decide, .approval, rfl, (), rfl, ⟨trivial, trivial⟩, sampleChallenge, hchallenge,
      require_of rfl⟩

lemma postInit_sampleCredential : sampleCredential.postInit = .ok () := by
  decide

/-- The first session of a store. -/
lemma createAuthBootstrap_first {s : Store} {session : BootstrapSession}
    (hinit : session.postInit = .ok ()) (hissued : session.state = .issued)
    (hempty : s.bootstraps = .empty) :
    ∃ bootstraps, bootstraps.rows = [session] ∧
      Store.createAuthBootstrap session s = (.ok (), { s with bootstraps := bootstraps }) := by
  obtain ⟨bootstraps, hins, hrows⟩ :=
    Table.insert?_eq_some (t := s.bootstraps) (r := session) (by rw [hempty]; rfl)
  rw [hempty] at hrows
  refine ⟨bootstraps, hrows, ?_⟩
  unfold Store.createAuthBootstrap
  simp only [Tx.bind_ok, Tx.ofExcept_ok, Tx.require_ok, Tx.transaction_ok, Tx.reads_ok,
    Tx.ite_ok, Tx.writes_ok, except_bind_ok, insertRow_ok, except_pure_ok]
  refine ⟨(), s, ⟨hinit, rfl⟩, (), s, ⟨hissued, rfl⟩, [], s, ⟨?_, rfl⟩,
    .inr ⟨by simp, bootstraps, ⟨?_, hins⟩, rfl⟩⟩
  · rw [hempty]
    rfl
  · rw [hempty]
    intro row hrow
    cases hrow

/-- The ceremony is issued under the session. -/
lemma issueRegistrationCeremony_sample {s : Store} (hsession : s.bootstraps.rows = [sampleSession])
    (hempty : s.ceremonies = .empty) :
    ∃ ceremonies, ceremonies.rows = [sampleRegistration] ∧
      Store.issueRegistrationCeremony sampleSession.tokenDigest sampleRegistration s =
        (.ok (), { s with ceremonies := ceremonies }) := by
  obtain ⟨ceremonies, hins, hrows⟩ :=
    Table.insert?_eq_some (t := s.ceremonies) (r := sampleRegistration) (by rw [hempty]; rfl)
  rw [hempty] at hrows
  have hbootstrap : s.bootstrapByToken sampleSession.tokenDigest = .ok sampleSession := by
    refine bootstrapByToken_ok.mpr ⟨?_, postInit_sampleSession⟩
    rw [hsession]
    simp
  have hinsert : insertCeremony sampleRegistration s =
      (.ok (), { s with ceremonies := ceremonies }) := by
    refine insertCeremony_ok.mpr ⟨ceremonies, ?_, hins, rfl⟩
    rw [hempty]
    intro row hrow
    cases hrow
  refine ⟨ceremonies, hrows, ?_⟩
  unfold Store.issueRegistrationCeremony
  simp only [Tx.bind_ok, Tx.ofExcept_ok, Tx.require_ok, Tx.transaction_ok, Tx.reads_ok,
    Tx.readsOrRaise_ok]
  refine ⟨(), s, ⟨postInit_sampleRegistration, rfl⟩, (), s, ⟨⟨rfl, rfl⟩, rfl⟩, sampleSession, s,
    ⟨hbootstrap, rfl⟩, (), s, ⟨⟨rfl, rfl, by decide, by decide, by decide⟩, rfl⟩, false, s,
    ⟨?_, rfl⟩, (), s, ⟨rfl, rfl⟩, hinsert⟩
  rw [hempty]
  rfl

/-- The registration is accepted at any time before the ceremony expires, however early. -/
lemma completeRegistration_sample {s : Store} (hsession : s.bootstraps.rows = [sampleSession])
    (hceremony : s.ceremonies.rows = [sampleRegistration]) (hempty : s.credentials = .empty)
    {consumedAt : String} (hbefore : consumedAt < sampleRegistration.expiresAt) :
    ∃ s', Store.completeRegistration sampleSession.tokenDigest "ceremony-1" sampleCredential
      consumedAt s = (.ok sampleCredential, s') := by
  obtain ⟨credentials, hins, -⟩ :=
    Table.insert?_eq_some (t := s.credentials)
      (r := ⟨sampleCredential, sampleCredential.fingerprint⟩) (by rw [hempty]; rfl)
  have hread : s.readCeremony "ceremony-1" = .ok sampleRegistration := by
    refine readCeremony_ok.mpr ⟨?_, postInit_sampleRegistration⟩
    rw [Table.find?, hceremony]
    rfl
  have hbootstrap : s.bootstrapByToken sampleSession.tokenDigest = .ok sampleSession := by
    refine bootstrapByToken_ok.mpr ⟨?_, postInit_sampleSession⟩
    rw [hsession]
    simp
  have hinsert : insertCredential sampleCredential s =
      (.ok (), { s with credentials := credentials }) := by
    refine insertCredential_ok.mpr ⟨credentials, ?_, hins, rfl⟩
    rw [hempty]
    intro row hrow
    cases hrow
  unfold Store.completeRegistration
  simp only [Tx.bind_ok, Tx.ofExcept_ok, Tx.require_ok, Tx.transaction_ok, Tx.readsOrRaise_ok,
    Tx.pure_ok, consumeCeremony, countRegistration, Tx.writes_ok, except_bind_ok, updateOne_ok,
    except_pure_ok]
  refine ⟨_, (), s, ⟨postInit_sampleCredential, rfl⟩, (), _, ⟨sampleRegistration, s, ⟨hread, rfl⟩, (),
    s, ⟨⟨rfl, rfl, hbefore, by decide, rfl, rfl⟩, rfl⟩, sampleSession, s, ⟨hbootstrap, rfl⟩, (), s,
    ⟨⟨rfl, rfl, by decide, hbefore.trans (by decide)⟩, rfl⟩, (), _, hinsert, (), _,
    ⟨_, ⟨?_, rfl⟩, rfl⟩, _, ⟨?_, rfl⟩, rfl⟩, trivial, rfl⟩
  · rw [Table.countWhere, hceremony]
    rfl
  · rw [Table.countWhere, hsession]
    rfl

/-- The store once the ceremony is issued: three calls that say nothing about the clock. -/
lemma registering_sample [UnicodeData] : ∃ s,
    Reaches storeStep (fun s w => w.Timely s) Store.empty s ∧
      s.bootstraps.rows = [sampleSession] ∧ s.ceremonies.rows = [sampleRegistration] ∧
      s.credentials = .empty := by
  obtain ⟨bootstraps, hsession, hcreate⟩ :=
    createAuthBootstrap_first (s := Store.empty) postInit_sampleSession rfl rfl
  obtain ⟨ceremonies, hceremony, hissue⟩ :=
    issueRegistrationCeremony_sample (s := { Store.empty with bootstraps := bootstraps }) hsession rfl
  have hfirst : storeStep (.createAuthBootstrap sampleSession) Store.empty =
      some { Store.empty with bootstraps := bootstraps } :=
    congrArg some (StoreWrite.after_of_ok hcreate)
  have hsecond : storeStep
      (.issueRegistrationCeremony sampleSession.tokenDigest sampleRegistration)
      { Store.empty with bootstraps := bootstraps } =
      some { Store.empty with bootstraps := bootstraps, ceremonies := ceremonies } :=
    congrArg some (StoreWrite.after_of_ok hissue)
  have hissued : Reaches storeStep (fun s w => w.Timely s) Store.empty
      { Store.empty with bootstraps := bootstraps } := .tail .refl (by exact trivial) hfirst
  exact ⟨_, .tail hissued (by exact trivial) hsecond, hsession, hceremony, rfl⟩

/-- What the registration leaves of the ceremony. -/
lemma ceremonies_of_completeRegistration_sample {s s' : Store} {consumedAt : String}
    {result : RegisteredCredential} (hceremony : s.ceremonies.rows = [sampleRegistration])
    (hrun : Store.completeRegistration sampleSession.tokenDigest "ceremony-1" sampleCredential
      consumedAt s = (.ok result, s')) :
    s'.ceremonies.rows =
      [assignConsumed consumedAt sampleCredential.fingerprint sampleRegistration] := by
  obtain ⟨-, ceremony, bootstrap, s₁, s₂, hread, -, -, -, -, -, -, hins, rfl, rfl⟩ :=
    Store.completeRegistration_ok hrun
  obtain ⟨credentials, -, -, rfl⟩ := insertCredential_ok.mp hins
  obtain ⟨hfound, -⟩ := readCeremony_ok.mp hread
  have hkey : ceremony.ceremonyId = "ceremony-1" := Table.key_of_find? hfound
  change (consumedCeremonies s ceremony.ceremonyId _ _).rows = _
  rw [consumedCeremonies, Table.rows_updateWhere, hceremony, hkey]
  rfl

/-- A registration one minute after the issue of its ceremony is timely. -/
theorem authorization_rows_readable_sample : ∃ s,
    @Reaches _ _ (@storeStep UnicodeData.asciiOnly) (fun s w => w.Timely s) Store.empty s ∧
      s.ceremonies.rows.countP (·.state = .consumed) = 1 ∧ s.AuthReadable := by
  let _ := UnicodeData.asciiOnly
  obtain ⟨s, hreaches, hsession, hceremony, hempty⟩ := registering_sample
  obtain ⟨s', hrun⟩ := completeRegistration_sample hsession hceremony hempty
    (show "2026-01-01T00:02:00Z" < sampleRegistration.expiresAt by decide)
  let w : StoreWrite := .completeRegistration sampleSession.tokenDigest "ceremony-1"
    sampleCredential "2026-01-01T00:02:00Z"
  have hstep : storeStep w s = some s' := congrArg some (StoreWrite.after_of_ok hrun)
  have htimely : w.Timely s := by
    refine ⟨by decide, ?_⟩
    rw [hceremony]
    intro row hrow _
    rw [List.mem_singleton.mp hrow]
    decide
  refine ⟨s', hreaches.tail htimely hstep, ?_,
    (authorization_rows_readable (hreaches.tail htimely hstep)).1⟩
  rw [ceremonies_of_completeRegistration_sample hceremony hrun]
  rfl

/-- The clock steps back by thirty seconds while the ceremony is outstanding: the store accepts the
registration, and the consumed ceremony cannot be read again. -/
theorem registration_before_issue : ∃ s,
    @Reachable UnicodeData.asciiOnly s ∧ ¬ s.AuthReadable ∧
      s.readCeremony "ceremony-1" =
        .error (Exn.webAuthnAuthorizationError "ceremony consumption precedes issue") := by
  let _ := UnicodeData.asciiOnly
  obtain ⟨s, hreaches, hsession, hceremony, hempty⟩ := registering_sample
  obtain ⟨s', hrun⟩ := completeRegistration_sample hsession hceremony hempty
    (show "2026-01-01T00:00:30Z" < sampleRegistration.expiresAt by decide)
  have hstep : storeStep (.completeRegistration sampleSession.tokenDigest "ceremony-1"
      sampleCredential "2026-01-01T00:00:30Z") s = some s' :=
    congrArg some (StoreWrite.after_of_ok hrun)
  have hrows := ceremonies_of_completeRegistration_sample hceremony hrun
  have hread : s'.readCeremony "ceremony-1" =
      .error (Exn.webAuthnAuthorizationError "ceremony consumption precedes issue") := by
    have hinit := postInit_with_state postInit_sampleRegistration .consumed
      (some "2026-01-01T00:00:30Z") (some sampleCredential.fingerprint)
    unfold Store.readCeremony Table.find?
    rw [hrows]
    change (PendingCeremony.postInit _ >>= fun _ => _) = _
    rw [assignConsumed, hinit]
    rfl
  refine ⟨s', hreaches.unrestricted.tail trivial hstep, ?_, hread⟩
  rintro ⟨hceremonies, -⟩
  have hok := hceremonies _ (by rw [hrows]; exact List.mem_singleton.mpr rfl)
  cases hok.symm.trans hread

end AgentRuntimeOps.RootActions
