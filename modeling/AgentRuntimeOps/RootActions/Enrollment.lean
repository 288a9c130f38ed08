import AgentRuntimeOps.RootActions.StoreHistory

/-!
# Credential enrollment is bounded

Credentials are registered under a bootstrap session.  An unused session may be replaced once, and
a used one never, so all credentials that are ever registered come from one session and its counter
accounts for them.

The store does not keep what a session allowed initially, so the transition system here carries the
sessions as they were created next to the store (`Enrollment`).
-/

set_option linter.unusedSectionVars false

namespace AgentRuntimeOps.RootActions

open AgentRuntimeOps.Lib Connection

/-! ## Runs with the sessions created on the way -/

/-- A store with the bootstrap sessions created so far, oldest first. -/
structure Enrollment where
  store : Store
  created : List BootstrapSession

/-- Before the first call. -/
def Enrollment.initial : Enrollment := ⟨Store.empty, []⟩

section steps

variable [UnicodeData]

/-- The session that a call creates. -/
def StoreWrite.creates : StoreWrite → Store → List BootstrapSession
  | .createAuthBootstrap session, s =>
      if (Store.createAuthBootstrap session s).1.isOk then [session] else []
  | _, _ => []

/-- Any method with any arguments, at any time. -/
def enrollStep (w : StoreWrite) (e : Enrollment) : Option Enrollment :=
  some ⟨w.after e.store, e.created ++ w.creates e.store⟩

end steps

/-- The session registered the credential: a registration ceremony of the session was consumed by
it. -/
def Enrolls (s : Store) (session : BootstrapSession) (row : CredentialRow) : Prop :=
  ∃ ceremony ∈ s.ceremonies.rows, ceremony.purpose = .registration ∧
    ceremony.state = .consumed ∧ ceremony.credentialFingerprint = some row.credentialFingerprint ∧
    ceremony.bootstrapId = some session.bootstrapId

/-! ## The invariant -/

/-- The sessions other than the last are expired; the last one accounts for the credentials. -/
structure Accounts (s : Store) (old : List BootstrapSession) (last initial : BootstrapSession) :
    Prop where
  rows : s.bootstraps.rows = old ++ [last]
  expired : ∀ session ∈ old, session.state = .expired
  same : last.bootstrapId = initial.bootstrapId
  total : s.credentials.rows.length + last.remainingRegistrations = initial.remainingRegistrations
  bound : initial.remainingRegistrations ≤ 3
  ceremonies : ∀ c ∈ s.ceremonies.rows, c.purpose = .registration →
    c.bootstrapId = some last.bootstrapId

/-- Only the last session is issued. -/
lemma Accounts.eq_last {s : Store} {old : List BootstrapSession}
    {last initial row : BootstrapSession} (h : Accounts s old last initial)
    (hrow : row ∈ s.bootstraps.rows) (hissued : row.state = .issued) : row = last := by
  rw [h.rows, List.mem_append, List.mem_singleton] at hrow
  rcases hrow with hrow | rfl
  · rw [h.expired row hrow] at hissued
    cases hissued
  · rfl

/-- Counting a registration touches the last session only. -/
lemma Accounts.rows_counted {s : Store} {old : List BootstrapSession}
    {last initial : BootstrapSession} (h : Accounts s old last initial)
    (hissued : last.state = .issued) :
    (countedBootstraps s last).rows =
      old ++ [assignRemaining (last.remainingRegistrations - 1) last] := by
  unfold countedBootstraps
  rw [Table.rows_updateWhere, h.rows, List.map_append, List.map_singleton]
  have hold : ∀ session ∈ old, (decide (session.bootstrapId = last.bootstrapId) &&
      decide (session.state = .issued) &&
      decide (session.remainingRegistrations = last.remainingRegistrations)) = false := by
    intro session hsession
    rw [h.expired session hsession]
    simp
  congr 1
  · rw [List.map_congr_left fun session hsession => by rw [hold session hsession]]
    simp
  · simp [hissued]

/-- Distinct labels, and a consumed registration ceremony for every credential. -/
structure CredentialsWell (s : Store) : Prop where
  labels : ∀ row ∈ s.credentials.rows, ∀ row' ∈ s.credentials.rows,
    row.credential.revokedAt = none → row'.credential.revokedAt = none →
      row.credential.label = row'.credential.label → row = row'
  enrolled : ∀ row ∈ s.credentials.rows, ∃ ceremony ∈ s.ceremonies.rows,
    ceremony.purpose = .registration ∧ ceremony.state = .consumed ∧
      ceremony.credentialFingerprint = some row.credentialFingerprint

/-- **The enrollment invariant.** -/
structure EnrollInv (e : Enrollment) : Prop where
  ids : e.store.bootstraps.rows.map (·.bootstrapId) = e.created.map (·.bootstrapId)
  few : e.created.length ≤ 2
  accounts : (e.created = [] ∧ e.store.credentials.rows = [] ∧
      ∀ c ∈ e.store.ceremonies.rows, c.purpose ≠ .registration) ∨
    ∃ old last before initial, e.created = before ++ [initial] ∧ Accounts e.store old last initial
  well : CredentialsWell e.store

namespace EnrollInv

variable [UnicodeData] {e : Enrollment} {s' : Store}

lemma initial : EnrollInv Enrollment.initial := by
  refine ⟨rfl, by decide, .inl ⟨rfl, rfl, ?_⟩, ?_, ?_⟩
  · intro c hc
    cases hc
  · intro row hrow
    cases hrow
  · intro row hrow
    cases hrow

/-- A call that leaves the authorization alone. -/
lemma of_authTables (h : EnrollInv e) (htables : s'.authTables = e.store.authTables) :
    EnrollInv ⟨s', e.created⟩ := by
  obtain ⟨s, created⟩ := e
  have hbootstraps : s'.bootstraps = s.bootstraps := congrArg AuthTables.bootstraps htables
  have hcredentials : s'.credentials = s.credentials := congrArg AuthTables.credentials htables
  have hceremonies : s'.ceremonies = s.ceremonies := congrArg AuthTables.ceremonies htables
  obtain ⟨hids, hfew, haccounts, hlabels, henrolled⟩ := h
  refine ⟨?_, hfew, ?_, ?_, ?_⟩
  · rw [← hids, hbootstraps]
  · rcases haccounts with ⟨hnone, hcred, hcer⟩ | ⟨old, last, before, initial, hcreated, hacc⟩
    · exact .inl ⟨hnone, by rw [hcredentials]; exact hcred, by rw [hceremonies]; exact hcer⟩
    · refine .inr ⟨old, last, before, initial, hcreated, ?_, hacc.expired, hacc.same, ?_, hacc.bound, ?_⟩
      · rw [hbootstraps]
        exact hacc.rows
      · rw [hcredentials]
        exact hacc.total
      · rw [hceremonies]
        exact hacc.ceremonies
  · rw [hcredentials]
    exact hlabels
  · rw [hcredentials, hceremonies]
    exact henrolled

/-- What a change of the ceremonies may do: the registration ceremonies belong to the same sessions
as before, and the consumed ones are still there. -/
lemma of_ceremonies {ceremonies : Table PendingCeremony String (fun row => row.ceremonyId)}
    (h : EnrollInv e)
    (hold : ∀ c ∈ ceremonies.rows, c.purpose = .registration →
      ∃ c' ∈ e.store.ceremonies.rows, c'.purpose = .registration ∧ c'.bootstrapId = c.bootstrapId)
    (hkept : ∀ k c, e.store.ceremonies.find? k = some c → c.state = .consumed →
      ceremonies.find? k = some c) :
    EnrollInv ⟨{ e.store with ceremonies := ceremonies }, e.created⟩ := by
  obtain ⟨hids, hfew, haccounts, hlabels, henrolled⟩ := h
  refine ⟨hids, hfew, ?_, hlabels, ?_⟩
  · rcases haccounts with ⟨hnone, hcred, hcer⟩ | ⟨old, last, before, initial, hcreated, hacc⟩
    · refine .inl ⟨hnone, hcred, ?_⟩
      intro c hc hpurpose
      obtain ⟨c', hc', hpurpose', -⟩ := hold c hc hpurpose
      exact hcer c' hc' hpurpose'
    · refine .inr ⟨old, last, before, initial, hcreated, { hacc with ceremonies := ?_ }⟩
      intro c hc hpurpose
      obtain ⟨c', hc', hpurpose', hid⟩ := hold c hc hpurpose
      rw [← hid]
      exact hacc.ceremonies c' hc' hpurpose'
  · intro row hrow
    obtain ⟨c, hc, hpurpose, hconsumed, hprint⟩ := henrolled row hrow
    have hfound := hkept c.ceremonyId c (Table.find?_of_mem hc) hconsumed
    exact ⟨c, Table.mem_of_find? hfound, hpurpose, hconsumed, hprint⟩

/-- An update of issued ceremonies that keeps purpose and session. -/
lemma of_updateCeremonies {p : PendingCeremony → Bool} {f : PendingCeremony → PendingCeremony}
    (h : EnrollInv e) (hf : ∀ r, (f r).ceremonyId = r.ceremonyId)
    (hp : ∀ r, p r = true → r.state = .issued)
    (hkeep : ∀ r, (f r).purpose = r.purpose ∧ (f r).bootstrapId = r.bootstrapId) :
    EnrollInv ⟨{ e.store with ceremonies := e.store.ceremonies.updateWhere p f hf }, e.created⟩ := by
  refine h.of_ceremonies ?_ (Store.Extends.updateCeremonies hf hp).ceremonies
  intro c hc hpurpose
  obtain ⟨r, hr, rfl⟩ := Table.mem_updateWhere.mp hc
  refine ⟨r, hr, ?_⟩
  split_ifs at hpurpose ⊢
  · rw [(hkeep r).1] at hpurpose
    exact ⟨hpurpose, (hkeep r).2.symm⟩
  · exact ⟨hpurpose, rfl⟩

lemma of_consumeCeremony (h : EnrollInv e) (ceremonyId consumedAt fingerprint : String) :
    EnrollInv ⟨{ e.store with
      ceremonies := consumedCeremonies e.store ceremonyId consumedAt fingerprint }, e.created⟩ := by
  refine h.of_updateCeremonies (ceremonyId_assignConsumed consumedAt fingerprint) ?_ ?_
  · intro r hr
    rw [Bool.and_eq_true, decide_eq_true_eq, decide_eq_true_eq] at hr
    exact hr.2
  · intro r
    exact ⟨rfl, rfl⟩

lemma of_expireCeremonies (h : EnrollInv e) (issuedAt : String) :
    EnrollInv ⟨{ e.store with ceremonies := Store.expiredCeremonies e.store issuedAt }, e.created⟩ := by
  refine h.of_updateCeremonies (ceremonyId_assignExpired issuedAt) ?_ ?_
  · intro r hr
    simp only [Bool.and_eq_true, decide_eq_true_eq] at hr
    exact hr.1.2
  · intro r
    exact ⟨rfl, rfl⟩

/-- A new ceremony that is no registration, or one of the last session. -/
lemma of_insertCeremony {ceremony : PendingCeremony} (h : EnrollInv e)
    (hsession : ceremony.purpose = .registration → ∃ row ∈ e.store.bootstraps.rows,
      row.state = .issued ∧ ceremony.bootstrapId = some row.bootstrapId)
    (hins : insertCeremony ceremony e.store = (.ok (), s')) : EnrollInv ⟨s', e.created⟩ := by
  obtain ⟨ceremonies, -, hrow, rfl⟩ := insertCeremony_ok.mp hins
  obtain ⟨hids, hfew, haccounts, hlabels, henrolled⟩ := h
  refine ⟨hids, hfew, ?_, hlabels, ?_⟩
  · rcases haccounts with ⟨hnone, hcred, hcer⟩ | ⟨old, last, before, initial, hcreated, hacc⟩
    · refine .inl ⟨hnone, hcred, ?_⟩
      intro c hc hpurpose
      rcases (Table.mem_insert? hrow).mp hc with hc | rfl
      · exact hcer c hc hpurpose
      · obtain ⟨row, hmem, -⟩ := hsession hpurpose
        rw [hnone, List.map_nil, List.map_eq_nil_iff] at hids
        rw [hids] at hmem
        cases hmem
    · refine .inr ⟨old, last, before, initial, hcreated, { hacc with ceremonies := ?_ }⟩
      intro c hc hpurpose
      rcases (Table.mem_insert? hrow).mp hc with hc | rfl
      · exact hacc.ceremonies c hc hpurpose
      · obtain ⟨row, hmem, hissued, hid⟩ := hsession hpurpose
        rw [hid, hacc.eq_last hmem hissued]
  · intro row hmem
    obtain ⟨c, hc, hrest⟩ := henrolled row hmem
    exact ⟨c, (Table.mem_insert? hrow).mpr (.inl hc), hrest⟩

/-- The first session, or the one that replaces an unused one. -/
lemma createAuthBootstrap {session : BootstrapSession} {u : Unit} (h : EnrollInv e)
    (hrun : Store.createAuthBootstrap session e.store = (.ok u, s')) :
    EnrollInv ⟨s', e.created ++ [session]⟩ := by
  obtain ⟨hinit, hissued, before, bootstraps, hcases, hins, rfl⟩ :=
    Store.createAuthBootstrap_ok hrun
  obtain ⟨hmost, -⟩ := postInit_bootstrap hinit
  obtain ⟨hids, hfew, haccounts, hlabels, henrolled⟩ := h
  have hrows := Table.rows_insert? hins
  rcases hcases with ⟨hempty, rfl⟩ | ⟨hreplace, rfl⟩
  · -- There was no session, hence nothing was ever registered.
    rw [hempty, List.map_nil, eq_comm, List.map_eq_nil_iff] at hids
    rw [hempty, List.nil_append] at hrows
    rcases haccounts with ⟨-, hcred, hcer⟩ | ⟨old, last, earlier, initial, hcreated, -⟩
    · refine ⟨?_, ?_, .inr ⟨[], session, [], session, ?_, ?_⟩, hlabels, henrolled⟩
      · change bootstraps.rows.map _ = _
        rw [hrows, hids]
        rfl
      · change (e.created ++ [session]).length ≤ 2
        rw [hids]
        exact Nat.le_succ 1
      · rw [hids]
      · refine ⟨hrows, ?_, rfl, ?_, hmost, ?_⟩
        · intro o ho
          cases ho
        · change e.store.credentials.rows.length + _ = _
          rw [hcred, List.length_nil, Nat.zero_add]
        · intro c hc hpurpose
          exact absurd hpurpose (hcer c hc)
    · rw [hids] at hcreated
      simp at hcreated
  · -- The one session there is was never used; it is expired now.
    unfold Store.bootstrapReplaceable at hreplace
    simp only [Bool.and_eq_true, decide_eq_true_eq, List.isEmpty_iff, List.all_eq_true] at hreplace
    obtain ⟨⟨⟨hone, hcred⟩, hcer⟩, hunused⟩ := hreplace
    obtain ⟨first, hfirst⟩ := List.length_eq_one_iff.mp hone
    have hcreated : ∃ c, e.created = [c] := by
      apply List.length_eq_one_iff.mp
      have hlen := congrArg List.length hids
      rw [List.length_map, List.length_map, hone] at hlen
      exact hlen.symm
    obtain ⟨created, hcreated⟩ := hcreated
    have hexpired : (Store.invalidatedBootstraps e.store).rows = [assignInvalid first] := by
      have hstate : first.state = .issued ∨ first.state = .expired := by
        have hne := hunused first (by rw [hfirst]; exact List.mem_singleton.mpr rfl)
        revert hne
        cases first.state
        · exact fun _ => .inl rfl
        · exact fun hne => absurd hne (by decide)
        · exact fun _ => .inr rfl
      unfold Store.invalidatedBootstraps
      rw [Table.rows_updateWhere, hfirst]
      simp [hstate]
    rw [hexpired] at hrows
    refine ⟨?_, ?_, .inr ⟨[assignInvalid first], session, [created], session, ?_, ?_⟩, hlabels,
      henrolled⟩
    · change bootstraps.rows.map _ = _
      rw [hrows, List.map_append, List.map_append, ← hids, hfirst]
      rfl
    · change (e.created ++ [session]).length ≤ 2
      rw [hcreated]
      exact le_refl 2
    · change e.created ++ [session] = _
      rw [hcreated]
    · refine ⟨hrows, ?_, rfl, ?_, hmost, ?_⟩
      · intro o ho
        rw [List.mem_singleton] at ho
        subst ho
        rfl
      · change e.store.credentials.rows.length + _ = _
        rw [hcred, List.length_nil, Nat.zero_add]
      · intro c hc
        change c ∈ e.store.ceremonies.rows at hc
        rw [hcer] at hc
        cases hc

/-- The counter of the session moves down by the credential that is registered. -/
lemma completeRegistration {tokenDigest ceremonyId consumedAt : String}
    {credential result : RegisteredCredential} (h : EnrollInv e)
    (hrun : Store.completeRegistration tokenDigest ceremonyId credential consumedAt e.store =
      (.ok result, s')) : EnrollInv ⟨s', e.created⟩ := by
  obtain ⟨-, ceremony, bootstrap, s₁, s₂, hceremony, hpurpose, hissued, hbootstrap, hsession,
    hactive, hremaining, hins, rfl, rfl⟩ := Store.completeRegistration_ok hrun
  obtain ⟨credentials, hfresh, hrow, rfl⟩ := insertCredential_ok.mp hins
  obtain ⟨hstored, -⟩ := readCeremony_ok.mp hceremony
  obtain ⟨hfound, -⟩ := bootstrapByToken_ok.mp hbootstrap
  have hmember := List.mem_of_find?_eq_some hfound
  obtain ⟨hids, hfew, haccounts, hlabels, henrolled⟩ := h
  rcases haccounts with ⟨hnone, -⟩ | ⟨old, last, before, initial, hcreated, hacc⟩
  · rw [hnone, List.map_nil, List.map_eq_nil_iff] at hids
    rw [hids] at hmember
    cases hmember
  obtain rfl := hacc.eq_last hmember hactive
  have hrows := hacc.rows_counted hactive
  have hcount : credentials.rows.length = e.store.credentials.rows.length + 1 := by
    rw [Table.rows_insert? hrow, List.length_append, List.length_singleton]
  have htotal := hacc.total
  refine ⟨?_, hfew, .inr ⟨old, _, before, initial, hcreated, hrows, hacc.expired, hacc.same, ?_,
    hacc.bound, ?_⟩, ?_, ?_⟩
  · change (countedBootstraps e.store bootstrap).rows.map _ = _
    rw [hrows, ← hids, hacc.rows, List.map_append, List.map_append]
    rfl
  · change credentials.rows.length + (bootstrap.remainingRegistrations - 1) = _
    omega
  · intro c hc hregistration
    change c ∈ (consumedCeremonies e.store _ _ _).rows at hc
    obtain ⟨r, hr, rfl⟩ := Table.mem_updateWhere.mp hc
    split_ifs at hregistration ⊢
    · exact hacc.ceremonies r hr hregistration
    · exact hacc.ceremonies r hr hregistration
  · intro row hr row' hr' hnone hnone' heq
    rcases (Table.mem_insert? hrow).mp hr with hr | rfl
    · rcases (Table.mem_insert? hrow).mp hr' with hr' | rfl
      · exact hlabels row hr row' hr' hnone hnone' heq
      · exact absurd heq ((hfresh row hr).2 hnone' hnone)
    · rcases (Table.mem_insert? hrow).mp hr' with hr' | rfl
      · exact absurd heq.symm ((hfresh row' hr').2 hnone hnone')
      · rfl
  · intro row hr
    rcases (Table.mem_insert? hrow).mp hr with hr | rfl
    · obtain ⟨c, hc, hreg, hconsumed, hprint⟩ := henrolled row hr
      have hkept := (Store.Extends.consumeCeremony (s := e.store) ceremony.ceremonyId consumedAt
        credential.fingerprint).ceremonies c.ceremonyId c (Table.find?_of_mem hc) hconsumed
      exact ⟨c, Table.mem_of_find? hkept, hreg, hconsumed, hprint⟩
    · -- The new credential consumed the ceremony that was found issued.
      refine ⟨assignConsumed consumedAt credential.fingerprint ceremony, ?_, hpurpose, rfl, rfl⟩
      change _ ∈ (consumedCeremonies e.store ceremony.ceremonyId consumedAt
        credential.fingerprint).rows
      unfold consumedCeremonies
      refine Table.mem_updateWhere.mpr ⟨ceremony, Table.mem_of_find? hstored, ?_⟩
      rw [if_pos (by simp [hissued])]

/-- An approval moves a counter and consumes an approval ceremony. -/
lemma claimWithApproval {ceremony : PendingCeremony} {credential : RegisteredCredential}
    {verified : VerifiedAssertion} {approval : ApprovalRecord} {claimEvent : TransitionEvent}
    {record : JobRecord} (h : EnrollInv e)
    (hrun : Store.claimWithApproval ceremony credential verified approval claimEvent e.store =
      (.ok record, s')) : EnrollInv ⟨s', e.created⟩ := by
  obtain ⟨hcontract, -, -, -, s₁, s₂, s₃, rfl, rfl, hins, happend⟩ := Store.claimWithApproval_ok hrun
  obtain ⟨approvals, -, -, rfl⟩ := (insertApproval_ok hcontract.userVerified).mp hins
  obtain ⟨current, -, -, -, -, rfl⟩ := compareAndAppend_ok.mp happend
  have hconsumed := h.of_consumeCeremony ceremony.ceremonyId approval.verifiedAt credential.fingerprint
  obtain ⟨hids, hfew, haccounts, hlabels, henrolled⟩ := hconsumed
  have hkept : ∀ row ∈ (advancedCredentials e.store credential verified).rows,
      ∃ old ∈ e.store.credentials.rows, row.credentialFingerprint = old.credentialFingerprint := by
    unfold advancedCredentials
    intro row hr
    obtain ⟨old, hold, rfl⟩ := Table.mem_updateWhere.mp hr
    refine ⟨old, hold, ?_⟩
    split_ifs
    · rfl
    · rfl
  refine ⟨hids, hfew, ?_, ?_, ?_⟩
  · rcases haccounts with ⟨hnone, hcred, hcer⟩ | ⟨old, last, before, initial, hcreated, hacc⟩
    · refine .inl ⟨hnone, ?_, hcer⟩
      apply List.eq_nil_of_length_eq_zero
      change (advancedCredentials e.store credential verified).rows.length = 0
      unfold advancedCredentials
      rw [Table.length_updateWhere]
      exact List.length_eq_zero_iff.mpr hcred
    · refine .inr ⟨old, last, before, initial, hcreated, { hacc with total := ?_ }⟩
      change (advancedCredentials e.store credential verified).rows.length + _ = _
      unfold advancedCredentials
      rw [Table.length_updateWhere]
      exact hacc.total
  · change ∀ row ∈ (advancedCredentials e.store credential verified).rows,
      ∀ row' ∈ (advancedCredentials e.store credential verified).rows, _
    unfold advancedCredentials
    intro row hr row' hr' hnone hnone' heq
    obtain ⟨old, hold, rfl⟩ := Table.mem_updateWhere.mp hr
    obtain ⟨old', hold', rfl⟩ := Table.mem_updateWhere.mp hr'
    have hcolumns : ∀ (x : CredentialRow) (p : Bool),
        (if p then assignSignCount verified x else x).credential.revokedAt =
            x.credential.revokedAt ∧
          (if p then assignSignCount verified x else x).credential.label = x.credential.label := by
      intro x p
      cases p
      · exact ⟨rfl, rfl⟩
      · exact ⟨rfl, rfl⟩
    rw [(hcolumns _ _).1] at hnone hnone'
    rw [(hcolumns _ _).2, (hcolumns _ _).2] at heq
    rw [hlabels old hold old' hold' hnone hnone' heq]
  · intro row hr
    obtain ⟨old, hold, hprint⟩ := hkept row hr
    rw [hprint]
    exact henrolled old hold

/-- **Every call keeps the enrollment invariant.** -/
theorem step (w : StoreWrite) (e e' : Enrollment) (h : EnrollInv e)
    (hstep : enrollStep w e = some e') : EnrollInv e' := by
  obtain rfl := Option.some.inj hstep
  rcases hrun : w.run e.store with ⟨exn | r, s'⟩
  · -- A call that raises leaves the store, and creates nothing.
    have hsame : w.after e.store = e.store := by
      have hs' := w.atomic e.store exn s' hrun
      unfold StoreWrite.after
      rw [hrun]
      exact hs'
    have hnone : w.creates e.store = [] := by
      unfold StoreWrite.creates
      split
      · rename_i session
        change Store.createAuthBootstrap session e.store = _ at hrun
        rw [hrun]
        rfl
      · rfl
    rw [hsame, hnone, List.append_nil]
    exact h
  · have hafter := StoreWrite.after_of_ok hrun
    by_cases hauth : w.isAuth = true
    · cases w with
      | createAuthBootstrap session =>
          have hcreates : (StoreWrite.createAuthBootstrap session).creates e.store = [session] := by
            change Store.createAuthBootstrap session e.store = _ at hrun
            change (if (Store.createAuthBootstrap session e.store).1.isOk then _ else _) = _
            rw [hrun]
            rfl
          rw [hafter, hcreates]
          exact h.createAuthBootstrap hrun
      | issueRegistrationCeremony tokenDigest ceremony =>
          obtain ⟨⟨bootstrap, hbootstrap, hid, hissued⟩, hins⟩ :=
            Store.issueRegistrationCeremony_ok hrun
          obtain ⟨hfound, -⟩ := bootstrapByToken_ok.mp hbootstrap
          change EnrollInv ⟨_, e.created ++ []⟩
          rw [hafter, List.append_nil]
          refine h.of_insertCeremony ?_ hins
          intro _
          exact ⟨bootstrap, List.mem_of_find?_eq_some hfound, hissued, hid.symm⟩
      | completeRegistration tokenDigest ceremonyId credential consumedAt =>
          change EnrollInv ⟨_, e.created ++ []⟩
          rw [hafter, List.append_nil]
          exact h.completeRegistration hrun
      | issueApprovalCeremony ceremony =>
          obtain ⟨-, hpurpose, -, -, hins⟩ := Store.issueApprovalCeremony_ok hrun
          change EnrollInv ⟨_, e.created ++ []⟩
          rw [hafter, List.append_nil]
          refine (h.of_expireCeremonies ceremony.issuedAt).of_insertCeremony ?_ hins
          intro hregistration
          rw [hpurpose] at hregistration
          cases hregistration
      | claimWithApproval ceremony credential verified approval claimEvent =>
          change EnrollInv ⟨_, e.created ++ []⟩
          rw [hafter, List.append_nil]
          exact h.claimWithApproval hrun
      | _ => cases hauth
    · have hnone : w.creates e.store = [] := by
        unfold StoreWrite.creates
        split
        · exact absurd rfl hauth
        · rfl
      rw [hafter, hnone, List.append_nil]
      exact h.of_authTables (authTables_run w r (by simpa using hauth) hrun)

theorem of_reaches (h : Reaches enrollStep AnyStep Enrollment.initial e) : EnrollInv e :=
  h.invariant initial fun a b w ha _ hw => step w a b ha hw

end EnrollInv

end AgentRuntimeOps.RootActions
