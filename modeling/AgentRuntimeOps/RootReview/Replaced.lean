import AgentRuntimeOps.Lib.Checks
import AgentRuntimeOps.Lib.Concurrent
import AgentRuntimeOps.RootReview.Store

/-!
# How often a card is replaced

A call compares what it has read with what is there, and then replaces the request file: between the
two another call may have replaced it.  `card_replaced_once` says what holds in every run without
such a replacement in between, and `card_replaced_twice` what another run does.
-/

namespace AgentRuntimeOps.RootReview

open AgentRuntimeOps.Lib Program

-- a goal about a program is not to be unfolded into the texts that it compares
attribute [local irreducible] safeSingleLine safeCommand requestBytes digest isNoPending
  validateHandle canonicalNoPending

/-! ## The calls as processes -/

/-- A call with its arguments. -/
inductive Call where
  | publish (purpose command : Text) (previous : Option (Option Handle))
  | wait (handle : Option Handle) (timeoutSeconds pollIntervalSeconds : Option ℚ) (rounds : Nat)
  | resolve (handle : Option Handle)

namespace Call

/-- The program of a call. -/
def program : Call → Run Result
  | publish purpose command previous => RootReview.publish purpose command previous
  | wait handle timeoutSeconds pollIntervalSeconds rounds =>
      RootReview.wait handle timeoutSeconds pollIntervalSeconds rounds
  | resolve handle => RootReview.resolve handle

/-- The handle of the card that a call replaces. -/
def replaces : Call → Option Handle
  | publish _ _ previous => previous.join
  | wait .. => none
  | resolve handle => handle

end Call

/-- When a replacement may take place. -/
abbrev ReplaceRule : Type := World → Replacement → Prop

/-- The calls of the processes, any of which may be cut off, while the transcript grows; the
replacements take place as the rule allows. -/
def calls (call : Nat → Call) (rule : ReplaceRule) :
    Processes Op Op.Res Raised Result World Nat where
  resp k w op r w' := Outcome k w op r w' ∧
    ∀ replacement, op = .replace replacement → rule w replacement
  surroundings w w' := ∃ count, w' = w.append count
  started k p := p = (call k).program
  cutOff _ w := w

/-- The digest of a card differs from that of every other text, and a handle with the digest of a
card does not have a smaller offset than the handle of that card. -/
structure Genuine (w : World) (replacement : Replacement) : Prop where
  fresh : ∀ stored ∈ w.seen, (replacement.offset.isSome ∨ stored.offset.isSome) →
    digest stored.text ≠ digest replacement.text
  issued : ∀ handle ∈ replacement.handle, ∀ offset ∈ w.request.offset,
    handle.requestSha256 = digest w.request.text → offset ≤ handle.transcriptOffset

/-- Besides, the request file is as the last check has read it. -/
structure Unraced (w : World) (replacement : Replacement) : Prop where
  genuine : Genuine w replacement
  current : replacement.checked = (w.request.text, w.identity)

/-- A call that is no `wait` has succeeded against the card with this digest. -/
def Acted (call : Nat → Call) (c : Config Op Op.Res Raised Result World Nat) (k : Nat)
    (sha256 : List Char) : Prop :=
  (∃ result, c.returned k = some result) ∧
    ∃ handle, (call k).replaces = some handle ∧ handle.requestSha256 = sha256

/-- A card is replaced at most once, by one call that succeeds, and when the transcript had grown
beyond the offset in its handle. -/
structure ReplacedOnce (call : Nat → Call) (c : Config Op Op.Res Raised Result World Nat) :
    Prop where
  acted : ∀ stored ∈ c.world.seen, stored.offset.isSome → ∀ j k,
    Acted call c j (digest stored.text) → Acted call c k (digest stored.text) → j = k
  replaced : ∀ event ∈ c.world.log, ∀ event' ∈ c.world.log, event.old.offset.isSome →
    digest event.old.text = digest event'.old.text → event = event'
  grown : ∀ event ∈ c.world.log, ∀ offset ∈ event.old.offset, offset < event.transcriptSize

/-! ## What holds of the request file -/

/-- If one of the texts is a card, they have different digests. -/
def Apart (stored stored' : Stored) : Prop :=
  (stored.offset.isSome ∨ stored'.offset.isSome) → digest stored.text ≠ digest stored'.text

instance : Std.Symm Apart := ⟨fun _ _ h hor => (h hor.symm).symm⟩

/-- The cards have other digests than all other texts, they are pending, and they were replaced when
the transcript had grown. -/
structure Orderly (w : World) : Prop where
  distinct : w.seen.Pairwise Apart
  pending : ∀ stored ∈ w.seen, stored.offset.isSome → isNoPending stored.text = false
  grown : ∀ event ∈ w.log, ∀ offset ∈ event.old.offset, offset < event.transcriptSize

/-- A text with the digest of a card is that card. -/
lemma Orderly.unique {w : World} (h : Orderly w) {stored stored' : Stored} (hs : stored ∈ w.seen)
    (hs' : stored' ∈ w.seen) (hcard : stored.offset.isSome)
    (hdigest : digest stored.text = digest stored'.text) : stored = stored' := by
  by_contra hne
  exact h.distinct.forall hs hs' hne (.inl hcard) hdigest

/-- What a process knows: what it has read, how long the transcript was, and what it has
replaced. -/
structure Ghost where
  process : Nat
  texts : List (List UInt8)
  size : Option Nat
  replaced : Option Replacement

/-- What a process knows after an operation. -/
def Ghost.after (g : Ghost) : (op : Op) → Except Raised op.Res → Ghost
  | .readRequest, .ok request => { g with texts := request.1 :: g.texts }
  | .statTranscript, .ok transcript => { g with size := some transcript.size }
  | .replace replacement, .ok _ => { g with replaced := some replacement }
  | _, _ => g

/-- When a process may replace the request file: what it has checked is the card of its handle, and
the transcript has grown, or it is a text without a card. -/
def Ghost.MayReplace (g : Ghost) (replacement : Replacement) : Prop :=
  (replacement.offset.isSome → isNoPending replacement.text = false) ∧
    match replacement.handle with
    | some handle => handle.requestSha256 = digest replacement.checked.1 ∧
        ∃ size ∈ g.size, handle.transcriptOffset < size
    | none => ∃ text ∈ g.texts, isNoPending text = true ∧
        digest text = digest replacement.checked.1

/-- What a call has replaced that returns. -/
def Call.Done (call : Call) (g : Ghost) : Prop :=
  ∀ handle ∈ call.replaces, ∃ replacement ∈ g.replaced, replacement.handle = some handle ∧
    handle.requestSha256 = digest replacement.checked.1

/-- The answers as a process remembers them, where it may replace what it replaces. -/
abbrev knownRules : Rules Op Op.Res Raised Ghost where
  pre g op := ∀ replacement, op = .replace replacement → g.MayReplace replacement
  resp g op r g' := g' = g.after op r

/-- What a process knows is so. -/
structure Ghost.Knows (k : Nat) (g : Ghost) (w : World) : Prop where
  process : g.process = k
  texts : ∀ text ∈ g.texts, ∃ stored ∈ w.seen, stored.text = text
  size : ∀ size ∈ g.size, size ≤ w.transcript.size
  replaced : ∀ replacement ∈ g.replaced, ∃ event ∈ w.log, event.process = k ∧
    event.old.text = replacement.checked.1

/-- What is so stays so. -/
lemma Ghost.Knows.mono {k : Nat} {g : Ghost} {w w' : World} (h : g.Knows k w)
    (hseen : w.seen ⊆ w'.seen) (hlog : w.log ⊆ w'.log)
    (hsize : w.transcript.size ≤ w'.transcript.size) : g.Knows k w' where
  process := h.process
  texts text htext := by
    obtain ⟨stored, hstored, heq⟩ := h.texts text htext
    exact ⟨stored, hseen hstored, heq⟩
  size size hmem := (h.size size hmem).trans hsize
  replaced replacement hmem := by
    obtain ⟨event, hevent, hrest⟩ := h.replaced replacement hmem
    exact ⟨event, hlog hevent, hrest⟩

/-- The proof about the calls: what a process knows of the files. -/
def reviewProof (call : Nat → Call) : GhostProof Op Op.Res Raised Result World Nat Ghost where
  inv := Orderly
  knows := Ghost.Knows
  rules := knownRules
  post g _ := (call g.process).Done g

/-! ## What the calls know -/

section programs

variable {α : Type} {g : Ghost}

/-- An operation that does not replace the request file. -/
lemma safe_run_bind {op : Op} {f : op.Res → Run α} {Q : Ghost → α → Prop}
    (hop : ∀ replacement, op ≠ .replace replacement)
    (hok : ∀ a, Safe knownRules Q (fun _ _ => True) (g.after op (.ok a)) (f a)) :
    Safe knownRules Q (fun _ _ => True) g (op.run >>= f) := by
  refine safe_bind.mpr (safe_perform.mpr ⟨fun replacement h => absurd h (hop replacement), ?_, ?_⟩)
  · rintro a g' rfl
    exact hok a
  · exact fun _ _ _ => trivial

/-- A pure step. -/
lemma safe_ofExcept_bind {β : Type} {x : Except Raised β} {f : β → Run α} {Q : Ghost → α → Prop}
    (hok : ∀ b, x = .ok b → Safe knownRules Q (fun _ _ => True) g (f b)) :
    Safe knownRules Q (fun _ _ => True) g (Program.ofExcept x >>= f) :=
  safe_bind.mpr (safe_ofExcept.mpr ⟨hok, fun _ _ => trivial⟩)

/-- What a replacement that returns has replaced. -/
lemma safe_replaceRequest {text : List UInt8} {identity : FileIdentity} {sha256 : List Char}
    {offset : Option Nat} {handle : Option Handle}
    (hpending : offset.isSome → isNoPending text = false)
    (hcheck : match handle with
      | some handle => handle.requestSha256 = sha256 ∧
          ∃ size ∈ g.size, handle.transcriptOffset < size
      | none => ∃ text ∈ g.texts, isNoPending text = true ∧ digest text = sha256) :
    Safe knownRules
      (fun g' _ => g'.process = g.process ∧ ∃ replacement ∈ g'.replaced,
        replacement.handle = handle ∧ digest replacement.checked.1 = sha256)
      (fun _ _ => True) g (replaceRequest text identity sha256 offset handle) := by
  unfold replaceRequest
  refine safe_run_bind (fun _ => nofun) fun current => ?_
  split_ifs
  · exact trivial
  refine safe_tryCatch.mpr (Safe.mono (E := fun _ _ => True) ?_ (fun _ _ h => h) ?_)
  swap
  · intro g' e _
    cases e with
    | outside => exact trivial
    | rootReview => exact trivial
    | unicodeEncodeError => exact trivial
  unfold replaceChecked
  refine safe_run_bind (fun _ => nofun) fun _ => ?_
  refine safe_run_bind (fun _ => nofun) fun again => ?_
  by_cases hchanged : again.2 ≠ identity ∨ digest again.1 ≠ sha256
  · rw [if_pos hchanged]
    exact trivial
  rw [if_neg hchanged]
  have hdigest : digest again.1 = sha256 := not_not.mp fun hne => hchanged (.inr hne)
  refine safe_bind.mpr (safe_perform.mpr ⟨?_, ?_, fun _ _ _ => trivial⟩)
  · rintro replacement hreplacement
    cases hreplacement
    refine ⟨hpending, ?_⟩
    cases handle with
    | some handle =>
        obtain ⟨hsha, hsize⟩ := hcheck
        exact ⟨hsha.trans hdigest.symm, hsize⟩
    | none =>
        obtain ⟨text', hmem, hnone, hsha⟩ := hcheck
        exact ⟨text', List.mem_cons_of_mem _ (List.mem_cons_of_mem _ hmem), hnone,
          hsha.trans hdigest.symm⟩
  · rintro _ g' rfl
    refine safe_run_bind (fun _ => nofun) fun _ => ?_
    refine safe_run_bind (fun _ => nofun) fun published => ?_
    split_ifs
    · exact trivial
    · exact ⟨rfl, _, rfl, rfl, hdigest⟩

/-- A round of `wait` replaces nothing. -/
lemma safe_poll {handle : Option Handle} :
    Safe knownRules (fun g' _ => g'.process = g.process) (fun _ _ => True) g (poll handle) := by
  unfold poll
  refine safe_run_bind (fun _ => nofun) fun assignment => ?_
  refine safe_run_bind (fun _ => nofun) fun request => ?_
  refine safe_run_bind (fun _ => nofun) fun transcript => ?_
  refine safe_ofExcept_bind fun valid _ => ?_
  split_ifs
  · exact safe_run_bind (fun _ => nofun) fun _ => rfl
  · exact rfl

lemma safe_waitRounds {handle : Option Handle} {rounds : Nat} :
    Safe knownRules (fun g' _ => g'.process = g.process) (fun _ _ => True) g
      (waitRounds handle rounds) := by
  induction rounds generalizing g with
  | zero => exact safe_bind.mpr (safe_poll.mono (fun _ _ h => h) fun _ _ _ => trivial)
  | succ rounds ih =>
      refine safe_bind.mpr (safe_poll.mono (fun g₁ found h₁ => ?_) fun _ _ _ => trivial)
      obtain ⟨valid, result⟩ := found
      cases result with
      | some result => exact h₁
      | none =>
          refine safe_run_bind (fun _ => nofun) fun left => ?_
          cases left with
          | false => exact h₁
          | true =>
              refine safe_run_bind (fun _ => nofun) fun _ => ?_
              exact ih.mono (fun _ _ h => h.trans h₁) fun _ _ _ => trivial

/-- A handle that is valid names the text that was read. -/
lemma validateHandle_ok {handle : Option Handle} {valid : Handle} {assignment : Assignment}
    {request : List UInt8} {transcript : FileIdentity}
    (h : validateHandle handle assignment request transcript = .ok valid) :
    handle = some valid ∧ valid.requestSha256 = digest request := by
  unfold validateHandle at h
  split at h
  case h_1 => cases h
  case h_2 given =>
    split_ifs at h with hbad
    cases h
    refine ⟨rfl, ?_⟩
    by_contra hne
    exact hbad (.inr (.inr (.inr (.inl hne))))

/-- A card is pending. -/
lemma isNoPending_requestBytes {purpose command : Text} {random : Vector UInt8 16}
    {raw : List UInt8} (hpurpose : safeSingleLine purpose "purpose" 240 = .ok purpose)
    (hcommand : safeCommand command = .ok command)
    (hraw : requestBytes purpose command (tokenHex random) = .ok raw) :
    isNoPending raw = false := by
  obtain ⟨-, hlength, hfiltered⟩ := safeSingleLine_ok hpurpose
  obtain ⟨-, htaken⟩ := safeCommand_ok hcommand
  obtain ⟨raw', hraw', hdecode⟩ := @exists_requestBytes _ _ random hlength
    (fun c hc => isValidChar_of_isFiltered (hfiltered c hc)) htaken
  rw [hraw] at hraw'
  cases hraw'
  exact isNoPending_card (fun hmem => absurd (hfiltered 13 hmem) (by decide)) htaken.returns hdecode

/-- What `publish` has checked. -/
lemma checkPrevious_ok {previous : Option (Option Handle)} {handle : Option Handle}
    {assignment : Assignment} {request : List UInt8} {transcript : FileIdentity}
    (h : checkPrevious previous assignment request transcript = .ok handle) :
    handle = previous.join ∧ (∀ valid ∈ handle, valid.requestSha256 = digest request ∧
      valid.transcriptOffset < transcript.size) ∧
      (handle = none → isNoPending request = true) := by
  unfold checkPrevious at h
  cases previous with
  | none =>
      dsimp only at h
      split_ifs at h with hpending
      cases h
      exact ⟨rfl, nofun, fun _ => Bool.not_eq_false _ |>.mp hpending⟩
  | some given =>
      obtain ⟨valid, hvalid, hgrown⟩ := except_bind_ok.mp h
      split_ifs at hgrown with hsize
      cases hgrown
      obtain ⟨rfl, hdigest⟩ := validateHandle_ok hvalid
      refine ⟨rfl, ?_, nofun⟩
      rintro given ⟨⟩
      exact ⟨hdigest, not_le.mp hsize⟩

/-- A call that returns has replaced the card of its handle. -/
lemma safe_program (k : Nat) (call : Call) :
    Safe knownRules (fun g' _ => g'.process = k ∧ call.Done g') (fun _ _ => True)
      { process := k, texts := [], size := none, replaced := none } call.program := by
  cases call with
  | publish purpose command previous =>
      unfold Call.program RootReview.publish
      refine safe_ofExcept_bind fun purpose' hpurpose => ?_
      refine safe_ofExcept_bind fun command' hcommand => ?_
      obtain rfl := (safeSingleLine_ok hpurpose).1
      obtain rfl := (safeCommand_ok hcommand).1
      refine safe_run_bind (fun _ => nofun) fun assignment => ?_
      refine safe_run_bind (fun _ => nofun) fun request => ?_
      refine safe_run_bind (fun _ => nofun) fun transcript => ?_
      refine safe_ofExcept_bind fun handle hhandle => ?_
      obtain ⟨hprevious, hvalid, hnone⟩ := checkPrevious_ok hhandle
      refine safe_run_bind (fun _ => nofun) fun random => ?_
      refine safe_ofExcept_bind fun text htext => ?_
      refine safe_bind.mpr ((safe_replaceRequest ?_ ?_).mono ?_ fun _ _ _ => trivial)
      · exact fun _ => isNoPending_requestBytes hpurpose hcommand htext
      · cases handle with
        | some handle =>
            obtain ⟨hdigest, hsize⟩ := hvalid handle rfl
            exact ⟨hdigest, transcript.size, rfl, hsize⟩
        | none => exact ⟨request.1, List.mem_cons_self, hnone rfl, rfl⟩
      · rintro g' published ⟨hprocess, replacement, hreplaced, hsame, hdigest⟩
        refine ⟨hprocess, fun given hgiven => ⟨replacement, hreplaced, ?_, ?_⟩⟩
        · rw [hsame, hprevious]
          exact hgiven
        · have hgiven : handle = some given := hprevious.trans hgiven
          rw [(hvalid given hgiven).1, hdigest]
  | wait handle timeoutSeconds pollIntervalSeconds rounds =>
      have hrounds : Safe knownRules (fun g' _ => g'.process = k ∧
          (Call.wait handle timeoutSeconds pollIntervalSeconds rounds).Done g') (fun _ _ => True)
          { process := k, texts := [], size := none, replaced := none }
          (waitRounds handle rounds) :=
        safe_waitRounds.mono (fun _ _ h => ⟨h, nofun⟩) fun _ _ _ => trivial
      show Safe knownRules _ _ _ (RootReview.wait _ _ _ _)
      unfold RootReview.wait
      split
      · split_ifs
        · exact trivial
        · exact hrounds
      · exact trivial
  | resolve handle =>
      unfold Call.program RootReview.resolve
      refine safe_run_bind (fun _ => nofun) fun assignment => ?_
      refine safe_run_bind (fun _ => nofun) fun request => ?_
      refine safe_run_bind (fun _ => nofun) fun transcript => ?_
      refine safe_ofExcept_bind fun valid hvalid => ?_
      obtain ⟨hhandle, hdigest⟩ := validateHandle_ok hvalid
      by_cases hsize : transcript.size ≤ valid.transcriptOffset
      · rw [if_pos hsize]
        exact trivial
      rw [if_neg hsize]
      refine safe_run_bind (fun _ => nofun) fun appended => ?_
      refine safe_bind.mpr ((safe_replaceRequest ?_ ?_).mono ?_ fun _ _ _ => trivial)
      · exact fun h => absurd h Bool.false_ne_true
      · exact ⟨rfl, transcript.size, rfl, not_le.mp hsize⟩
      · rintro g' published ⟨hprocess, replacement, hreplaced, hsame, hchecked⟩
        refine ⟨hprocess, fun given hgiven => ⟨replacement, hreplaced, ?_, ?_⟩⟩
        · rw [hsame, ← hhandle]
          exact hgiven
        · have hgiven : handle = some given := hgiven
          rw [hhandle] at hgiven
          cases hgiven
          exact hchecked.symm

end programs

/-! ## What the operations keep -/

section operations

variable {call : Nat → Call} {k : Nat} {g : Ghost} {w w' : World}

/-- What a process learns from an operation that is no replacement. -/
lemma Outcome.keeps {op : Op} {r : Except Raised op.Res} (h : Outcome k w op r w')
    (hop : ∀ replacement, op ≠ .replace replacement) (hg : g.Knows k w) :
    w' = w ∧ (g.after op r).Knows k w := by
  cases op with
  | readRequest =>
      obtain ⟨rfl, hr⟩ := h
      refine ⟨rfl, ?_⟩
      obtain rfl | ⟨e, rfl⟩ := hr
      · refine ⟨hg.process, fun text htext => ?_, hg.size, hg.replaced⟩
        obtain rfl | htext := List.mem_cons.mp htext
        · exact ⟨w'.request, List.mem_cons_self, rfl⟩
        · exact hg.texts text htext
      · exact hg
  | statTranscript =>
      obtain ⟨rfl, hr⟩ := h
      refine ⟨rfl, ?_⟩
      obtain rfl | ⟨e, rfl⟩ := hr
      · refine ⟨hg.process, hg.texts, fun size hsize => ?_, hg.replaced⟩
        cases hsize
        exact le_rfl
      · exact hg
  | replace replacement => exact absurd rfl (hop replacement)
  | discover => exact ⟨h.1, by cases r <;> exact hg⟩
  | readAppend => exact ⟨h.1, by cases r <;> exact hg⟩
  | remaining => exact ⟨h, by cases r <;> exact hg⟩
  | sleep => exact ⟨h, by cases r <;> exact hg⟩
  | tokenHex => exact ⟨h, by cases r <;> exact hg⟩
  | writeTemporary => exact ⟨h, by cases r <;> exact hg⟩
  | syncDirectory => exact ⟨h, by cases r <;> exact hg⟩

/-- What has been replaced was a card whose transcript has grown. -/
lemma Orderly.grown_replaced {replacement : Replacement} (h : Orderly w) (hg : g.Knows k w)
    (hpre : g.MayReplace replacement) (hrule : Unraced w replacement) :
    ∀ offset ∈ w.request.offset, offset < w.transcript.size := by
  intro offset hoffset
  have hcard : w.request.offset.isSome := Option.isSome_of_mem hoffset
  have hchecked : replacement.checked.1 = w.request.text := by rw [hrule.current]
  obtain ⟨-, hpre⟩ := hpre
  rw [hchecked] at hpre
  cases hhandle : replacement.handle with
  | some handle =>
      rw [hhandle] at hpre
      obtain ⟨hdigest, size, hsize, hlt⟩ := hpre
      have hle := hrule.genuine.issued handle hhandle offset hoffset hdigest
      exact hle.trans_lt (hlt.trans_le (hg.size size hsize))
  | none =>
      -- a text without a card is no card, so it does not have the digest of one
      rw [hhandle] at hpre
      obtain ⟨text, htext, hnone, hdigest⟩ := hpre
      obtain ⟨stored, hstored, rfl⟩ := hg.texts text htext
      have hsame := h.unique List.mem_cons_self hstored hcard hdigest.symm
      rw [← hsame, h.pending w.request List.mem_cons_self hcard] at hnone
      exact absurd hnone Bool.false_ne_true

/-- A replacement keeps the order. -/
lemma Orderly.replaced {replacement : Replacement} {inode : Nat} (h : Orderly w)
    (hg : g.Knows k w) (hpre : g.MayReplace replacement) (hrule : Unraced w replacement) :
    Orderly (w.replaced k replacement inode) where
  distinct := List.pairwise_cons.mpr ⟨fun stored hstored hcard =>
    (hrule.genuine.fresh stored hstored hcard).symm, h.distinct⟩
  pending stored hstored hcard := by
    obtain rfl | hstored := List.mem_cons.mp hstored
    · exact hpre.1 hcard
    · exact h.pending stored hstored hcard
  grown event hevent := by
    obtain rfl | hevent := List.mem_cons.mp hevent
    · exact h.grown_replaced hg hpre hrule
    · exact h.grown event hevent

/-- Every step of a call keeps the order, where the request file is as it was checked. -/
lemma respects_calls : Respects (calls call Unraced) (reviewProof call) where
  surroundings := by
    rintro w w' hw ⟨count, rfl⟩
    have hknows : ∀ k g, Ghost.Knows k g w → Ghost.Knows k g (w.append count) := fun k g hg =>
      hg.mono (List.Subset.refl _) (List.Subset.refl _) (Nat.le_add_right _ _)
    exact ⟨⟨hw.distinct, hw.pending, hw.grown⟩, hknows⟩
  start := by
    rintro k p w - rfl
    refine ⟨⟨k, [], none, none⟩, ⟨rfl, nofun, nofun, nofun⟩, ?_⟩
    refine (safe_program k (call k)).mono ?_ fun _ _ _ => trivial
    rintro g' result ⟨rfl, hdone⟩
    exact hdone
  operation := by
    rintro k g w w' op r hw hg hpre ⟨houtcome, hrule⟩
    by_cases hop : ∃ replacement, op = .replace replacement
    · obtain ⟨replacement, rfl⟩ := hop
      have hpre : g.MayReplace replacement := hpre replacement rfl
      have hrule : Unraced w replacement := hrule replacement rfl
      obtain ⟨rfl, inode, -, rfl⟩ | ⟨⟨e, rfl⟩, rfl⟩ := houtcome
      · have hgrows : ∀ j g, Ghost.Knows j g w →
            Ghost.Knows j g (w.replaced k replacement inode) := fun j g hg =>
          hg.mono (List.subset_cons_self _ _) (List.subset_cons_self _ _) le_rfl
        refine ⟨hw.replaced hg hpre hrule, ⟨_, rfl, ?_⟩, fun j g _ hj => hgrows j g hj⟩
        obtain ⟨hprocess, htexts, hsize, -⟩ := hgrows k g hg
        refine ⟨hprocess, htexts, hsize, ?_⟩
        rintro _ ⟨⟩
        refine ⟨_, List.mem_cons_self, rfl, ?_⟩
        rw [hrule.current]
      · exact ⟨hw, ⟨_, rfl, hg⟩, fun _ _ _ hj => hj⟩
    · obtain ⟨rfl, hlearns⟩ := houtcome.keeps (fun replacement h => hop ⟨replacement, h⟩) hg
      exact ⟨hw, ⟨_, rfl, hlearns⟩, fun _ _ _ hj => hj⟩
  crash hw := ⟨hw, fun _ _ _ hj => hj⟩

end operations

/-! ## Runs -/

/-- The replacements in an orderly world are of different cards. -/
lemma Orderly.unique_event {w : World} (h : Orderly w) {event event' : Event}
    (hevent : event ∈ w.log) (hevent' : event' ∈ w.log) (hcard : event.old.offset.isSome)
    (hdigest : digest event.old.text = digest event'.old.text) : event = event' := by
  have hdistinct : w.log.Pairwise fun event event' => Apart event.old event'.old :=
    List.pairwise_map.mp (List.pairwise_cons.mp h.distinct).2
  have : Std.Symm fun event event' : Event => Apart event.old event'.old :=
    ⟨fun _ _ h => Std.Symm.symm _ _ h⟩
  by_contra hne
  exact hdistinct.forall hevent hevent' hne (.inl hcard) hdigest

/-- Where no request file is replaced that another call has put there since the last check, every
card is replaced at most once, and when the transcript has grown. -/
theorem card_replaced_once {call : Nat → Call} {w₀ : World} (hlog : w₀.log = [])
    (hcard : w₀.request.offset.isSome → isNoPending w₀.request.text = false)
    {c : Config Op Op.Res Raised Result World Nat}
    (hrun : Relation.ReflTransGen (calls call Unraced).Step ⟨w₀, fun _ => none⟩ c) :
    ReplacedOnce call c := by
  have hseen : w₀.seen = [w₀.request] := by
    unfold World.seen
    rw [hlog]
    rfl
  have hstart : Guarded (reviewProof call) ⟨w₀, fun _ => none⟩ := by
    refine ⟨⟨?_, ?_, ?_⟩, nofun⟩
    · show w₀.seen.Pairwise Apart
      rw [hseen]
      exact List.pairwise_singleton _ _
    · show ∀ stored ∈ w₀.seen, _
      rw [hseen]
      intro stored hstored
      obtain rfl := List.mem_singleton.mp hstored
      exact hcard
    · show ∀ event ∈ w₀.log, _
      rw [hlog]
      exact nofun
  obtain ⟨horder, hprocs⟩ := respects_calls.guarded hstart hrun
  refine ⟨fun stored hstored hsome => ?_, fun event hevent event' hevent' hsome =>
    horder.unique_event hevent hevent' hsome, horder.grown⟩
  -- a call that has acted on the card has replaced it
  have hacted : ∀ k, Acted call c k (digest stored.text) →
      ∃ event ∈ c.world.log, event.process = k ∧ event.old = stored := by
    rintro k ⟨⟨result, hresult⟩, handle, hhandle, hsha⟩
    obtain ⟨g, hg, hdone⟩ := hprocs k _ (Config.returned_eq_some_iff.mp hresult)
    have hdone : (call g.process).Done g := hdone
    rw [hg.process] at hdone
    obtain ⟨replacement, hreplaced, -, hdigest⟩ := hdone handle hhandle
    obtain ⟨event, hevent, hprocess, htext⟩ := hg.replaced replacement hreplaced
    refine ⟨event, hevent, hprocess, (horder.unique hstored ?_ hsome ?_).symm⟩
    · exact List.mem_cons_of_mem _ (List.mem_map_of_mem hevent)
    · rw [htext, ← hdigest, hsha]
  intro j k hj hk
  obtain ⟨first, hfirst, rfl, rfl⟩ := hacted j hj
  obtain ⟨second, hsecond, rfl, hold⟩ := hacted k hk
  rw [horder.unique_event hfirst hsecond hsome (by rw [hold])]

/-! ## Two calls on one card -/

section samples

/-- The card that is there. -/
def firstCard : List UInt8 :=
  ((requestBytes (Text.of "check") (Text.of "id") (tokenHex (.replicate 16 0))).toOption).getD []

/-- The transcript when the card was published. -/
def atCard : FileIdentity := { device := 0, inode := 0, size := 0 }

/-- A card to which the root side has answered. -/
def answeredCard : World where
  assignment := { agentSession := "agent", agentPane := "%1", agentPanePid := 1 }
  device := 0
  request := { inode := 0, text := firstCard, offset := some 0 }
  transcript := { atCard with size := 1 }
  log := []

/-- The handle of the card. -/
def firstHandle : Handle := Handle.of answeredCard.assignment firstCard atCard

/-- One process resolves the card, and the others publish the next one. -/
def sameCard : Nat → Call
  | 0 => .resolve (some firstHandle)
  | _ => .publish (Text.of "next") (Text.of "id") (some (some firstHandle))

/-- What has been appended to the transcript. -/
def answerAppend (offset : Nat) (expected : FileIdentity) (w : World) :
    Except Raised (List UInt8) :=
  if w.transcript = expected ∧ offset < expected.size then
    .ok (List.replicate (expected.size - offset) 0)
  else .error .outside

/-- Answers without a fault. -/
def answer (k : Nat) : (op : Op) → World → Except Raised op.Res × World
  | .discover, w => (.ok w.assignment, w)
  | .readRequest, w => (.ok (w.request.text, w.identity), w)
  | .statTranscript, w => (.ok w.transcript, w)
  | .readAppend offset expected, w => (answerAppend offset expected w, w)
  | .remaining, w => (.ok false, w)
  | .sleep, w => (.ok (), w)
  | .tokenHex, w => (.ok (.replicate 16 1), w)
  | .writeTemporary _, w => (.ok (), w)
  | .replace replacement, w => (.ok (), w.replaced k replacement (w.request.inode + 1))
  | .syncDirectory, w => (.ok (), w)

lemma answerAppend_outcome (offset : Nat) (expected : FileIdentity) (w : World) :
    (∃ appended, answerAppend offset expected w = .ok appended ∧ w.transcript = expected ∧
      appended ≠ [] ∧ appended.length + offset = expected.size) ∨
      ∃ e, answerAppend offset expected w = .error e := by
  unfold answerAppend
  by_cases hgrown : w.transcript = expected ∧ offset < expected.size
  · rw [if_pos hgrown]
    obtain ⟨hsame, hlt⟩ := hgrown
    have hpos : expected.size - offset ≠ 0 := by omega
    refine .inl ⟨_, rfl, hsame, ?_, ?_⟩
    · simpa using hpos
    · rw [List.length_replicate]
      omega
  · rw [if_neg hgrown]
    exact .inr ⟨_, rfl⟩

lemma answer_outcome (k : Nat) (op : Op) (w : World) :
    Outcome k w op (answer k op w).1 (answer k op w).2 := by
  cases op with
  | discover => exact ⟨rfl, .inl rfl⟩
  | readRequest => exact ⟨rfl, .inl rfl⟩
  | statTranscript => exact ⟨rfl, .inl rfl⟩
  | readAppend offset expected => exact ⟨rfl, answerAppend_outcome offset expected w⟩
  | replace replacement => exact .inl ⟨rfl, w.request.inode + 1, Nat.succ_ne_self _, rfl⟩
  | remaining => exact rfl
  | sleep => exact rfl
  | tokenHex => exact rfl
  | writeTemporary => exact rfl
  | syncDirectory => exact rfl

/-- Whether a replacement is genuine. -/
def checkGenuine (w : World) (replacement : Replacement) : Bool :=
  (w.seen.all fun stored => !(replacement.offset.isSome || stored.offset.isSome) ||
    digest stored.text != digest replacement.text) &&
    replacement.handle.all fun handle => w.request.offset.all fun offset =>
      handle.requestSha256 != digest w.request.text || offset ≤ handle.transcriptOffset

lemma genuine_of_check {w : World} {replacement : Replacement}
    (h : checkGenuine w replacement = true) : Genuine w replacement := by
  unfold checkGenuine at h
  rw [Bool.and_eq_true] at h
  obtain ⟨hfresh, hissued⟩ := h
  constructor
  · intro stored hstored hcard
    have hstored := List.all_eq_true.mp hfresh stored hstored
    simp only [Bool.or_eq_true, Bool.not_eq_true', Bool.or_eq_false_iff, bne_iff_ne] at hstored
    grind
  · intro handle hhandle offset hoffset hsha
    rw [hhandle, Option.all_some, hoffset, Option.all_some] at hissued
    simpa [hsha] using hissued

/-- The operations that a rule allows, as far as it is checked. -/
def allowing (check : World → Replacement → Bool) (w : World) : Op → Bool
  | .replace replacement => check w replacement
  | _ => true

/-- The first process performs so many operations, then the second one runs, and then the first one
to its end. -/
def threeTurns (check : World → Replacement → Bool) (first : Nat) :
    Option (Run Result × Run Result × World) := do
  let (p, w₁) ← advance (answer 0) (allowing check) first (sameCard 0).program answeredCard
  let (q, w₂) ← advance (answer 1) (allowing check) 100 (sameCard 1).program w₁
  let (p, w₃) ← advance (answer 0) (allowing check) 100 p w₂
  return (p, q, w₃)

/-- Whether the first process has returned, and this holds of the second one and of the files. -/
def finished (check : Run Result → World → Bool) : Run Result × Run Result × World → Bool
  | (.ret _, q, w) => check q w
  | _ => false

/-- What happens in the three turns. -/
lemma exists_sameCard (rule : ReplaceRule) (allowed : World → Replacement → Bool)
    (hallowed : ∀ w replacement, allowed w replacement = true → rule w replacement) (first : Nat)
    (check : Run Result → World → Bool)
    (h : (threeTurns allowed first).any (finished check) = true) :
    ∃ c, Relation.ReflTransGen (calls sameCard rule).Step ⟨answeredCard, fun _ => none⟩ c ∧
      (∃ result, c.returned 0 = some result) ∧
      ∃ q, c.procs 1 = some q ∧ check q c.world = true := by
  obtain ⟨⟨p, q, w₃⟩, hturns, hcheck⟩ := Option.any_eq_true _ _ |>.mp h
  obtain ⟨⟨p₁, w₁⟩, hfirst, hturns⟩ := Option.bind_eq_some_iff.mp hturns
  obtain ⟨⟨q₁, w₂⟩, hsecond, hturns⟩ := Option.bind_eq_some_iff.mp hturns
  obtain ⟨⟨p₂, w₄⟩, hthird, hturns⟩ := Option.bind_eq_some_iff.mp hturns
  cases hturns
  have hresp : ∀ k op w, allowing allowed w op = true → (calls sameCard rule).resp k w op
      (answer k op w).1 (answer k op w).2 := by
    intro k op w hop
    refine ⟨answer_outcome k op w, ?_⟩
    rintro replacement rfl
    exact hallowed w replacement hop
  -- the configurations after the turns
  let c₁ : Config Op Op.Res Raised Result World Nat :=
    ⟨w₁, Function.update (fun _ => none) 0 (some p₁)⟩
  let c₂ : Config Op Op.Res Raised Result World Nat :=
    ⟨w₂, Function.update c₁.procs 1 (some q)⟩
  let c₃ : Config Op Op.Res Raised Result World Nat :=
    ⟨w₃, Function.update c₂.procs 0 (some p)⟩
  have hrun₁ : Relation.ReflTransGen (calls sameCard rule).Step
      ⟨answeredCard, fun _ => none⟩ c₁ :=
    Processes.reaches_turn (hresp 0) rfl hfirst
  have hrun₂ : Relation.ReflTransGen (calls sameCard rule).Step c₁ c₂ :=
    Processes.reaches_turn (hresp 1) rfl hsecond
  have hrun₃ : Relation.ReflTransGen (calls sameCard rule).Step c₂ c₃ :=
    Processes.reaches_turn (n := 100) (hresp 0) rfl hthird
  refine ⟨c₃, (hrun₁.trans hrun₂).trans hrun₃, ?_⟩
  unfold finished at hcheck
  split at hcheck
  case h_1 result q₂ w₂ heq =>
    cases heq
    exact ⟨⟨result, rfl⟩, q, rfl, hcheck⟩
  case h_2 => cases hcheck

/-- Whether the second process has returned, and a card was replaced without an answer. -/
def checkUnanswered : Run Result → World → Bool
  | .ret _, w => (w.log.any fun event => event.old.offset.any fun offset =>
      event.transcriptSize ≤ offset) && w.seen.any fun stored =>
        stored.offset.isSome && digest stored.text == firstHandle.requestSha256
  | _, _ => false

/-- A card is resolved and replaced by the next one, and the next one is lost without an answer. -/
theorem card_replaced_twice : ∃ c,
    Relation.ReflTransGen (calls sameCard Genuine).Step ⟨answeredCard, fun _ => none⟩ c ∧
      (∃ stored ∈ c.world.seen, stored.offset.isSome ∧ Acted sameCard c 0 (digest stored.text) ∧
        Acted sameCard c 1 (digest stored.text)) ∧
      ∃ event ∈ c.world.log, ∃ offset ∈ event.old.offset, ¬offset < event.transcriptSize := by
  obtain ⟨c, hrun, hfirst, q, hproc, hcheck⟩ := exists_sameCard Genuine checkGenuine
    (fun _ _ => genuine_of_check) 7 checkUnanswered (by decide +kernel)
  unfold checkUnanswered at hcheck
  split at hcheck
  case h_2 => cases hcheck
  case h_1 result =>
    rw [Bool.and_eq_true] at hcheck
    obtain ⟨hunanswered, hcard⟩ := hcheck
    obtain ⟨event, hevent, hunanswered⟩ := List.any_eq_true.mp hunanswered
    obtain ⟨offset, hoffset, hle⟩ := Option.any_eq_true _ _ |>.mp hunanswered
    obtain ⟨stored, hstored, hcard⟩ := List.any_eq_true.mp hcard
    rw [Bool.and_eq_true, beq_iff_eq] at hcard
    refine ⟨c, hrun, ⟨stored, hstored, hcard.1, ⟨hfirst, firstHandle, rfl, hcard.2.symm⟩,
      ⟨⟨result, Config.returned_eq_some_iff.mpr hproc⟩, firstHandle, rfl, hcard.2.symm⟩⟩,
      event, hevent, offset, hoffset, ?_⟩
    exact not_lt.mpr (of_decide_eq_true hle)

/-- Whether a replacement is genuine, and the request file as it was checked. -/
def checkUnraced (w : World) (replacement : Replacement) : Bool :=
  checkGenuine w replacement && replacement.checked = (w.request.text, w.identity)

/-- One after the other, the first call resolves the card, and the second one is refused. -/
theorem card_replaced_first : ∃ c,
    Relation.ReflTransGen (calls sameCard Unraced).Step ⟨answeredCard, fun _ => none⟩ c ∧
      (∃ result, c.returned 0 = some result) ∧ ReplacedOnce sameCard c := by
  have hallowed : ∀ w replacement, checkUnraced w replacement = true → Unraced w replacement := by
    intro w replacement h
    obtain ⟨hgenuine, hcurrent⟩ := Bool.and_eq_true _ _ |>.mp h
    exact ⟨genuine_of_check hgenuine, of_decide_eq_true hcurrent⟩
  obtain ⟨c, hrun, hfirst, -⟩ := exists_sameCard Unraced checkUnraced hallowed 100
    (fun _ _ => true) (by decide +kernel)
  exact ⟨c, hrun, hfirst, card_replaced_once rfl (fun _ => by decide +kernel) hrun⟩

end samples

end AgentRuntimeOps.RootReview
