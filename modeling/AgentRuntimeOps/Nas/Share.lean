import AgentRuntimeOps.Lib.Words

/-!
# Shares

`nas.py`: a share is written `//HOST/SHARE`.
-/

namespace AgentRuntimeOps.Nas

open AgentRuntimeOps.Lib

/-- A name in a share: `[^/\\]+`. -/
def isShareName (name : Text) : Bool := name ≠ [] ∧ 47 ∉ name ∧ 92 ∉ name

/-- `SmbShare`, with the host as it is spelled. -/
structure SmbShare where
  spelledHost : Text
  share : Text
  host_name : isShareName spelledHost = true
  share_name : isShareName share = true
  /-- The text that is matched has been stripped. -/
  trimmed : ∀ c ∈ share.getLast?, Text.isSpace c = false
  deriving DecidableEq

/-- `source` -/
def SmbShare.source (share : SmbShare) : Text :=
  [47, 47] ++ share.spelledHost ++ 47 :: share.share

/-- `parse_smb_share` -/
def parseSmbShare (source : Text) : Option SmbShare :=
  match source.strip.splitOn 47 with
  | [[], [], host, share] =>
      if h : (isShareName host = true ∧ isShareName share = true) ∧
          ∀ c ∈ share.getLast?, Text.isSpace c = false then some ⟨host, share, h.1.1, h.1.2, h.2⟩
      else none
  | _ => none

lemma isShareName_iff {name : Text} :
    isShareName name = true ↔ name ≠ [] ∧ 47 ∉ name ∧ 92 ∉ name := decide_eq_true_iff

/-- The name of a share does not end with a blank. -/
lemma SmbShare.source_strip (share : SmbShare) : share.source.strip = share.source := by
  obtain ⟨hne, -⟩ := isShareName_iff.mp share.share_name
  obtain ⟨front, c, hlast⟩ := (List.eq_nil_or_concat' share.share).resolve_left hne
  have hc : Text.isSpace c = false := share.trimmed c (by simp [hlast])
  have hsource : share.source = 47 :: (47 :: share.spelledHost ++ 47 :: front) ++ [c] := by
    simp [SmbShare.source, hlast]
  have hdrop : share.source.dropWhile Text.isSpace = share.source := by
    rw [hsource, List.cons_append]
    exact List.dropWhile_cons_of_neg (by decide)
  unfold Text.strip
  rw [hdrop, hsource, List.reverse_append, List.reverse_singleton, List.singleton_append,
    List.dropWhile_cons_of_neg (by simp [hc]), List.reverse_cons, List.reverse_reverse]

/-- What is parsed is the spelling of the share. -/
theorem parseSmbShare_source (share : SmbShare) : parseSmbShare share.source = some share := by
  obtain ⟨-, hhost, -⟩ := isShareName_iff.mp share.host_name
  obtain ⟨-, hshare, -⟩ := isShareName_iff.mp share.share_name
  have hsingle : ∀ {name : Text}, 47 ∉ name → name.splitOn 47 = [name] := fun hname => by
    rw [List.splitOn_eq_splitOnP, List.splitOnP_eq_singleton]
    exact fun c hc => beq_eq_false_iff_ne.mpr fun heq => hname (heq ▸ hc)
  have hsplit : share.source.splitOn 47 = [[], [], share.spelledHost, share.share] := by
    have hcut : (47 :: 47 :: (share.spelledHost ++ 47 :: share.share)).splitOn 47 =
        [] :: [] :: (share.spelledHost.splitOn 47 ++ share.share.splitOn 47) := by
      rw [List.splitOn_eq_splitOnP, List.splitOn_eq_splitOnP, List.splitOn_eq_splitOnP,
        List.splitOnP_cons_eq_if_modifyHead, List.splitOnP_cons_eq_if_modifyHead,
        List.splitOnP_append_cons _ _ (by decide)]
      rfl
    rw [hsingle hhost, hsingle hshare] at hcut
    exact hcut
  unfold parseSmbShare
  rw [share.source_strip, hsplit]
  exact dif_pos ⟨⟨share.host_name, share.share_name⟩, share.trimmed⟩

end AgentRuntimeOps.Nas
