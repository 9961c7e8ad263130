import VectorCommitment.Http.Route
import VectorCommitment.Proofs.Http.Target

namespace VectorCommitment

namespace Text

variable {isSeparator : CodePoint → Bool}

lemma splitWhere_append {start : Text} (hstart : ∀ c ∈ start, isSeparator c = false)
    {separator : CodePoint} (hseparator : isSeparator separator = true) (rest : Text) :
    splitWhere isSeparator (start ++ separator :: rest) =
      start :: splitWhere isSeparator rest := by
  induction start with
  | nil => rw [List.nil_append, splitWhere, if_pos hseparator]
  | cons c start ih =>
    obtain ⟨hc, hstart⟩ := List.forall_mem_cons.mp hstart
    rw [List.cons_append, splitWhere, hc, ih hstart]
    rfl

lemma splitWhere_eq_singleton {t : Text} (ht : ∀ c ∈ t, isSeparator c = false) :
    splitWhere isSeparator t = [t] := by
  induction t with
  | nil => rfl
  | cons c t ih =>
    obtain ⟨hc, ht⟩ := List.forall_mem_cons.mp ht
    rw [splitWhere, hc, ih ht]
    rfl

lemma splitWhere_ne_nil (t : Text) : splitWhere isSeparator t ≠ [] := by
  induction t with
  | nil => exact List.cons_ne_nil _ _
  | cons c t ih =>
    rw [splitWhere]
    split
    · exact List.cons_ne_nil _ _
    · split <;> exact List.cons_ne_nil _ _

lemma exists_splitWhere {separator : CodePoint} (hseparator : isSeparator separator = true)
    {t : Text} (ht : separator ∈ t) :
    ∃ first second rest, splitWhere isSeparator t = first :: second :: rest := by
  induction t with
  | nil => cases ht
  | cons c t ih =>
    obtain ⟨second, rest, hsplit⟩ := List.exists_cons_of_ne_nil (splitWhere_ne_nil t)
    by_cases hc : isSeparator c = true
    · exact ⟨[], second, rest, by rw [splitWhere, if_pos hc, hsplit]⟩
    · have hmem : separator ∈ t := by
        rcases List.mem_cons.mp ht with rfl | hmem
        · exact absurd hseparator hc
        · exact hmem
      obtain ⟨first, second, rest, hsplit⟩ := ih hmem
      exact ⟨c :: first, second, rest, by rw [splitWhere, if_neg hc, hsplit]⟩

end Text

namespace Http

def commitmentsPath : Text := "vc/commitments/"

def commitmentTarget (key : Text) : Text := 0x2F :: commitmentsPath ++ percentEncode key

lemma isBarePath_commitmentTarget (key : Text) : IsBarePath (commitmentTarget key) where
  single := ⟨_, _, rfl, by decide⟩
  plain := List.forall_mem_append.mpr ⟨by decide, plain_percentEncode key⟩

lemma path_commitmentTarget {key : Text} (hkey : ∀ c ∈ key, Text.isScalar c = true) :
    path (commitmentTarget key) = commitmentsPath ++ key := by
  have hfront : ∀ c ∈ 0x2F :: commitmentsPath, c ≠ 0x25 ∧ Text.isScalar c = true := by decide
  have hdecoded : Text.decodeUtf8 (pathBytes (commitmentTarget key)) =
      0x2F :: commitmentsPath ++ key := by
    rw [commitmentTarget, pathBytes_append fun c hc => (hfront c hc).1, pathBytes_percentEncode,
      ← List.flatMap_append]
    exact Text.decodeUtf8_encode
      (List.forall_mem_append.mpr ⟨fun c hc => (hfront c hc).2, hkey⟩)
  rw [(isBarePath_commitmentTarget key).path_eq, hdecoded]
  rfl

lemma segments_commitmentsPath (key : Text) :
    segments (commitmentsPath ++ key) =
      Text.ofString "vc" :: Text.ofString "commitments" :: segments key := by
  have hpath : commitmentsPath ++ key =
      Text.ofString "vc" ++ 0x2F :: (Text.ofString "commitments" ++ 0x2F :: key) := rfl
  rw [segments, hpath, Text.splitWhere_append (by decide) rfl,
    Text.splitWhere_append (by decide) rfl, segments]

lemma at?_commitments (key : Text) :
    Resource.at? [Text.ofString "vc", Text.ofString "commitments", key] =
      if key = [] then none else some (.commitment key) := rfl

lemma at?_below_commitments (key next : Text) (rest : List Text) :
    Resource.at? (Text.ofString "vc" :: Text.ofString "commitments" :: key :: next :: rest) =
      none := rfl

def IsSegment (key : Text) : Prop := key ≠ [] ∧ 0x2F ∉ key

instance (key : Text) : Decidable (IsSegment key) :=
  inferInstanceAs (Decidable (key ≠ [] ∧ 0x2F ∉ key))

lemma at?_of_isSegment {key : Text} (hkey : IsSegment key) :
    Resource.at? (segments (commitmentsPath ++ key)) = some (.commitment key) := by
  have hsegments : segments key = [key] :=
    Text.splitWhere_eq_singleton fun c hc => decide_eq_false fun hslash => hkey.2 (hslash ▸ hc)
  rw [segments_commitmentsPath, hsegments, at?_commitments]
  exact if_neg hkey.1

lemma at?_of_not_isSegment {key : Text} (hkey : ¬IsSegment key) :
    Resource.at? (segments (commitmentsPath ++ key)) = none := by
  rw [segments_commitmentsPath]
  by_cases hslash : 0x2F ∈ key
  · obtain ⟨first, second, rest, hsegments⟩ : ∃ first second rest,
        segments key = first :: second :: rest :=
      Text.exists_splitWhere (decide_eq_true rfl) hslash
    rw [hsegments, at?_below_commitments]
  · have hempty : key = [] := by
      by_contra hne
      exact hkey ⟨hne, hslash⟩
    rw [hempty]
    rfl

lemma exists_mergeSlashes (rest : Text) :
    ∃ rest', mergeSlashes (0x2F :: rest) = 0x2F :: rest' := by
  induction rest with
  | nil => exact ⟨[], rfl⟩
  | cons c rest ih =>
    by_cases hc : c = 0x2F
    · obtain ⟨rest', hmerged⟩ := ih
      rw [hc]
      exact ⟨rest', hmerged⟩
    · refine ⟨mergeSlashes (c :: rest), ?_⟩
      rw [mergeSlashes]
      exact if_neg (by simpa using hc)

lemma exists_merged (key : Text) :
    ∃ key', mergeSlashes (commitmentsPath ++ key) = commitmentsPath ++ key' := by
  obtain ⟨key', hmerged⟩ := exists_mergeSlashes key
  refine ⟨key', ?_⟩
  change Text.ofString "vc/commitments" ++ mergeSlashes (0x2F :: key) = _
  rw [hmerged]
  rfl

lemma matchPath_commitments (key : Text) :
    matchPath "GET" (commitmentsPath ++ key) = .taken (.commitment key) (.perform true) ∨
      matchPath "GET" (commitmentsPath ++ key) = .nothing := by
  by_cases hkey : IsSegment key
  · left
    rw [matchPath, at?_of_isSegment hkey]
    rfl
  · right
    rw [matchPath, at?_of_not_isSegment hkey]

lemma route_read {target : Text} (h : IsBarePath target) :
    route ⟨"GET", target, none, []⟩ =
      routeOf (matchPath "GET" (path target)) (matchPath "GET" (mergeSlashes (path target))) := by
  rw [route]
  dsimp only
  rw [h.hasHostName_eq, h.isSocket_eq]
  rfl

variable {key : Text} (hscalar : ∀ c ∈ key, Text.isScalar c = true)
include hscalar

lemma route_of_isSegment (hkey : IsSegment key) :
    route ⟨"GET", commitmentTarget key, none, []⟩ = .found (.commitment key) (.perform true) := by
  rw [route_read (isBarePath_commitmentTarget key), path_commitmentTarget hscalar, matchPath,
    at?_of_isSegment hkey]
  rfl

lemma route_of_not_isSegment (hkey : ¬IsSegment key) :
    route ⟨"GET", commitmentTarget key, none, []⟩ = .moved ∨
      route ⟨"GET", commitmentTarget key, none, []⟩ = .unknown := by
  obtain ⟨key', hmerged⟩ := exists_merged key
  have hnothing : matchPath "GET" (commitmentsPath ++ key) = .nothing := by
    rw [matchPath, at?_of_not_isSegment hkey]
  rw [route_read (isBarePath_commitmentTarget key), path_commitmentTarget hscalar, hmerged,
    hnothing]
  rcases matchPath_commitments key' with htaken | hnone
  · rw [htaken]
    exact .inl rfl
  · rw [hnone]
    exact .inr rfl

end Http

end VectorCommitment
