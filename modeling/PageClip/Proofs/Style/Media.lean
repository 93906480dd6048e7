import PageClip.Proofs.Build
import PageClip.Style.Compile

/-!
# Rules for breakpoints

Which rules a stylesheet has for a breakpoint is read off its at-rules alone:
`mediaRules_run` says that neither the ids drawn nor the events noted before bear on it.
At-rules behind others add their rules behind the others' (`tierRules_append`).
-/

namespace PageClip.Stylesheet

/-- The rules that an at-rule adds to a breakpoint, if it is a media block for one. -/
def AtRule.tierRules (atRule : AtRule) : Except Fault TierRules :=
  if atRule.name = "media".toList then do
    let tier ← Breakpoint.ofCondition atRule.prelude
    pure (tier.toList.map fun tier => (tier, parseRules (splitAtRules atRule.body).plain))
  else pure []

/-- The rules of at-rules for breakpoints, in order. -/
def tierRules : List AtRule → Except Fault TierRules
  | [] => pure []
  | atRule :: rest => do
    let own ← atRule.tierRules
    let more ← tierRules rest
    pure (own ++ more)

theorem mediaRules_run (atRules : List AtRule) (ids : IdSource) (ledger : Ledger) :
    ∃ events, (mediaRules atRules).run ids ledger =
      (tierRules atRules, ⟨ledger.drawn, events⟩) := by
  induction atRules generalizing ledger with
  | nil => exact ⟨ledger.events, rfl⟩
  | cons atRule rest ih =>
    rw [mediaRules, tierRules, AtRule.tierRules]
    split
    · rw [Build.run_bind, Build.run_ofExcept]
      rcases Breakpoint.ofCondition atRule.prelude with fault | tier
      · exact ⟨ledger.events, rfl⟩
      · cases tier with
        | none =>
          obtain ⟨events, ran⟩ :=
            ih ⟨ledger.drawn, ledger.events ++ [.noTier (String.ofList atRule.prelude)]⟩
          refine ⟨events, ?_⟩
          simp only [Build.run_bind, Build.run_note, ran]
          rcases tierRules rest with fault | more <;> rfl
        | some tier =>
          obtain ⟨events, ran⟩ :=
            ih ⟨ledger.drawn, ledger.events ++ (splitAtRules atRule.body).events⟩
          refine ⟨events, ?_⟩
          simp only [Build.run_bind, Build.run_noteAll, ran]
          rcases tierRules rest with fault | more <;> rfl
    · obtain ⟨events, ran⟩ := ih ledger
      refine ⟨events, ?_⟩
      rw [ran]
      rcases tierRules rest with fault | more <;> rfl

theorem tierRules_cons_ok {atRule : AtRule} {rest : List AtRule} {tiers : TierRules}
    (h : tierRules (atRule :: rest) = .ok tiers) :
    ∃ own more, atRule.tierRules = .ok own ∧ tierRules rest = .ok more ∧ tiers = own ++ more := by
  rw [tierRules] at h
  rcases here : atRule.tierRules with fault | own
  · rw [here] at h
    cases h
  rcases later : tierRules rest with fault | more
  · rw [here, later] at h
    cases h
  · rw [here, later] at h
    exact ⟨own, more, rfl, rfl, (Except.ok.inj h).symm⟩

theorem tierRules_append {front back : List AtRule} {tiers : TierRules}
    (h : tierRules (front ++ back) = .ok tiers) :
    ∃ own more, tierRules front = .ok own ∧ tiers = own ++ more := by
  induction front generalizing tiers with
  | nil => exact ⟨[], tiers, rfl, rfl⟩
  | cons atRule front ih =>
    obtain ⟨own, rest, here, later, rfl⟩ := tierRules_cons_ok h
    obtain ⟨ownRest, more, first, rfl⟩ := ih later
    refine ⟨own ++ ownRest, more, ?_, (List.append_assoc _ _ _).symm⟩
    rw [tierRules, here, first]
    rfl

theorem AtRule.mem_tierRules {atRule : AtRule} {own : TierRules} (h : atRule.tierRules = .ok own)
    {entry : Breakpoint × List Rule} (member : entry ∈ own) :
    atRule.name = "media".toList ∧ entry.2 = parseRules (splitAtRules atRule.body).plain := by
  unfold AtRule.tierRules at h
  split at h
  · next named =>
    rcases read : Breakpoint.ofCondition atRule.prelude with fault | tier
    · rw [read] at h
      cases h
    · rw [read] at h
      obtain rfl := Except.ok.inj h
      obtain ⟨_, -, rfl⟩ := List.mem_map.mp member
      exact ⟨named, rfl⟩
  · obtain rfl := Except.ok.inj h
    cases member

theorem mem_tierRules {atRules : List AtRule} {tiers : TierRules} (h : tierRules atRules = .ok tiers)
    {entry : Breakpoint × List Rule} (member : entry ∈ tiers) :
    ∃ atRule ∈ atRules, atRule.name = "media".toList ∧
      entry.2 = parseRules (splitAtRules atRule.body).plain := by
  induction atRules generalizing tiers with
  | nil =>
    obtain rfl := Except.ok.inj h
    cases member
  | cons atRule rest ih =>
    obtain ⟨own, more, here, later, rfl⟩ := tierRules_cons_ok h
    rcases List.mem_append.mp member with early | late
    · exact ⟨atRule, List.mem_cons_self, AtRule.mem_tierRules here early⟩
    · obtain ⟨found, listed, read⟩ := ih later late
      exact ⟨found, List.mem_cons_of_mem atRule listed, read⟩

theorem TierRules.at_append (tier : Breakpoint) (own more : TierRules) :
    TierRules.at tier (own ++ more) = TierRules.at tier own ++ TierRules.at tier more := by
  rw [TierRules.at, List.filter_append, List.flatMap_append]
  rfl

end PageClip.Stylesheet
