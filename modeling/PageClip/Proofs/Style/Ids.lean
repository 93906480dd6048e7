import PageClip.Proofs.Build
import PageClip.Proofs.Style.Media

/-!
# Ids of styles

A compilation of styles draws one id for each style and none besides
(`compileStyles_run`). What each style says is settled before by a draft; without media
blocks there is always one (`compileBase_run`).
-/

namespace PageClip

open Stylesheet

/-- The styles of drafts that take the ids of a source one after the other. -/
def identified (ids : IdSource) : Nat → List StyleDraft → List Style
  | _, [] => []
  | drawn, draft :: rest => draft.style (ids drawn) :: identified ids (drawn + 1) rest

theorem identify_run (drafts : List StyleDraft) (ids : IdSource) (ledger : Ledger) :
    (identify drafts).run ids ledger =
      (.ok (identified ids ledger.drawn drafts),
        ⟨ledger.drawn + drafts.length, ledger.events ++ drafts.flatMap StyleDraft.events⟩) := by
  induction drafts generalizing ledger with
  | nil => simp [identify, identified]
  | cons draft rest ih =>
    simp only [identify, identified, Build.run_bind, Build.run_newId, Build.run_noteAll, ih,
      Build.run_pure, List.flatMap_cons, List.length_cons, List.append_assoc]
    rw [Nat.add_assoc, Nat.add_comm 1]

theorem map_id_identified (ids : IdSource) (drawn : Nat) (drafts : List StyleDraft) :
    (identified ids drawn drafts).map Style.id = (List.range' drawn drafts.length).map ids := by
  induction drafts generalizing drawn with
  | nil => rfl
  | cons draft rest ih =>
    rw [identified, List.map_cons, ih, List.length_cons, List.range'_succ, List.map_cons]
    rfl

theorem length_identified (ids : IdSource) (drawn : Nat) (drafts : List StyleDraft) :
    (identified ids drawn drafts).length = drafts.length := by
  simpa using congrArg List.length (map_id_identified ids drawn drafts)

theorem map_name_identified (ids : IdSource) (drawn : Nat) (drafts : List StyleDraft) :
    (identified ids drawn drafts).map Style.name = drafts.map StyleDraft.name := by
  induction drafts generalizing drawn with
  | nil => rfl
  | cons draft rest ih =>
    rw [identified, List.map_cons, List.map_cons, ih]
    rfl

theorem exists_draft_of_identified {ids : IdSource} {drawn : Nat} {drafts : List StyleDraft}
    {style : Style} (member : style ∈ identified ids drawn drafts) :
    ∃ draft ∈ drafts, style = draft.style style.id := by
  induction drafts generalizing drawn with
  | nil => cases member
  | cons draft rest ih =>
    rcases List.mem_cons.mp member with rfl | later
    · exact ⟨draft, List.mem_cons_self, rfl⟩
    · obtain ⟨found, listed, eq⟩ := ih later
      exact ⟨found, List.mem_cons_of_mem draft listed, eq⟩

theorem exists_mem_identified {drafts : List StyleDraft} {draft : StyleDraft}
    (member : draft ∈ drafts) (ids : IdSource) (drawn : Nat) :
    ∃ id, draft.style id ∈ identified ids drawn drafts := by
  induction drafts generalizing drawn with
  | nil => cases member
  | cons first rest ih =>
    rcases List.mem_cons.mp member with rfl | later
    · exact ⟨ids drawn, List.mem_cons_self⟩
    · obtain ⟨id, listed⟩ := ih later (drawn + 1)
      exact ⟨id, List.mem_cons_of_mem _ listed⟩

/-! ### Drafts of a stylesheet -/

/-- What a stylesheet says about each class, with its media blocks or without. -/
def drafter (responsive : Bool) (sheet : Stylesheet) : Except Fault (String → StyleDraft) :=
  if responsive then (tierRules sheet.atRules).map sheet.responsiveDraft
  else .ok sheet.baseDraft

theorem drafter_cases {responsive : Bool} {sheet : Stylesheet} {draft : String → StyleDraft}
    (h : drafter responsive sheet = .ok draft) :
    (responsive = false ∧ draft = sheet.baseDraft) ∨
      ∃ tiers, responsive = true ∧ tierRules sheet.atRules = .ok tiers ∧
        draft = sheet.responsiveDraft tiers := by
  unfold drafter at h
  cases responsive with
  | false => exact .inl ⟨rfl, (Except.ok.inj h).symm⟩
  | true =>
    rw [if_pos rfl] at h
    rcases read : tierRules sheet.atRules with fault | tiers
    · rw [read] at h
      cases h
    · rw [read] at h
      exact .inr ⟨tiers, rfl, rfl, (Except.ok.inj h).symm⟩

theorem drafter_ok {responsive : Bool} {sheet : Stylesheet} {draft : String → StyleDraft}
    (h : drafter responsive sheet = .ok draft) (className : String) :
    (draft className).name = className ∧ (draft className).base = sheet.baseLine className := by
  obtain ⟨-, rfl⟩ | ⟨tiers, -, -, rfl⟩ := drafter_cases h <;> exact ⟨rfl, rfl⟩

theorem compileBase_run (css : String) (classNames : List String) (ids : IdSource)
    (ledger : Ledger) :
    let sheet := Stylesheet.parse css.toList
    let drafts := classNames.eraseDups.map sheet.baseDraft
    (compileBase css classNames).run ids ledger =
      (.ok (.ofStyles sheet (identified ids ledger.drawn drafts)),
        ⟨ledger.drawn + drafts.length,
          ledger.events ++ parseEvents css.toList ++ drafts.flatMap StyleDraft.events⟩) := by
  simp only [compileBase, Build.run_bind, Build.run_noteAll, identify_run, Build.run_pure]

theorem compileStyles_run (responsive : Bool) (css : String) (classNames : List String)
    (ids : IdSource) (ledger : Ledger) :
    let sheet := Stylesheet.parse css.toList
    ∃ events, (compileStyles responsive css classNames).run ids ledger =
      match drafter responsive sheet with
      | .ok draft =>
        (.ok (.ofStyles sheet (identified ids ledger.drawn (classNames.eraseDups.map draft))),
          ⟨ledger.drawn + classNames.eraseDups.length, events⟩)
      | .error fault => (.error fault, ⟨ledger.drawn, events⟩) := by
  unfold compileStyles drafter
  cases responsive with
  | false => exact ⟨_, by simpa using compileBase_run css classNames ids ledger⟩
  | true =>
    obtain ⟨told, ran⟩ := mediaRules_run (Stylesheet.parse css.toList).atRules ids
      ⟨ledger.drawn, ledger.events ++ parseEvents css.toList⟩
    simp only [if_true, compileResponsive, Build.run_bind, Build.run_noteAll, ran]
    rcases tierRules (Stylesheet.parse css.toList).atRules with fault | tiers
    · exact ⟨told, rfl⟩
    · simp only [identify_run, Build.run_pure, List.length_map, Except.map]
      exact ⟨_, rfl⟩

theorem exists_drafter {responsive : Bool} {css : String} {classNames : List String}
    {ids : IdSource} {ledger after : Ledger} {collection : StyleCollection}
    (h : (compileStyles responsive css classNames).run ids ledger = (.ok collection, after)) :
    ∃ draft, drafter responsive (Stylesheet.parse css.toList) = .ok draft ∧
      collection = .ofStyles (Stylesheet.parse css.toList)
        (identified ids ledger.drawn (classNames.eraseDups.map draft)) ∧
      after.drawn = ledger.drawn + classNames.eraseDups.length := by
  obtain ⟨events, ran⟩ := compileStyles_run responsive css classNames ids ledger
  rw [ran] at h
  rcases drafted : drafter responsive (Stylesheet.parse css.toList) with fault | draft
  · rw [drafted] at h
    cases h
  · rw [drafted] at h
    obtain ⟨same, rfl⟩ := Prod.mk.inj h
    exact ⟨draft, rfl, (Except.ok.inj same).symm, rfl⟩

theorem map_name_of_run {responsive : Bool} {css : String} {classNames : List String}
    {ids : IdSource} {ledger after : Ledger} {collection : StyleCollection}
    (h : (compileStyles responsive css classNames).run ids ledger = (.ok collection, after)) :
    collection.styles.map Style.name = classNames.eraseDups := by
  obtain ⟨draft, drafted, rfl, -⟩ := exists_drafter h
  rw [StyleCollection.ofStyles, map_name_identified, List.map_map]
  exact (List.map_congr_left fun name _ => (drafter_ok drafted name).1).trans (List.map_id _)

theorem compileStyles_ok {responsive : Bool} {css : String} {classNames : List String}
    {ids : IdSource} {ledger after : Ledger} {collection : StyleCollection}
    (h : (compileStyles responsive css classNames).run ids ledger = (.ok collection, after)) :
    collection.classIds = collection.styles.map (fun style => (style.name, style.id)) ∧
      collection.styles.map Style.id =
        (List.range' ledger.drawn collection.styles.length).map ids ∧
      after.drawn = ledger.drawn + collection.styles.length := by
  obtain ⟨draft, -, rfl, drawn⟩ := exists_drafter h
  refine ⟨rfl, ?_, ?_⟩
  · rw [StyleCollection.ofStyles, length_identified]
    exact map_id_identified ids ledger.drawn _
  · rw [drawn, StyleCollection.ofStyles, length_identified, List.length_map]

end PageClip
