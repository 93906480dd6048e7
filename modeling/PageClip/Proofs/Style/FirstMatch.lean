import Mathlib.Data.List.Nodup
import PageClip.Proofs.FirstSeen
import PageClip.Proofs.Style.Ids
import PageClip.Proofs.Stylesheet.Succession
import PageClip.Proofs.Table

/-!
# The first rule counts

What a complete stylesheet says about a class is not changed by a text behind it, however
malformed (`compileStyles_append`). Only a root block there could reach back: it sets
variables for the whole.
-/

namespace PageClip

open Stylesheet Text

namespace Stylesheet

theorem findRuleIn?_of_prefix {name : Text} {rules more : List Rule} {rule : Rule}
    (part : rules <+: more) (found : findRuleIn? name rules = some rule) :
    findRuleIn? name more = some rule :=
  part.find?_eq_some found

theorem Complete.baseLine_append {front back : Text} (complete : Complete front)
    (unrooted : Unrooted (stripComments back)) {name : String} {rule : Rule}
    (found : (parse front).findRule? name.toList = some rule) :
    (parse (front ++ back)).baseLine name = (parse front).baseLine name := by
  have stays : (parse (front ++ back)).findRule? name.toList = some rule :=
    findRuleIn?_of_prefix (complete.rules_prefix back) found
  rw [baseLine, baseLine, found, stays, lineOf, lineOf, complete.values_append unrooted.definitions]

theorem variants_responsiveDraft (sheet : Stylesheet) (tiers : TierRules) (name id : String) :
    ((sheet.responsiveDraft tiers name).style id).variants = Breakpoint.all.filterMap fun tier =>
      ((findRuleIn? name.toList (TierRules.at tier tiers)).map fun rule =>
        String.ofList (flatten sheet.values rule.declarations).text).map (tier, ·) := by
  simp only [StyleDraft.style, responsiveDraft, variantLines, List.map_filterMap, Option.map_map]
  rfl

theorem find?_variants (sheet : Stylesheet) (tiers : TierRules) (name id : String)
    (tier : Breakpoint) :
    Table.find? tier ((sheet.responsiveDraft tiers name).style id).variants =
      (findRuleIn? name.toList (TierRules.at tier tiers)).map fun rule =>
        String.ofList (flatten sheet.values rule.declarations).text := by
  have listed : tier ∈ Breakpoint.all := by cases tier <;> decide
  rw [variants_responsiveDraft, Table.find?_filterMap, if_pos listed]

theorem nodup_variants (sheet : Stylesheet) (tiers : TierRules) (name id : String) :
    (Table.keys ((sheet.responsiveDraft tiers name).style id).variants).Nodup := by
  have distinct : Breakpoint.all.Nodup := by decide
  rw [variants_responsiveDraft]
  exact distinct.sublist (Table.keys_filterMap_sublist _ _)

end Stylesheet

theorem filter_of_nodup_map {α κ : Type} [DecidableEq κ] {key : α → κ} {items : List α}
    (once : (items.map key).Nodup) {item : α} (member : item ∈ items) :
    items.filter (fun other => key other = key item) = [item] := by
  induction items with
  | nil => cases member
  | cons first rest ih =>
    obtain ⟨new, once⟩ := List.nodup_cons.mp once
    rcases List.mem_cons.mp member with rfl | later
    · have others : rest.filter (fun other => key other = key item) = [] :=
        List.filter_eq_nil_iff.mpr fun other listed same =>
          new (of_decide_eq_true same ▸ List.mem_map_of_mem listed)
      rw [List.filter_cons_of_pos (by simp), others]
    · have different : key first ≠ key item := fun same => new (same ▸ List.mem_map_of_mem later)
      rw [List.filter_cons_of_neg (by simpa using different)]
      exact ih once later

theorem exists_style_of_run {responsive : Bool} {css : String} {classNames : List String}
    {ids : IdSource} {ledger after : Ledger} {collection : StyleCollection}
    (h : (compileStyles responsive css classNames).run ids ledger = (.ok collection, after)) :
    ∃ draft, drafter responsive (parse css.toList) = .ok draft ∧
      ∀ name ∈ classNames, ∃ id,
        collection.styles.filter (fun style => style.name = name) = [(draft name).style id] := by
  have requested := firstSeen_eraseDups classNames
  have once : (collection.styles.map Style.name).Nodup := map_name_of_run h ▸ requested.nodup
  obtain ⟨draft, drafted, rfl, -⟩ := exists_drafter h
  refine ⟨draft, drafted, fun name member => ?_⟩
  have listed := List.mem_map_of_mem (f := draft) ((requested.mem_iff name).mpr member)
  obtain ⟨id, made⟩ := exists_mem_identified listed ids ledger.drawn
  have named : ((draft name).style id).name = name := (drafter_ok drafted name).1
  have single := filter_of_nodup_map once made
  rw [named] at single
  exact ⟨id, single⟩

/-- A class for which a complete stylesheet has a base rule keeps its base text, whatever follows but
a root block, and so it is with its text for each breakpoint. -/
theorem compileStyles_append {responsive : Bool} {front back : String}
    {classNames others : List String} {ids otherIds : IdSource} {ledger other after later : Ledger}
    {alone both : StyleCollection} (complete : Complete front.toList)
    (unrooted : Unrooted (stripComments back.toList))
    (first : (compileStyles responsive front classNames).run ids ledger = (.ok alone, after))
    (second : (compileStyles responsive (front ++ back) others).run otherIds other =
      (.ok both, later)) :
    ∀ name ∈ classNames, name ∈ others → ∃ style kept,
      alone.styles.filter (fun style => style.name = name) = [style] ∧
      both.styles.filter (fun style => style.name = name) = [kept] ∧
      ((parse front.toList).findRule? name.toList ≠ none → kept.base = style.base) ∧
      ∀ tier line, Table.find? tier style.variants = some line →
        Table.find? tier kept.variants = some line := by
  obtain ⟨draft, drafted, styles⟩ := exists_style_of_run first
  obtain ⟨draft', drafted', styles'⟩ := exists_style_of_run second
  rw [String.toList_append] at drafted'
  intro name asked asked'
  obtain ⟨id, here⟩ := styles name asked
  obtain ⟨id', there⟩ := styles' name asked'
  refine ⟨_, _, here, there, fun ruled => ?_, fun tier line found => ?_⟩
  · obtain ⟨rule, found⟩ := Option.ne_none_iff_exists'.mp ruled
    have base := (drafter_ok drafted' name).2.trans (complete.baseLine_append unrooted found)
    rw [← (drafter_ok drafted name).2] at base
    exact congrArg (String.ofList ·.text) base
  · obtain ⟨-, rfl⟩ | ⟨own, full, read, rfl⟩ := drafter_cases drafted
    · cases found
    obtain ⟨plain, -⟩ | ⟨tiers, -, readBoth, rfl⟩ := drafter_cases drafted'
    · cases full.symm.trans plain
    -- The media blocks of the front come first, so their rules do in each breakpoint.
    obtain ⟨behind, atRules⟩ := complete.atRules_prefix back.toList
    rw [← atRules] at readBoth
    obtain ⟨own', more, readOwn, rfl⟩ := tierRules_append readBoth
    obtain rfl := Except.ok.inj (read.symm.trans readOwn)
    rw [find?_variants, Option.map_eq_some_iff] at found
    obtain ⟨rule, matched, rfl⟩ := found
    have stays : findRuleIn? name.toList (TierRules.at tier (own ++ more)) = some rule :=
      findRuleIn?_of_prefix (TierRules.at_append tier own more ▸ List.prefix_append _ _) matched
    rw [find?_variants, stays, Option.map_some, complete.values_append unrooted.definitions]

def ruledSheet : String :=
  ":root\x7b--x:1px\x7d .b\x7btop:var(--x)\x7d @media (max-width:479px)\x7b.b\x7bleft:0\x7d\x7d"

/-- A stray brace, other rules for the same class, and a block that is never closed. -/
def strayText : String :=
  "\x7d .b\x7btop:2px\x7d @media (max-width:479px)\x7b.b\x7bleft:1px\x7d\x7d @media x\x7b.b\x7b"

theorem ruledSheet_append_strayText :
    Complete ruledSheet.toList ∧ Unrooted (stripComments strayText.toList) ∧
      (parse ruledSheet.toList).findRule? "b".toList ≠ none ∧ ∃ alone both after later,
        (compileStyles true ruledSheet ["b"]).run .tally .fresh = (.ok alone, after) ∧
        (compileStyles true (ruledSheet ++ strayText) ["c", "b"]).run .tally .fresh =
          (.ok both, later) ∧
        ∃ style kept line, alone.styles.filter (fun style => style.name = "b") = [style] ∧
          both.styles.filter (fun style => style.name = "b") = [kept] ∧
          kept.base = style.base ∧ Table.find? .tiny style.variants = some line ∧
          Table.find? .tiny kept.variants = some line := by
  have complete : Complete ruledSheet.toList :=
    ⟨commentsClosed_of_clean (by decide +kernel), by decide +kernel, by decide +kernel⟩
  have rootless : Rootless (stripComments strayText.toList) := by decide +kernel
  have ruled : (parse ruledSheet.toList).findRule? "b".toList ≠ none := by decide +kernel
  have first : ((compileStyles true ruledSheet ["b"]).run .tally .fresh).1.map
      (fun alone => alone.styles.all fun style => (Table.find? .tiny style.variants).isSome) =
      .ok true := by decide +kernel
  have second : ((compileStyles true (ruledSheet ++ strayText) ["c", "b"]).run .tally .fresh).1.map
      (fun _ => ()) = .ok () := by decide +kernel
  obtain ⟨alone, after, first, varied⟩ := Build.exists_of_map_eq first
  obtain ⟨both, later, second, -⟩ := Build.exists_of_map_eq second
  obtain ⟨style, kept, here, there, base, variants⟩ :=
    compileStyles_append complete rootless.unrooted first second "b" (by decide) (by decide)
  have listed : style ∈ alone.styles := (List.mem_filter.mp (here ▸ List.mem_singleton_self style)).1
  obtain ⟨line, found⟩ := Option.isSome_iff_exists.mp (List.all_eq_true.mp varied style listed)
  exact ⟨complete, rootless.unrooted, ruled, alone, both, after, later, first, second, style, kept,
    line, here, there, base ruled, found, variants _ _ found⟩

end PageClip
