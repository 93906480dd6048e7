import PageClip.Proofs.Style.FirstMatch
import PageClip.Proofs.Stylesheet.Reach
import PageClip.Proofs.Stylesheet.Rule

/-!
# Braces in styles

Declarations lose their braces before their references are replaced, so a brace in a
style comes from the value of a variable. `compileStyles_braceFree_iff` says which
values those are.
-/

namespace PageClip

open Stylesheet Text

namespace Stylesheet

open Delimiter

theorem free_bareDeclaration (declaration : Text) : brace.Free (bareDeclaration declaration) := by
  have unbraced : brace.Free (declaration.filter fun c => c ≠ '\x7b' && c ≠ '\x7d') := by
    simp [Free, brace]
  refine unbraced.of_subset (List.Subset.trans (trim_isInfix _).subset ?_)
  intro c member
  have kept := (List.dropWhile_sublist _).subset (List.mem_reverse.mp member)
  exact (trim_isInfix _).subset (List.mem_reverse.mp kept)

theorem free_spaceColon {declaration : Text} (free : brace.Free declaration) :
    brace.Free (spaceColon declaration) := by
  unfold spaceColon
  split
  · next name value found =>
    have whole := cut?_eq_some found
    have front : trimRight name ⊆ declaration := by
      obtain ⟨gap, -, eq⟩ := exists_trimRight_append name
      have inside : trimRight name <+: name := ⟨gap, eq.symm⟩
      rw [whole, List.append_assoc]
      exact (inside.trans (List.prefix_append name _)).subset
    have back : trimLeft value ⊆ declaration := by
      rw [whole]
      exact List.Subset.trans (List.dropWhile_suffix isBlank).subset (List.subset_append_right _ value)
    exact ((free.of_subset front).append (by decide)).append (free.of_subset back)
  · exact free

/-- No declaration reaches a variable whose value says a brace. -/
def ReachNoBrace (values : Variables) (declarations : List Text) : Prop :=
  ∀ declaration ∈ declarations, ∀ names value,
    Reaches values [] (spaceColon (bareDeclaration declaration)) names value →
      brace.Free (ownText values names value)

theorem free_intercalate_iff {d : Delimiter} {glue : Text} (free : d.Free glue)
    (parts : List Text) : d.Free (glue.intercalate parts) ↔ ∀ part ∈ parts, d.Free part := by
  cases parts with
  | nil => simp [Free]
  | cons first parts =>
    rw [intercalate_cons, List.forall_mem_cons]
    constructor
    · intro whole
      refine ⟨whole.of_subset (List.subset_append_left _ _), fun part member => ?_⟩
      have listed : part ⊆ parts.flatMap (glue ++ ·) := fun c inside =>
        List.mem_flatMap.mpr ⟨part, member, List.mem_append_right glue inside⟩
      exact whole.of_subset (List.Subset.trans listed (List.subset_append_right first _))
    · rintro ⟨here, later⟩
      exact here.append (Free.flatMap fun part member => free.append (later part member))

theorem free_flatten_iff (values : Variables) (declarations : List Text) :
    brace.Free (flatten values declarations).text ↔ ReachNoBrace values declarations := by
  have each (bare : Text) (free : brace.Free bare) :
      brace.Free (resolve values (spaceColon bare)).text ↔
        ∀ names value, Reaches values [] (spaceColon bare) names value →
          brace.Free (ownText values names value) :=
    free_resolved_iff (free_spaceColon free)
  rw [flatten, free_intercalate_iff (by decide)]
  simp only [resolveDeclarations, ReachNoBrace, List.forall_mem_map, List.mem_filter]
  constructor
  · intro all declaration member names value reaches
    -- A blank declaration is left out, but it refers to nothing.
    have solid : (!(bareDeclaration declaration).isEmpty) = true := by
      cases bare : bareDeclaration declaration with
      | nil => exact absurd (show spaceColon [] = [] from rfl) (bare ▸ reaches.ne_nil)
      | cons => rfl
    exact (each _ (free_bareDeclaration declaration)).mp
      (all _ ⟨List.mem_map_of_mem member, solid⟩) names value reaches
  · rintro all _ ⟨listed, -⟩
    obtain ⟨declaration, member, rfl⟩ := List.mem_map.mp listed
    exact (each _ (free_bareDeclaration declaration)).mpr (all declaration member)

end Stylesheet

/-- All the texts of a style. -/
def Style.lines (style : Style) : List String := style.base :: style.variants.map (·.2)

namespace Stylesheet

open Delimiter

/-- A rule that a style takes its declarations from: the first of its class, or with media blocks the
first for a breakpoint. -/
def Styles (sheet : Stylesheet) (responsive : Bool) (name : String) (rule : Rule) : Prop :=
  sheet.findRule? name.toList = some rule ∨
    ∃ tiers tier, responsive = true ∧ tierRules sheet.atRules = .ok tiers ∧
      findRuleIn? name.toList (TierRules.at tier tiers) = some rule

theorem free_baseLine_iff (sheet : Stylesheet) (name : String) :
    brace.Free (sheet.baseLine name).text ↔
      ∀ rule, sheet.findRule? name.toList = some rule → ReachNoBrace sheet.values rule.declarations := by
  rw [baseLine]
  cases sheet.findRule? name.toList with
  | none => simp [lineOf, Free]
  | some rule => simp [lineOf, free_flatten_iff]

theorem free_variants_iff (sheet : Stylesheet) (tiers : TierRules) (name id : String) :
    (∀ line ∈ ((sheet.responsiveDraft tiers name).style id).variants.map (·.2),
        brace.Free line.toList) ↔
      ∀ tier rule, findRuleIn? name.toList (TierRules.at tier tiers) = some rule →
        ReachNoBrace sheet.values rule.declarations := by
  rw [variants_responsiveDraft]
  constructor
  · intro all tier rule found
    have listed : tier ∈ Breakpoint.all := by cases tier <;> decide
    have entry : (tier, String.ofList (flatten sheet.values rule.declarations).text) ∈
        Breakpoint.all.filterMap fun tier =>
          ((findRuleIn? name.toList (TierRules.at tier tiers)).map fun rule =>
            String.ofList (flatten sheet.values rule.declarations).text).map (tier, ·) :=
      List.mem_filterMap.mpr ⟨tier, listed, by rw [found]; rfl⟩
    have free := all _ (List.mem_map_of_mem entry)
    rw [String.toList_ofList] at free
    exact (free_flatten_iff _ _).mp free
  · intro all line member
    obtain ⟨entry, listed, rfl⟩ := List.mem_map.mp member
    obtain ⟨tier, -, made⟩ := List.mem_filterMap.mp listed
    obtain ⟨text, written, rfl⟩ := Option.map_eq_some_iff.mp made
    obtain ⟨rule, found, rfl⟩ := Option.map_eq_some_iff.mp written
    rw [String.toList_ofList]
    exact (free_flatten_iff _ _).mpr (all tier rule found)

theorem free_lines_iff {sheet : Stylesheet} {responsive : Bool} {draft : String → StyleDraft}
    (drafted : drafter responsive sheet = .ok draft) (name id : String) :
    (∀ line ∈ ((draft name).style id).lines, brace.Free line.toList) ↔
      ∀ rule, sheet.Styles responsive name rule → ReachNoBrace sheet.values rule.declarations := by
  have base : ((draft name).style id).base.toList = (sheet.baseLine name).text := by
    rw [StyleDraft.style, (drafter_ok drafted name).2, String.toList_ofList]
  rw [Style.lines, List.forall_mem_cons, base, free_baseLine_iff]
  obtain ⟨rfl, rfl⟩ | ⟨tiers, rfl, read, rfl⟩ := drafter_cases drafted
  · simp [Styles, StyleDraft.style, baseDraft]
  · rw [free_variants_iff]
    constructor
    · rintro ⟨first, others⟩ rule (found | ⟨tiers', tier, -, read', found⟩)
      · exact first rule found
      · obtain rfl := Except.ok.inj (read.symm.trans read')
        exact others tier rule found
    · intro all
      exact ⟨fun rule found => all rule (.inl found),
        fun tier rule found => all rule (.inr ⟨tiers, tier, rfl, read, found⟩)⟩

end Stylesheet

/-- A style has no braces exactly if no rule it is made of refers to a variable whose value brings
some in, and so no style has any where the values have none. -/
theorem compileStyles_braceFree_iff {responsive : Bool} {css : String} {classNames : List String}
    {ids : IdSource} {ledger after : Ledger} {collection : StyleCollection}
    (h : (compileStyles responsive css classNames).run ids ledger = (.ok collection, after)) :
    let sheet := parse css.toList
    (∀ style ∈ collection.styles,
      (∀ line ∈ style.lines, Delimiter.brace.Free line.toList) ↔
        ∀ rule, sheet.Styles responsive style.name rule →
          ReachNoBrace sheet.values rule.declarations) ∧
    ((∀ entry ∈ sheet.values, Delimiter.brace.Free entry.2) →
      ∀ style ∈ collection.styles, ∀ line ∈ style.lines, Delimiter.brace.Free line.toList) := by
  intro sheet
  obtain ⟨draft, drafted, rfl, -⟩ := exists_drafter h
  have each : ∀ style ∈ identified ids ledger.drawn (classNames.eraseDups.map draft),
      (∀ line ∈ style.lines, Delimiter.brace.Free line.toList) ↔
        ∀ rule, sheet.Styles responsive style.name rule →
          ReachNoBrace sheet.values rule.declarations := by
    intro style member
    obtain ⟨_, listed, eq⟩ := exists_draft_of_identified member
    obtain ⟨name, -, rfl⟩ := List.mem_map.mp listed
    rw [eq]
    have named : ((draft name).style style.id).name = name := (drafter_ok drafted name).1
    rw [named]
    exact free_lines_iff drafted name style.id
  refine ⟨each, fun free style member => (each style member).mpr fun rule _ => ?_⟩
  intro declaration _ names value reaches
  obtain ⟨name, entry⟩ := reaches.mem_values
  exact (free _ entry).of_subset (ownText_subset value)

/-- A value that refers to another one, and a fallback that does. -/
def chainedSheet : String :=
  ":root\x7b--x:1px;--y:var(--x)\x7d .a\x7btop:var(--y)\x7d @media (max-width:479px)" ++
    "\x7b.a\x7bleft:var(--z, var(--y))\x7d\x7d"

theorem compileStyles_chainedSheet :
    ∃ collection after,
      (compileStyles true chainedSheet ["a"]).run .tally .fresh = (.ok collection, after) ∧
        (∀ entry ∈ (parse chainedSheet.toList).values, Delimiter.brace.Free entry.2) ∧
        ∃ style rule, collection.styles = [style] ∧ style.lines.length = 2 ∧
          (∀ line ∈ style.lines, Delimiter.brace.Free line.toList) ∧
          (parse chainedSheet.toList).Styles true style.name rule ∧
          ReachNoBrace (parse chainedSheet.toList).values rule.declarations := by
  have compiled : ((compileStyles true chainedSheet ["a"]).run .tally .fresh).1.map
      (fun collection => collection.styles.map fun style => (style.name, style.lines.length)) =
      .ok [("a", 2)] := by decide +kernel
  have values : ∀ entry ∈ (parse chainedSheet.toList).values, Delimiter.brace.Free entry.2 := by
    decide +kernel
  have ruled : ((parse chainedSheet.toList).findRule? "a".toList).isSome := by decide +kernel
  obtain ⟨collection, after, ran, made⟩ := Build.exists_of_map_eq compiled
  obtain ⟨each, all⟩ := compileStyles_braceFree_iff ran
  obtain ⟨style, single, made⟩ := List.map_eq_singleton_iff.mp made
  obtain ⟨named, two⟩ := Prod.mk.inj made
  obtain ⟨rule, found⟩ := Option.isSome_iff_exists.mp ruled
  have styled : (parse chainedSheet.toList).Styles true style.name rule := .inl (named ▸ found)
  have member : style ∈ collection.styles := single ▸ List.mem_singleton_self style
  exact ⟨collection, after, ran, values, style, rule, single, two, all values style member, styled,
    (each style member).mp (all values style member) rule styled⟩

/-- A variable whose value is a block. -/
def blockValueSheet : String := ".a \x7b x: var(--a); \x7d :root \x7b --a: \x7bb\x7d; \x7d"

theorem compileStyles_blockValue :
    ∃ collection after style,
      (compileStyles false blockValueSheet ["a"]).run (.numbered "n") .fresh =
          (.ok collection, after) ∧
        style ∈ collection.styles ∧ style.base = "x: \x7bb\x7d" ∧
        ¬ Delimiter.brace.Free style.base.toList := by
  have ruled : (parse blockValueSheet.toList).findRule? "a".toList =
      some ⟨".a".toList, ["x: var(--a)".toList]⟩ := by decide +kernel
  have values : (parse blockValueSheet.toList).values = [("--a".toList, "\x7bb\x7d".toList)] := by
    decide +kernel
  have line : ((parse blockValueSheet.toList).baseLine "a").text = "x: \x7bb\x7d".toList := by
    rw [baseLine, ruled, lineOf, values]
    cbv
  refine ⟨_, _, ((parse blockValueSheet.toList).baseDraft "a").style "n-1",
    compileBase_run blockValueSheet ["a"] (.numbered "n") .fresh, List.mem_cons_self, ?_⟩
  have base : (((parse blockValueSheet.toList).baseDraft "a").style "n-1").base =
      "x: \x7bb\x7d" := congrArg String.ofList line
  rw [base]
  decide

end PageClip
