import PageClip.Proofs.Conversion
import PageClip.Proofs.Tree.Place

/-!
# Settings that leave the tree alone

Compiling styles with media blocks and without draws the same ids in the same order, so
the nodes of a page get the same ids either way. The events that the two note differ;
compiling a page ignores them (`compile_ignoresEvents`).
-/

namespace PageClip

open Stylesheet PageClip.Tree

/-! ### Trees -/

theorem payload_ignoresEvents (tag : String) (kind : NodeKind) (attributes : Attributes)
    (element : Option Markup.Element) :
    (payload tag kind attributes element).IgnoresEvents := by
  unfold payload
  split
  · exact .bind (.note _) fun _ => .pure _
  · exact .bind (.ofExcept _) fun _ => .bind (.ofExcept _) fun _ => .pure _

theorem elementNode_ignoresEvents (classIds : ClassIds) (element : Markup.Element)
    (insideForm : Bool) (id : String) (childIds : List String) :
    (elementNode classIds element insideForm id childIds).IgnoresEvents :=
  .bind (.ofExcept _) fun _ => .bind (payload_ignoresEvents _ _ _ _) fun _ => .ofExcept _

theorem compileItems_ignoresEvents (classIds : ClassIds) (insideForm : Bool)
    (items : List Markup.Item) : (compileItems classIds insideForm items).IgnoresEvents := by
  induction items using items_induction generalizing insideForm with
  | nil =>
    rw [compileItems]
    exact .pure _
  | text kind content rest ih =>
    rw [compileItems, compileItem]
    refine .bind ?_ fun _ => .bind (ih insideForm) fun _ => .pure _
    split
    · exact .bind .newId fun _ => .bind (.ofExcept _) fun _ => .pure _
    · exact .pure _
  | element name attributes children rest ihBelow ihRest =>
    rw [compileItems, compileItem]
    refine .bind ?_ fun _ => .bind (ihRest insideForm) fun _ => .pure _
    exact .bind .newId fun _ => .bind (ihBelow _) fun _ =>
      .bind (elementNode_ignoresEvents _ _ _ _ _) fun _ => .pure _

theorem compile_ignoresEvents (parser : String) (classIds : ClassIds) (html : String) :
    (Tree.compile parser classIds html).IgnoresEvents := by
  refine .bind (.ofExcept _) fun document => ?_
  rw [compileDocument_eq]
  exact .bind (compileItems_ignoresEvents _ _ _) fun _ => .bind (.note _) fun _ => .pure _

/-! ### Styles -/

theorem identified_baseDraft (sheet : Stylesheet) (tiers : TierRules) (ids : IdSource)
    (drawn : Nat) (names : List String) :
    identified ids drawn (names.map sheet.baseDraft) =
      (identified ids drawn (names.map (sheet.responsiveDraft tiers))).map fun style =>
        { style with variants := [] } := by
  induction names generalizing drawn with
  | nil => rfl
  | cons name rest ih =>
    rw [List.map_cons, List.map_cons, identified, identified, List.map_cons, ih]
    rfl

theorem base_of_responsive {css : String} {classNames : List String} {ids : IdSource}
    {ledger after later : Ledger} {base responsive : StyleCollection}
    (plain : (compileStyles false css classNames).run ids ledger = (.ok base, after))
    (full : (compileStyles true css classNames).run ids ledger = (.ok responsive, later)) :
    base = { responsive with
        styles := responsive.styles.map fun style => { style with variants := [] } } ∧
      after.drawn = later.drawn := by
  obtain ⟨draft, drafted, rfl, drawn⟩ := exists_drafter plain
  obtain ⟨draft', drafted', rfl, drawn'⟩ := exists_drafter full
  refine ⟨?_, drawn.trans drawn'.symm⟩
  obtain ⟨-, rfl⟩ | ⟨_, asked, -⟩ := drafter_cases drafted
  · obtain ⟨asked, -⟩ | ⟨tiers, -, -, rfl⟩ := drafter_cases drafted'
    · cases asked
    · rw [StyleCollection.ofStyles, identified_baseDraft _ tiers, StyleCollection.ofStyles,
        List.map_map]
      rfl
  · cases asked

theorem classIds_of_run {responsive : Bool} {css : String} {classNames : List String}
    {ids : IdSource} {ledger after : Ledger} {collection : StyleCollection}
    (h : (compileStyles responsive css classNames).run ids ledger = (.ok collection, after)) :
    collection.classIds = classNames.eraseDups.zip
        ((List.range' ledger.drawn classNames.eraseDups.length).map ids) ∧
      after.drawn = ledger.drawn + classNames.eraseDups.length := by
  obtain ⟨table, listed, drawn⟩ := compileStyles_ok h
  have named := map_name_of_run h
  have counted : collection.styles.length = classNames.eraseDups.length := by
    rw [← named, List.length_map]
  rw [counted] at listed drawn
  rw [table, ← listed, ← named, List.zip_map']
  exact ⟨rfl, named ▸ drawn⟩

/-! ### Conversions -/

theorem convert_tree {settings : Settings} {html css js : String} {ids : IdSource}
    {ledger after : Ledger} {conversion : Conversion}
    (h : (convert settings html css js).run ids ledger = (.ok conversion, after)) :
    ∃ styles styled compiled,
      (compileStyles settings.responsive css (stylesheetClasses css)).run ids ledger =
        (.ok styles, styled) ∧
      (Tree.compile settings.parser styles.classIds html).run ids styled =
        (.ok conversion.tree, compiled) := by
  obtain ⟨styled, compiled, _, _, _, first, second, -⟩ := convert_run h
  exact ⟨conversion.styles, styled, compiled, first, second⟩

/-- Leaving the media blocks out takes the variants from the styles and nothing else. Of the settings
of a conversion only the parser bears on the tree. -/
theorem convert_settings :
    (∀ css classNames ids ledger base responsive after later,
      (compileBase css classNames).run ids ledger = (.ok base, after) →
      (compileResponsive css classNames).run ids ledger = (.ok responsive, later) →
        base = { responsive with
          styles := responsive.styles.map fun style => { style with variants := [] } } ∧
        after.drawn = later.drawn) ∧
    ∀ (settings other : Settings) html css js ids ledger first second after later,
      settings.parser = other.parser →
      (convert settings html css js).run ids ledger = (.ok first, after) →
      (convert other html css js).run ids ledger = (.ok second, later) →
        first.tree = second.tree := by
  constructor
  · intro css classNames ids ledger base responsive after later plain full
    exact base_of_responsive plain full
  · intro settings other html css js ids ledger first second after later parser ran again
    obtain ⟨styles, styled, compiled, stylesRan, treeRan⟩ := convert_tree ran
    obtain ⟨styles', styled', compiled', stylesRan', treeRan'⟩ := convert_tree again
    obtain ⟨table, drawn⟩ := classIds_of_run stylesRan
    obtain ⟨table', drawn'⟩ := classIds_of_run stylesRan'
    -- Both trees start from the same table at the same draw; only the events so far may differ.
    rw [table, parser] at treeRan
    rw [table'] at treeRan'
    exact (compile_ignoresEvents _ _ _).value_eq (drawn.trans drawn'.symm) treeRan treeRan'

def narrowPage : String :=
  ".b \x7b top: 1px \x7d @media (max-width: 479px) \x7b .b \x7b left: 0 \x7d \x7d"

/-- The conversion of a page that has a rule for narrow screens. -/
def narrowRun (settings : Settings) : Except Fault Conversion × Ledger :=
  (convert settings "<p class=b>x<i>y</i></p>" narrowPage "").run .tally .fresh

theorem narrowRun_settings :
    ∃ base responsive wide narrow after later,
      (compileBase narrowPage ["b", "b"]).run .tally .fresh = (.ok base, after) ∧
      (compileResponsive narrowPage ["b", "b"]).run .tally .fresh = (.ok responsive, later) ∧
      (narrowRun ⟨.integer 3, false, "html.parser", false⟩).1 = .ok wide ∧
      (narrowRun .standard).1 = .ok narrow ∧
      responsive.styles.map (fun style => style.variants.map Prod.fst) = [[.tiny]] ∧
      base.styles = responsive.styles.map (fun style => { style with variants := [] }) ∧
      after.drawn = later.drawn ∧ wide.tree = narrow.tree := by
  have plain : ((compileBase narrowPage ["b", "b"]).run .tally .fresh).1.map
      (fun _ => ()) = .ok () := by decide +kernel
  have full : ((compileResponsive narrowPage ["b", "b"]).run .tally .fresh).1.map
      (fun collection => collection.styles.map fun style => style.variants.map Prod.fst) =
      .ok [[.tiny]] := by decide +kernel
  have first : (narrowRun ⟨.integer 3, false, "html.parser", false⟩).1.map (fun _ => ()) =
      .ok () := by decide +kernel
  have second : (narrowRun .standard).1.map (fun _ => ()) = .ok () := by decide +kernel
  obtain ⟨base, after, plain, -⟩ := Build.exists_of_map_eq plain
  obtain ⟨responsive, later, full, tiers⟩ := Build.exists_of_map_eq full
  obtain ⟨wide, _, first, -⟩ := Build.exists_of_map_eq first
  obtain ⟨narrow, _, second, -⟩ := Build.exists_of_map_eq second
  obtain ⟨stripped, drawn⟩ := convert_settings.1 _ _ _ _ _ _ _ _ plain full
  exact ⟨base, responsive, wide, narrow, after, later, plain, full, congrArg Prod.fst first,
    congrArg Prod.fst second, tiers, congrArg StyleCollection.styles stripped, drawn,
    convert_settings.2 ⟨.integer 3, false, "html.parser", false⟩ .standard _ _ _ _ _ _ _ _ _ rfl
      first second⟩

end PageClip
