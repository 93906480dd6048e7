import PageClip.Proofs.Embed
import PageClip.Proofs.Markup.ScriptTag

/-!
# Scripts that are only referred to

The code of a page whose scripts are all kept elsewhere is one tag for each of
them. `extractScript_again` says when that code, read as a page, refers to the
same scripts: their sources are printed as they are, so none may hold a quote or
what reads as a reference.
-/

namespace PageClip

open Markup Text

namespace Markup

/-- The sources of the scripts of a document, in order. -/
def sourcesOf (document : Document) : List String :=
  (elementsNamed "script" document).map Element.source

/-- All scripts are kept elsewhere, and none has code in the page. -/
def RemoteOnly (document : Document) : Prop :=
  ∀ script ∈ elementsNamed "script" document, script.isRemote = true ∧ script.inlineBody = []

instance (document : Document) : Decidable (RemoteOnly document) := List.decidableBAll _ _

/-! ### Documents of printed tags -/

theorem sourcesOf_ofTokens (tokens : List Token) :
    (sourcesOf (.ofTokens tokens)).map String.toList = tokens.filterMap Token.source? := by
  have named : ∀ elements : List Element,
      ((elements.filter fun element => element.name = "script").map Element.source).map
          String.toList = (elements.map Element.tag).filterMap sourceOf? := by
    intro elements
    induction elements with
    | nil => rfl
    | cons element rest ih =>
      rw [List.map_cons, List.filterMap_cons, sourceOf?]
      by_cases script : element.name = "script"
      · rw [List.filter_cons_of_pos (by simpa using script), List.map_cons, List.map_cons, ih,
          Element.tag, if_pos script]
        rfl
      · rw [List.filter_cons_of_neg (by simpa using script), ih, Element.tag, if_neg script]
  have tags := tagsOf_ofTokens tokens
  rw [tagsOf] at tags
  rw [sourcesOf, elementsNamed, named, tags, List.filterMap_filterMap]
  rfl

/-- Nothing is open, and no element that has been closed has content. -/
structure Builder.Bare (builder : Builder) : Prop where
  stack : builder.stack = []
  credits : builder.credits = []
  leaves : ∀ item ∈ builder.items, ∀ element ∈ item.elements, element.children = []

namespace Builder.Bare

variable {builder : Builder}

theorem empty : Builder.empty.Bare := ⟨rfl, rfl, by simp [Builder.empty]⟩

theorem endText (bare : builder.Bare) : builder.endText.Bare := by
  unfold Builder.endText
  split
  · exact bare
  · exact ⟨bare.stack, bare.credits, List.forall_mem_cons.mpr ⟨by simp [Item.elements], bare.leaves⟩⟩

theorem text (bare : builder.Bare) (content : Text) : (builder.step (.text content)).Bare :=
  ⟨bare.stack, bare.credits, bare.leaves⟩

theorem tag (bare : builder.Bare) (source : Text) :
    ((tagTokens source).foldl Builder.step builder).Bare := by
  have ended := bare.endText
  have name : Builder.string scriptName = "script" := String.ofList_toList
  have unspent (attributes : List (String × String)) :
      (builder.push "script" attributes).credits = [] := ended.credits
  rw [tagTokens, List.foldl_cons, List.foldl_cons, List.foldl_nil, Builder.step, Builder.step]
  dsimp only
  rw [name, if_neg (by decide), if_neg (by decide), Builder.endTag, unspent, if_neg (by decide),
    Builder.close_push]
  refine ⟨ended.stack, ended.credits, List.forall_mem_cons.mpr ⟨?_, ended.leaves⟩⟩
  intro element member
  obtain rfl := List.mem_singleton.mp member
  rfl

end Builder.Bare

theorem bare_printedTokens (sources : List Text) {builder : Builder} (bare : builder.Bare) :
    ((printedTokens sources).foldl Builder.step builder).Bare := by
  induction sources generalizing builder with
  | nil => exact bare
  | cons source rest ih =>
    rw [printedTokens, List.foldl_append, List.foldl_append]
    apply ih
    cases rest with
    | nil => exact bare.tag source
    | cons => exact (bare.tag source).text _

theorem children_of_printedTokens (sources : List Text) :
    ∀ script ∈ elementsNamed "script" (Document.ofTokens (printedTokens sources)),
      script.children = [] := by
  intro script member
  have bare := (bare_printedTokens sources .empty).endText
  have listed := (List.mem_filter.mp member).1
  rw [Document.ofTokens, Builder.document] at listed
  rw [bare.stack, List.foldl_nil, Tree.elementsOf_eq_flatMap] at listed
  obtain ⟨item, inside, held⟩ := List.mem_flatMap.mp listed
  exact bare.leaves item (List.mem_reverse.mp inside) script held

end Markup

/-! ### Printed code -/

theorem addressed_of_isRemote {source : Text} (remote : isRemote source = true) :
    Addressed source := by
  cases source with
  | nil => exact absurd remote (by decide)
  | cons c rest =>
    refine ⟨c, rest, rfl, ?_⟩
    by_cases scheme : sameLetter 'h' c = true
    · have same : ('h' == c.toLower || false) = true := scheme
      rw [Bool.or_false, beq_iff_eq] at same
      exact .inr same.symm
    · have secure : dropCaseless? "https:".toList (c :: rest) = none := if_neg scheme
      have plain : dropCaseless? "http:".toList (c :: rest) = none := if_neg scheme
      rw [isRemote, secure, plain] at remote
      exact .inl (List.cons_prefix_cons.mp (List.isPrefixOf_iff_prefix.mp remote)).1.symm

theorem scriptParts_of_remote {script : Element} (remote : script.isRemote = true)
    (bodiless : script.inlineBody = []) :
    scriptParts script = ([scriptTag script.source], []) := by
  have solid : script.source.isEmpty = false := by
    rw [Bool.eq_false_iff]
    intro empty
    rw [Element.isRemote, String.isEmpty_iff.mp empty] at remote
    exact absurd remote (by decide)
  have address : isRemote script.source.toList = true := remote
  unfold scriptParts
  rw [← Element.source, ← Element.inlineBody, bodiless]
  simp only [address, solid]
  rfl

/-- The code of a document whose scripts are only referred to. -/
def referringCode (document : Document) : String :=
  "\n\n".intercalate ((sourcesOf document).map scriptTag)

theorem extractScript_remote {parser html : String} {document : Document}
    (parsed : parseWith parser html = .ok document) (remoteOnly : RemoteOnly document)
    (ids : IdSource) (ledger : Ledger) :
    (extractScript parser html).run ids ledger = (.ok (referringCode document), ledger) := by
  have each : ∀ script ∈ elementsNamed "script" document,
      scriptParts script = ([scriptTag script.source], []) :=
    fun script member => scriptParts_of_remote (remoteOnly script member).1 (remoteOnly script member).2
  have code : documentScript document = referringCode document := by
    rw [documentScript, referringCode, sourcesOf, List.map_map, List.map_eq_flatMap,
      List.flatMap_congr fun script member => congrArg Prod.fst (each script member)]
    rfl
  have events : scriptEvents document = [] :=
    List.flatMap_eq_nil_iff.mpr fun script member => congrArg Prod.snd (each script member)
  simp only [extractScript, Build.run_bind, Build.run_ofExcept, parsed, Build.run_noteAll, events,
    Build.run_pure, code, List.append_nil]

theorem toList_joinedTags (sources : List String) :
    ("\n\n".intercalate (sources.map scriptTag)).toList =
      printedTags (sources.map String.toList) := by
  rw [String.toList_intercalate]
  induction sources with
  | nil => rfl
  | cons source rest ih =>
    have tag : (scriptTag source).toList = tagStart ++ (source.toList ++ tagEnd) := by
      rw [scriptTag, String.toList_append, String.toList_append, List.append_assoc]
      rfl
    cases rest with
    | nil => simpa [printedTags, behindSource] using tag
    | cons next rest =>
      have printed : printedTags ((source :: next :: rest).map String.toList) =
          tagStart ++ (source.toList ++ tagEnd) ++ "\n\n".toList ++
            printedTags ((next :: rest).map String.toList) := by
        rw [List.append_assoc, List.append_assoc, List.append_assoc]
        rfl
      rw [printed, ← ih, ← tag]
      exact List.intercalate_cons_cons

/-! ### Reading the code as a page -/

theorem length_le_behindSource (sources : List Text) :
    3 * sources.length ≤ (behindSource sources).length := by
  induction sources with
  | nil => exact Nat.zero_le _
  | cons source rest ih =>
    have between : 3 ≤ betweenSources.length := by decide
    simp only [behindSource, List.length_append, List.length_cons]
    omega

/-- Reading has steps enough for all tags. -/
theorem exists_fuel (sources : List Text) :
    ∃ fuel, (printedTags sources).length + 2 = fuel + 3 * sources.length := by
  suffices enough : 3 * sources.length ≤ (printedTags sources).length + 2 by
    exact ⟨_, (Nat.sub_add_cancel enough).symm⟩
  cases sources with
  | nil => exact Nat.zero_le _
  | cons source rest =>
    have behind := length_le_behindSource rest
    have start : 3 ≤ tagStart.length := by decide
    simp only [printedTags, List.length_append, List.length_cons]
    omega

theorem lex?_referringCode {document : Document} {fuel : Nat}
    (enough : (printedTags ((sourcesOf document).map String.toList)).length + 2 =
      fuel + 3 * ((sourcesOf document).map String.toList).length) :
    lex? (referringCode document).toList =
      lexFrom (fuel + 3 * ((sourcesOf document).map String.toList).length) false none
        (printedTags ((sourcesOf document).map String.toList)) := by
  rw [referringCode, toList_joinedTags, lex?, enough]

theorem Markup.RemoteOnly.addressed {document : Document} (remoteOnly : RemoteOnly document) :
    ∀ source ∈ (sourcesOf document).map String.toList, Addressed source := by
  intro source member
  obtain ⟨shown, listed, rfl⟩ := List.mem_map.mp member
  obtain ⟨script, named, rfl⟩ := List.mem_map.mp listed
  exact addressed_of_isRemote (remoteOnly script named).1

theorem sources_parse_iff {document : Document} (remoteOnly : RemoteOnly document) :
    (parse (referringCode document)).map sourcesOf = .ok (sourcesOf document) ↔
      ∀ source ∈ sourcesOf document, Quotable source.toList := by
  obtain ⟨fuel, enough⟩ := exists_fuel ((sourcesOf document).map String.toList)
  have readsBack := readsBack_iff remoteOnly.addressed fuel
  rw [List.forall_mem_map] at readsBack
  rw [parse, lex?_referringCode enough, ← readsBack]
  cases lexFrom (fuel + 3 * ((sourcesOf document).map String.toList).length) false none
      (printedTags ((sourcesOf document).map String.toList)) with
  | none => simp [Except.map]
  | some tokens =>
    have injective : Function.Injective (List.map String.toList) :=
      List.map_injective_iff.mpr fun _ _ => String.toList_inj.mp
    simp only [Except.map, Except.ok.injEq, Option.some.injEq, exists_eq_left',
      ← sourcesOf_ofTokens, injective.eq_iff]

/-- The page that quotable sources are printed as refers to nothing else. -/
theorem parse_referringCode_quotable {document : Document} (remoteOnly : RemoteOnly document)
    (quotable : ∀ source ∈ sourcesOf document, Quotable source.toList) :
    ∃ again, parse (referringCode document) = .ok again ∧ sourcesOf again = sourcesOf document ∧
      RemoteOnly again := by
  obtain ⟨fuel, enough⟩ := exists_fuel ((sourcesOf document).map String.toList)
  have unquoted : ∀ source ∈ (sourcesOf document).map String.toList, '"' ∉ source :=
    List.forall_mem_map.mpr fun source member => (quotable source member).1
  have read : parse (referringCode document) =
      .ok (.ofTokens (printedTokens ((sourcesOf document).map String.toList))) := by
    rw [parse, lex?_referringCode enough, lexFrom_printedTags unquoted]
  have same := (sources_parse_iff remoteOnly).mpr quotable
  rw [read] at same
  have same := Except.ok.inj same
  refine ⟨_, read, same, fun script member => ⟨?_, ?_⟩⟩
  · have listed := List.mem_map_of_mem (f := Element.source) member
    rw [← sourcesOf, same] at listed
    obtain ⟨original, named, source⟩ := List.mem_map.mp listed
    rw [Element.isRemote, ← source]
    exact (remoteOnly original named).1
  · have leaf := children_of_printedTokens _ script member
    rw [Element.inlineBody, Element.soleText?, Element.toItem, leaf]
    rfl

/-- A page whose scripts are all kept elsewhere gives code that refers to the same scripts exactly
if their sources are quotable. Then the code of that code is the code itself. -/
theorem extractScript_again {parser html : String} {document : Document}
    (parsed : parseWith parser html = .ok document) (remoteOnly : RemoteOnly document)
    (ids : IdSource) (ledger : Ledger) :
    ∃ code, (extractScript parser html).run ids ledger = (.ok code, ledger) ∧
      ((parseWith parser code).map sourcesOf = .ok (sourcesOf document) ↔
        ∀ source ∈ sourcesOf document, Quotable source.toList) ∧
      ((∀ source ∈ sourcesOf document, Quotable source.toList) →
        (extractScript parser code).run ids ledger = (.ok code, ledger)) := by
  have known : parseWith parser (referringCode document) = parse (referringCode document) := by
    unfold parseWith at parsed ⊢
    split at parsed
    · next known => rw [if_pos known]
    · cases parsed
  refine ⟨_, extractScript_remote parsed remoteOnly ids ledger, ?_, fun quotable => ?_⟩
  · rw [known]
    exact sources_parse_iff remoteOnly
  · obtain ⟨again, read, same, remoteAgain⟩ := parse_referringCode_quotable remoteOnly quotable
    have printed : referringCode again = referringCode document := by
      rw [referringCode, same, referringCode]
    rw [← printed]
    exact extractScript_remote (printed ▸ known.trans read) remoteAgain ids ledger

/-- Two scripts that are kept elsewhere, with references in their addresses. -/
def referringPage : String :=
  "<p><script src=https://a.example/x.js?v=1&amp;w></script></p>" ++
    "<script src='//b.example/it&#39;s'></script>"

theorem referringPage_reads :
    (parseWith "html.parser" referringPage).map
        (fun document => (decide (RemoteOnly document), sourcesOf document)) =
      .ok (true, ["https://a.example/x.js?v=1&w", "//b.example/it's"]) := by
  decide +kernel

theorem extractScript_again_referringPage :
    ∃ document, parseWith "html.parser" referringPage = .ok document ∧ RemoteOnly document ∧
      (∀ source ∈ sourcesOf document, Quotable source.toList) ∧
      ∃ code, (extractScript "html.parser" referringPage).run .tally .fresh = (.ok code, .fresh) ∧
        ((parseWith "html.parser" code).map sourcesOf = .ok (sourcesOf document) ↔
          ∀ source ∈ sourcesOf document, Quotable source.toList) ∧
        ((∀ source ∈ sourcesOf document, Quotable source.toList) →
          (extractScript "html.parser" code).run .tally .fresh = (.ok code, .fresh)) := by
  have reads := referringPage_reads
  cases parsed : parseWith "html.parser" referringPage with
  | error fault => simp [parsed, Except.map] at reads
  | ok document =>
    rw [parsed] at reads
    obtain ⟨remoteOnly, sources⟩ := Prod.mk.inj (Except.ok.inj reads)
    have remoteOnly := of_decide_eq_true remoteOnly
    refine ⟨document, rfl, remoteOnly, ?_, extractScript_again parsed remoteOnly .tally .fresh⟩
    rw [sources]
    decide +kernel

/-- A script whose source looks like a reference once it has been read. -/
def lessThanPage : String := "<script src=\"//a.example/x?a&amp;lt;b\"></script>"

theorem extractScript_again_lessThanPage :
    (parseWith "html.parser" lessThanPage).map
        (fun document => (decide (RemoteOnly document), sourcesOf document)) =
      .ok (true, ["//a.example/x?a&lt;b"]) ∧
    (extractScript "html.parser" lessThanPage).run .tally .fresh =
      (.ok "<script src=\"//a.example/x?a&lt;b\"></script>", .fresh) ∧
    (extractScript "html.parser" "<script src=\"//a.example/x?a&lt;b\"></script>").run
        .tally .fresh ≠ (.ok "<script src=\"//a.example/x?a&lt;b\"></script>", .fresh) := by
  have again : (extractScript "html.parser" "<script src=\"//a.example/x?a&lt;b\"></script>").run
      .tally .fresh = (.ok "<script src=\"//a.example/x?a<b\"></script>", .fresh) := by
    decide +kernel
  refine ⟨by decide +kernel, by decide +kernel, ?_⟩
  rw [again]
  decide

end PageClip
