import PageClip.Conversion
import PageClip.Proofs.Chunk.Order
import PageClip.Proofs.Style.Ids

/-!
# Converted pages

Every page that is converted comes out whole in its chunks, and each chunk can
be pasted on its own.
-/

namespace PageClip

open PageClip.Tree

/-- The ids of the styles to which a node refers. -/
def Node.styleIds : Node → List String
  | .element node => node.classes
  | .text _ => []

/-- A paste that refers to its own nodes and styles only. -/
structure Clipboard.SelfContained (clipboard : Clipboard) : Prop where
  children : ∀ node ∈ clipboard.nodes, ∀ child ∈ node.children,
    child ∈ clipboard.nodes.map Node.id
  styles : ∀ node ∈ clipboard.nodes, ∀ id ∈ node.styleIds,
    (clipboard.styles.map Style.id).count id = 1

theorem mem_of_mem_styleIds {classIds : ClassIds} {attributes : Attributes} {id : String}
    (h : id ∈ styleIds classIds attributes) : id ∈ classIds.map (·.2) := by
  obtain ⟨name, -, found⟩ := List.mem_filterMap.mp h
  exact List.mem_map.mpr ⟨(name, id), Table.mem_of_find? found, rfl⟩

theorem Tree.Compiled.mem_classIds {classIds : ClassIds} {ids : IdSource} {insideForm : Bool}
    {first : Nat} {items : List Markup.Item} {nodes : List Node} {own : List String}
    (h : Compiled classIds ids insideForm first items nodes own) {node : Node} {id : String}
    (member : node ∈ nodes) (style : id ∈ node.styleIds) : id ∈ classIds.map (·.2) := by
  induction h with
  | nil => simp at member
  | skipped _ _ ih => exact ih member
  | text _ _ ih =>
    rcases List.mem_cons.mp member with rfl | later
    · simp [Node.styleIds] at style
    · exact ih later
  | element _ _ _ ihBelow ihRest =>
    rcases List.mem_cons.mp member with rfl | inside
    · exact mem_of_mem_styleIds style
    · exact (List.mem_append.mp inside).elim ihBelow ihRest

theorem compile_ok {parser : String} {classIds : ClassIds} {html : String} {ids : IdSource}
    {ledger after : Ledger} {tree : Tree}
    (h : (Tree.compile parser classIds html).run ids ledger = (.ok tree, after)) :
    ∃ document, Compiled classIds ids false ledger.drawn
      ((contentRoots document).map Markup.Element.toItem) tree.nodes tree.rootIds := by
  unfold Tree.compile at h
  obtain ⟨document, _, read, h⟩ := Build.bind_ok h
  obtain ⟨-, rfl⟩ := Build.ofExcept_ok read
  exact ⟨document, (compiled_of_compileDocument h).1⟩

/-- All that a conversion does: the runs that it is made of, each going on where the one before has
ended, and the code that it puts together. -/
theorem convert_run {settings : Settings} {html css js : String} {ids : IdSource}
    {ledger after : Ledger} {conversion : Conversion}
    (h : (convert settings html css js).run ids ledger = (.ok conversion, after)) :
    ∃ styled compiled cut extracted found,
      (compileStyles settings.responsive css (stylesheetClasses css)).run ids ledger =
        (.ok conversion.styles, styled) ∧
      (Tree.compile settings.parser conversion.styles.classIds html).run ids styled =
        (.ok conversion.tree, compiled) ∧
      (cutChunks conversion.tree.nodes conversion.tree.rootIds settings.limit).run ids compiled =
        (.ok conversion.chunks, cut) ∧
      (extractScript settings.parser html).run ids cut = (.ok found, extracted) ∧
      conversion.script = joinScripts [found, js] ∧
      conversion.code =
        if settings.includeCode then customCode conversion.styles.advanced conversion.script
        else "" := by
  unfold convert at h
  obtain ⟨styles, styled, first, h⟩ := Build.bind_ok h
  obtain ⟨tree, compiled, second, h⟩ := Build.bind_ok h
  obtain ⟨chunks, cut, third, h⟩ := Build.bind_ok h
  obtain ⟨found, extracted, fourth, h⟩ := Build.bind_ok h
  obtain ⟨_, _, -, h⟩ := Build.bind_ok h
  obtain ⟨rfl, -⟩ := Build.pure_ok h
  exact ⟨styled, compiled, cut, extracted, found, first, second, third, fourth, rfl, rfl⟩

theorem cutChunks_ok {nodes : List Node} {rootIds : List String} {limit : Limit} {ids : IdSource}
    {ledger after : Ledger} {chunks : List Chunk}
    (h : (cutChunks nodes rootIds limit).run ids ledger = (.ok chunks, after)) :
    chunksOf nodes rootIds limit = .ok chunks := by
  unfold cutChunks at h
  obtain ⟨_, _, made, h⟩ := Build.bind_ok h
  obtain ⟨_, _, -, h⟩ := Build.bind_ok h
  obtain ⟨rfl, -⟩ := Build.pure_ok h
  exact (Build.ofExcept_ok made).1

/-- The stages of a conversion: styles, then nodes with the ids that come behind those of the
styles, then chunks of the nodes. -/
theorem convert_ok {settings : Settings} {html css js : String} {ids : IdSource}
    {ledger after : Ledger} {conversion : Conversion}
    (h : (convert settings html css js).run ids ledger = (.ok conversion, after)) :
    conversion.styles.classIds =
        conversion.styles.styles.map (fun style => (style.name, style.id)) ∧
      conversion.styles.styles.map Style.id =
        (List.range' ledger.drawn conversion.styles.styles.length).map ids ∧
      (∃ document, Compiled conversion.styles.classIds ids false
        (ledger.drawn + conversion.styles.styles.length)
        ((contentRoots document).map Markup.Element.toItem) conversion.tree.nodes
        conversion.tree.rootIds) ∧
      chunksOf conversion.tree.nodes conversion.tree.rootIds settings.limit =
        .ok conversion.chunks := by
  obtain ⟨styled, _, _, _, _, stylesRan, treeRan, cut, -⟩ := convert_run h
  obtain ⟨named, listed, drawn⟩ := compileStyles_ok stylesRan
  obtain ⟨document, nodes⟩ := compile_ok treeRan
  rw [drawn] at nodes
  exact ⟨named, listed, ⟨document, nodes⟩, cutChunks_ok cut⟩

theorem nodup_ids {settings : Settings} {html css js : String} {ids : IdSource}
    {ledger after : Ledger} {conversion : Conversion} (distinct : Function.Injective ids)
    (h : (convert settings html css js).run ids ledger = (.ok conversion, after)) :
    (conversion.styles.styles.map Style.id ++ conversion.tree.nodes.map Node.id).Nodup := by
  obtain ⟨-, styles, ⟨document, compiled⟩, -⟩ := convert_ok h
  rw [styles, compiled.map_id, ← List.map_append, List.range'_append_1]
  exact List.Nodup.map distinct List.nodup_range'

/-- The chunks of a conversion hold its nodes one after another, each chunk can be pasted on its own,
and no id is given twice. A limit that admits no node and a source with an empty id lead to a fault. -/
theorem convert_chunks {settings : Settings} {html css js : String} {ids : IdSource}
    {ledger after : Ledger} {conversion : Conversion} (distinct : Function.Injective ids)
    (h : (convert settings html css js).run ids ledger = (.ok conversion, after)) :
    conversion.chunkClipboards.flatMap Clipboard.nodes = conversion.clipboard.nodes ∧
      (∀ clipboard ∈ conversion.chunkClipboards, clipboard.SelfContained) ∧
      (conversion.clipboard.styles.map Style.id ++
        conversion.clipboard.nodes.map Node.id).Nodup := by
  have given := nodup_ids distinct h
  obtain ⟨stylesOnce, nodesOnce, -⟩ := List.nodup_append.mp given
  obtain ⟨named, -, ⟨document, compiled⟩, made⟩ := convert_ok h
  have layout := compiled.layout
  obtain ⟨partition, whole⟩ := chunks_of_layout layout nodesOnce made
  refine ⟨?_, ?_, given⟩
  · rw [Conversion.chunkClipboards, List.flatMap_map]
    exact whole
  · intro clipboard listed
    obtain ⟨chunk, member, rfl⟩ := List.mem_map.mp listed
    constructor
    · intro node inside child below
      have inTree := (partition.ordered chunk member).subset inside
      obtain ⟨other, otherInTree, rfl⟩ := List.mem_map.mp (layout.child_mem inTree below)
      have found := NodeTable.find?_of_mem nodesOnce inTree
      exact List.mem_map_of_mem
        (partition.whole chunk member node inside other otherInTree (.single ⟨node, found, below⟩))
    · intro node inside id style
      have inTree := (partition.ordered chunk member).subset inside
      have known := compiled.mem_classIds inTree style
      rw [named, List.map_map] at known
      exact List.count_eq_one_of_mem stylesOnce known

/-- The conversion of a page with nested nodes and styles into a chunk for each of its roots. -/
def crowdedRun : Except Fault Conversion × Ledger :=
  (convert ⟨.integer 1, true, "html.parser", true⟩
    "<div class=a>x<b class='a b'>y</b></div><p>z</p>" ".a {color: red} .b {margin: 0}" "").run
      .tally .fresh

theorem convert_chunks_crowded :
    Function.Injective IdSource.tally ∧ ∃ conversion after,
      crowdedRun = (.ok conversion, after) ∧
        conversion.chunkClipboards.flatMap Clipboard.nodes = conversion.clipboard.nodes ∧
        (∀ clipboard ∈ conversion.chunkClipboards, clipboard.SelfContained) ∧
        (conversion.clipboard.styles.map Style.id ++
          conversion.clipboard.nodes.map Node.id).Nodup := by
  have returns : crowdedRun.1.isOk = true := by decide +kernel
  rcases outcome : crowdedRun with ⟨fault | conversion, after⟩
  · rw [outcome] at returns
    cases returns
  · unfold crowdedRun at outcome
    have laws := convert_chunks IdSource.tally_injective outcome
    exact ⟨IdSource.tally_injective, conversion, after, rfl, laws⟩

end PageClip
