import Mathlib.Data.List.Nodup
import PageClip.Proofs.Conversion
import PageClip.Proofs.Json.Reader
import PageClip.Proofs.Style.FirstMatch
import PageClip.Proofs.Tree.Place

/-!
# Pastes that are read back

The text of a paste is read back as the document that it was made from, in the compact form
and with every indentation. `Clipboard.read?_render` asks that nodes, styles and assets hold
no floating-point numbers and repeat no keys; everything that comes out of a conversion is so.
-/

namespace PageClip

open Json

/-! ### Payloads that are kept -/

def Payload.IsExact : Payload → Prop
  | .standard data =>
    (Json.object data.attributes).isExact = true ∧ (Json.object data.extra).isExact = true
  | .custom _ => True

def Node.IsExact : Node → Prop
  | .element node => node.data.IsExact
  | .text _ => True

/-- A paste whose nodes, styles and assets have distinct keys and no floating-point numbers. -/
structure Clipboard.IsExact (clipboard : Clipboard) : Prop where
  nodes : ∀ node ∈ clipboard.nodes, node.IsExact
  styles : ∀ style ∈ clipboard.styles, (Table.keys style.variants).Nodup
  assets : ∀ asset ∈ clipboard.assets, asset.isExact = true

theorem ElementData.isExact_toJson {data : ElementData}
    (attributes : (Json.object data.attributes).isExact = true)
    (extra : (Json.object data.extra).isExact = true) : data.toJson.isExact = true := by
  have shape : ∀ field ∈ data.shapeFields, field.2.isExact = true := by
    unfold shapeFields
    split <;> simp
  have trailer : ∀ field ∈ data.trailer, field.2.isExact = true := by
    simp [ElementData.trailer, Table.keys]
  have front : ∀ field ∈ [("attr", .object data.attributes), ("xattr", emptyArray)],
      field.2.isExact = true := by
    simpa using attributes
  have own := (isExact_object _).mp extra
  refine isExact_ofList (List.forall_mem_append.mpr ⟨?_, trailer⟩)
  exact List.forall_mem_append.mpr ⟨List.forall_mem_append.mpr ⟨front, shape⟩, own.2⟩

theorem CustomData.isExact_toJson (data : CustomData) : data.toJson.isExact = true := by
  rw [toJson, isExact_object]
  refine ⟨by simp [Table.keys], ?_⟩
  simp only [List.forall_mem_cons, isExact_bool, isExact_string, true_and]
  exact ⟨isExact_map fun _ _ => by simp [Table.keys], List.forall_mem_nil _⟩

theorem Payload.isExact_toJson {data : Payload} (exact : data.IsExact) :
    data.toJson.isExact = true := by
  cases data with
  | standard data => exact data.isExact_toJson exact.1 exact.2
  | custom data => exact data.isExact_toJson

theorem Node.isExact_toJson {node : Node} (exact : node.IsExact) : node.toJson.isExact = true := by
  cases node with
  | element node =>
    have data : node.data.toJson.isExact = true := Payload.isExact_toJson exact
    rw [toJson, ElementNode.toJson, isExact_object]
    simp [Table.keys, data]
  | text node =>
    rw [toJson, TextNode.toJson, isExact_object]
    simp [Table.keys]

theorem Breakpoint.name_injective : Function.Injective name := by
  intro tier other same
  revert same
  cases tier <;> cases other <;> decide

theorem Style.isExact_toJson {style : Style} (distinct : (Table.keys style.variants).Nodup) :
    style.toJson.isExact = true := by
  have names : (style.variants.map fun variant => variant.1.name).Nodup := by
    simpa [Table.keys, Function.comp_def] using distinct.map Breakpoint.name_injective
  rw [toJson, isExact_object]
  refine ⟨by simp [Table.keys], ?_⟩
  simp only [List.forall_mem_cons, isExact_null, isExact_bool, isExact_string, isExact_emptyArray,
    true_and]
  exact ⟨isExact_mapFields names fun _ _ => by simp [Table.keys], List.forall_mem_nil _⟩

theorem Clipboard.isExact_toJson {clipboard : Clipboard} (exact : clipboard.IsExact) :
    clipboard.toJson.isExact = true := by
  have nodes : (Json.array (clipboard.nodes.map Node.toJson)).isExact = true :=
    isExact_map fun node member => Node.isExact_toJson (exact.nodes node member)
  have styles : (Json.array (clipboard.styles.map Style.toJson)).isExact = true :=
    isExact_map fun style member => Style.isExact_toJson (exact.styles style member)
  have assets : (Json.array clipboard.assets).isExact = true :=
    (isExact_array _).mpr exact.assets
  rw [toJson, isExact_object]
  simp [Table.keys, - isExact_array, nodes, styles, assets]

/-! ### Payloads of compiled elements -/

namespace Attributes

variable (attributes : Attributes)

theorem exists_maxLength {fallback : Int} {field : String × Json}
    (h : attributes.maxLength fallback = .ok field) : ∃ n, field = ("maxlength", .integer n) := by
  unfold maxLength at h
  cases read : leadingInteger (attributes.get "maxlength") fallback with
  | error fault => rw [read] at h; cases h
  | ok n =>
    rw [read] at h
    exact ⟨n, (Except.ok.inj h).symm⟩

theorem isExact_inputBag {fields : Fields} (h : attributes.inputBag = .ok fields) :
    (Json.object (attributes.copy "id" :: fields)).isExact = true := by
  unfold inputBag at h
  dsimp only at h
  split at h
  · obtain rfl := Except.ok.inj h
    simp [Table.keys, copy, copyOr, dataName, present]
  split at h
  · obtain rfl := Except.ok.inj h
    simp [Table.keys, copy, dataName, present]
  · cases read : attributes.maxLength 256 with
    | error fault => rw [read] at h; cases h
    | ok field =>
      rw [read] at h
      obtain rfl := Except.ok.inj h
      obtain ⟨n, rfl⟩ := attributes.exists_maxLength read
      simp [Table.keys, copy, dataName, present]

theorem isExact_textareaBag {fields : Fields} (h : attributes.textareaBag = .ok fields) :
    (Json.object (attributes.copy "id" :: fields)).isExact = true := by
  unfold textareaBag at h
  cases read : attributes.maxLength 5000 with
  | error fault => rw [read] at h; cases h
  | ok field =>
    rw [read] at h
    obtain rfl := Except.ok.inj h
    obtain ⟨n, rfl⟩ := attributes.exists_maxLength read
    simp [Table.keys, copy, dataName, present]

theorem isExact_tagBag {tag : String} {fields : Fields} (h : attributes.tagBag tag = .ok fields) :
    (Json.object (attributes.copy "id" :: fields)).isExact = true := by
  unfold tagBag at h
  split at h
  case h_3 => exact attributes.isExact_inputBag h
  case h_4 => exact attributes.isExact_textareaBag h
  all_goals
    obtain rfl := Except.ok.inj h
    simp [Table.keys, imageBag, formBag, selectBag, copy, copyOr, dataName, present]

theorem isExact_bag {tag : String} {fields : Fields} (h : attributes.bag tag = .ok fields) :
    (Json.object fields).isExact = true := by
  unfold bag at h
  cases read : attributes.tagBag tag with
  | error fault => rw [read] at h; cases h
  | ok more =>
    rw [read] at h
    obtain rfl := Except.ok.inj h
    exact attributes.isExact_tagBag read

end Attributes

theorem isExact_kindFields (kind : NodeKind) (attributes : Attributes)
    (element : Option Markup.Element) :
    (Json.object (kindFields kind attributes element)).isExact = true := by
  cases kind
  case formSelect =>
    simp only [kindFields, formPart, isExact_object, List.forall_mem_cons, isExact_string, true_and]
    refine ⟨by simp [Table.keys], ⟨by simp [Table.keys], ?_, List.forall_mem_nil _⟩,
      List.forall_mem_nil _⟩
    exact isExact_map fun _ _ => by simp [optionJson, Table.keys]
  all_goals simp [kindFields, Table.keys, formPart, linkFields, choicePart]

/-! ### Compiled nodes -/

open PageClip.Tree

variable {ids : IdSource} {ledger after : Ledger}

theorem isExact_payload {tag : String} {kind : NodeKind} {attributes : Attributes}
    {element : Option Markup.Element} {data : Payload}
    (h : (payload tag kind attributes element).run ids ledger = (.ok data, after)) :
    data.IsExact := by
  unfold payload at h
  split at h
  · obtain ⟨_, _, -, h⟩ := Build.bind_ok h
    obtain ⟨rfl, -⟩ := Build.pure_ok h
    trivial
  · obtain ⟨bag, _, bagged, h⟩ := Build.bind_ok h
    obtain ⟨data, _, made, h⟩ := Build.bind_ok h
    obtain ⟨rfl, -⟩ := Build.pure_ok h
    have read := (Build.ofExcept_ok bagged).1
    have shaped := (Build.ofExcept_ok made).1
    unfold ElementData.make at shaped
    split at shaped
    · obtain rfl := Except.ok.inj shaped
      exact ⟨attributes.isExact_bag read, isExact_kindFields kind attributes element⟩
    · cases shaped

theorem isExact_elementNode {classIds : ClassIds} {element : Markup.Element} {insideForm : Bool}
    {id : String} {childIds : List String} {node : Node}
    (h : (elementNode classIds element insideForm id childIds).run ids ledger = (.ok node, after)) :
    node.IsExact := by
  unfold elementNode at h
  obtain ⟨kind, _, -, h⟩ := Build.bind_ok h
  obtain ⟨data, _, paid, h⟩ := Build.bind_ok h
  have made := (Build.ofExcept_ok h).1
  unfold ElementNode.make at made
  split at made
  · cases made
  · obtain rfl := Except.ok.inj made
    exact isExact_payload paid

theorem isExact_compileItems {classIds : ClassIds} {insideForm : Bool} {items : List Markup.Item}
    {nodes : List Node} {own : List String}
    (h : (compileItems classIds insideForm items).run ids ledger = (.ok (nodes, own), after)) :
    ∀ node ∈ nodes, node.IsExact := by
  induction items using items_induction generalizing insideForm ledger after nodes own with
  | nil =>
    rw [compileItems] at h
    obtain ⟨same, -⟩ := Build.pure_ok h
    obtain ⟨rfl, rfl⟩ := Prod.mk.inj same
    exact List.forall_mem_nil _
  | text kind content rest ih =>
    rw [compileItems, compileItem] at h
    obtain ⟨⟨first, _⟩, _, here, h⟩ := Build.bind_ok h
    obtain ⟨⟨later, _⟩, _, ran, h⟩ := Build.bind_ok h
    obtain ⟨same, -⟩ := Build.pure_ok h
    obtain ⟨rfl, rfl⟩ := Prod.mk.inj same
    refine List.forall_mem_append.mpr ⟨?_, ih ran⟩
    split at here
    · obtain ⟨_, _, -, here⟩ := Build.bind_ok here
      obtain ⟨node, _, made, here⟩ := Build.bind_ok here
      obtain ⟨same, -⟩ := Build.pure_ok here
      obtain ⟨rfl, rfl⟩ := Prod.mk.inj same
      obtain rfl := textNode_ok (Build.ofExcept_ok made).1
      exact List.forall_mem_singleton.mpr trivial
    · obtain ⟨same, -⟩ := Build.pure_ok here
      obtain ⟨rfl, rfl⟩ := Prod.mk.inj same
      exact List.forall_mem_nil _
  | element name attributes children rest ihBelow ihRest =>
    rw [compileItems, compileItem] at h
    obtain ⟨⟨first, _⟩, _, here, h⟩ := Build.bind_ok h
    obtain ⟨⟨later, _⟩, _, ran, h⟩ := Build.bind_ok h
    obtain ⟨same, -⟩ := Build.pure_ok h
    obtain ⟨rfl, rfl⟩ := Prod.mk.inj same
    refine List.forall_mem_append.mpr ⟨?_, ihRest ran⟩
    obtain ⟨_, _, -, here⟩ := Build.bind_ok here
    obtain ⟨⟨below, _⟩, _, inner, here⟩ := Build.bind_ok here
    obtain ⟨node, _, made, here⟩ := Build.bind_ok here
    obtain ⟨same, -⟩ := Build.pure_ok here
    obtain ⟨rfl, rfl⟩ := Prod.mk.inj same
    exact List.forall_mem_cons.mpr ⟨isExact_elementNode made, ihBelow inner⟩

theorem isExact_compile {parser : String} {classIds : ClassIds} {html : String} {tree : Tree}
    (h : (Tree.compile parser classIds html).run ids ledger = (.ok tree, after)) :
    ∀ node ∈ tree.nodes, node.IsExact := by
  unfold Tree.compile at h
  obtain ⟨document, _, -, h⟩ := Build.bind_ok h
  rw [compileDocument_eq, compileByRecursion] at h
  obtain ⟨⟨nodes, rootIds⟩, _, ran, h⟩ := Build.bind_ok h
  obtain ⟨_, _, -, h⟩ := Build.bind_ok h
  obtain ⟨rfl, -⟩ := Build.pure_ok h
  exact isExact_compileItems ran

theorem nodup_variants_of_run {responsive : Bool} {css : String} {classNames : List String}
    {collection : StyleCollection}
    (h : (compileStyles responsive css classNames).run ids ledger = (.ok collection, after)) :
    ∀ style ∈ collection.styles, (Table.keys style.variants).Nodup := by
  obtain ⟨draft, drafted, rfl, -⟩ := exists_drafter h
  intro style member
  obtain ⟨_, listed, eq⟩ := exists_draft_of_identified member
  obtain ⟨name, -, rfl⟩ := List.mem_map.mp listed
  rw [eq]
  obtain ⟨-, rfl⟩ | ⟨tiers, -, -, rfl⟩ := drafter_cases drafted
  · exact List.nodup_nil
  · exact Stylesheet.nodup_variants _ tiers name _

/-! ### Pastes -/

theorem convert_isExact {settings : Settings} {html css js : String} {conversion : Conversion}
    (h : (convert settings html css js).run ids ledger = (.ok conversion, after)) :
    ∀ clipboard ∈ conversion.clipboard :: conversion.chunkClipboards, clipboard.IsExact := by
  obtain ⟨_, _, _, _, _, styled, compiled, cut, -⟩ := convert_run h
  have nodes := isExact_compile compiled
  have styles := nodup_variants_of_run styled
  have chunks := subset_of_chunksOf (cutChunks_ok cut)
  refine List.forall_mem_cons.mpr ⟨⟨nodes, styles, List.forall_mem_nil _⟩, ?_⟩
  intro clipboard member
  obtain ⟨chunk, listed, rfl⟩ := List.mem_map.mp member
  exact ⟨fun node inside => nodes node (chunks chunk listed inside), styles, List.forall_mem_nil _⟩

/-- The text of a paste is read back as its document, keys in order, in the compact form and with
every indentation. What comes out of a conversion, whole or in chunks, is such a paste. -/
theorem clipboard_readsBack :
    (∀ clipboard : Clipboard, clipboard.IsExact → ∀ indent,
      Json.read? (clipboard.render indent) = some clipboard.toJson) ∧
    ∀ settings html css js ids ledger conversion after,
      (convert settings html css js).run ids ledger = (.ok conversion, after) →
        ∀ clipboard ∈ conversion.clipboard :: conversion.chunkClipboards, clipboard.IsExact :=
  ⟨fun _ exact indent => read?_render (Clipboard.isExact_toJson exact) indent,
    fun _ _ _ _ _ _ _ _ => convert_isExact⟩

/-- Texts with quotes, controls and characters beyond ASCII, containers in containers, and a field that
takes the place of one that every payload ends with. -/
def trickyPaste : Clipboard where
  nodes := [
    .element ⟨"a\"\\", .formWrapper, "form", .standard ⟨.formWrapper, "form",
      [("id", .string "\x00\x1f\x7f/\\u0041"), ("max", .integer (-120))],
      [("devlink", .array []), ("opts", .array [.object [], .array [.null, .array []]])]⟩,
      ["é", ""], ["t"]⟩,
    .element ⟨"c", .custom, "svg", .custom ⟨"svg", [("x", "1"), ("x", "2")]⟩, [], []⟩,
    .text ⟨"t", "\n\t😀\u2028"⟩]
  styles := [⟨"s", "n", "color: red", [(.small, "top: 0"), (.tiny, "")]⟩]
  assets := [.object [("z", .integer 0), ("a", .object [("", .bool true)])]]

theorem isExact_trickyPaste : trickyPaste.IsExact := by
  constructor <;> simp [trickyPaste, Node.IsExact, Payload.IsExact, Table.keys, or_imp, forall_and]

theorem clipboard_readsBack_trickyPaste :
    trickyPaste.IsExact ∧
      (∀ indent, Json.read? (trickyPaste.render indent) = some trickyPaste.toJson) ∧
      ∃ conversion after,
        (convert .standard "<form><select class=b><option>x</select><svg a=1></form>"
          "@media (max-width: 479px) \x7b .b \x7b top: 0 \x7d \x7d" "").run .tally .fresh =
            (.ok conversion, after) ∧
          conversion.tree.nodes.length = 5 ∧
          ∀ clipboard ∈ conversion.clipboard :: conversion.chunkClipboards, clipboard.IsExact := by
  have returns : ((convert .standard "<form><select class=b><option>x</select><svg a=1></form>"
      "@media (max-width: 479px) \x7b .b \x7b top: 0 \x7d \x7d" "").run .tally .fresh).1.map
      (fun conversion => conversion.tree.nodes.length) = .ok 5 := by decide +kernel
  obtain ⟨conversion, after, ran, count⟩ := Build.exists_of_map_eq returns
  exact ⟨isExact_trickyPaste, clipboard_readsBack.1 trickyPaste isExact_trickyPaste,
    conversion, after, ran, count, clipboard_readsBack.2 _ _ _ _ _ _ _ _ ran⟩

end PageClip
