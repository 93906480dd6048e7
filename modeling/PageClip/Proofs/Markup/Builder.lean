import PageClip.Markup.Builder
import PageClip.Markup.Query
import PageClip.Proofs.Markup.Lexer
import PageClip.Proofs.Tree.Place

/-!
# Elements in the order of their tags

Whatever end tags stand between them, the elements of a document are those of its
start tags, in their order (`tagsOf_ofTokens`). While the document is built, open
elements stand behind the items in front of them and before their own. One that
is closed at once has no items (`close_push`).
-/

namespace PageClip.Markup

/-- The name and the attributes of an element. -/
abbrev Tag := String × List (String × String)

def Element.tag (element : Element) : Tag := (element.name, element.attributes)

/-- The elements among and inside items, in the order in which they start. -/
def tagsOf (items : List Item) : List Tag := (elementsOf items).map Element.tag

theorem tagsOf_append (items more : List Item) :
    tagsOf (items ++ more) = tagsOf items ++ tagsOf more := by
  simp only [tagsOf, Tree.elementsOf_eq_flatMap, List.flatMap_append, List.map_append]

theorem tagsOf_text (kind : TextKind) (content : Text) : tagsOf [.text kind content] = [] := rfl

theorem tagsOf_element (name : String) (attributes : List (String × String)) (children : List Item) :
    tagsOf [.element name attributes children] = (name, attributes) :: tagsOf children := by
  simp [tagsOf, elementsOf, Item.elements, Element.tag]

/-- The element that a token opens. -/
def Token.tag? (token : Token) : Option Tag :=
  token.opened?.map fun (name, attributes) =>
    (Builder.string name, Table.ofList (attributes.map fun (key, value) =>
      (Builder.string key, Builder.string value)))

namespace Builder

/-- The tags of open elements and of what stands in front of them, outermost first. -/
def tagsAround : List OpenElement → List Tag
  | [] => []
  | inner :: outer =>
    tagsAround outer ++ tagsOf inner.before.reverse ++ [(inner.name, inner.attributes)]

def tags (builder : Builder) : List Tag :=
  tagsAround builder.stack ++ tagsOf builder.items.reverse

theorem tagsOf_shut (element : OpenElement) (items : List Item) :
    tagsOf (element.shut items).reverse =
      tagsOf element.before.reverse ++ (element.name, element.attributes) :: tagsOf items.reverse := by
  rw [OpenElement.shut, List.reverse_cons, tagsOf_append, tagsOf_element]

theorem tags_closeThrough (name : String) (stack : List OpenElement) (items : List Item) :
    tagsAround (closeThrough name stack items).1 ++ tagsOf (closeThrough name stack items).2.reverse =
      tagsAround stack ++ tagsOf items.reverse := by
  induction stack generalizing items with
  | nil => rfl
  | cons inner outer ih =>
    have shut : tagsAround outer ++ tagsOf (inner.shut items).reverse =
        tagsAround (inner :: outer) ++ tagsOf items.reverse := by
      rw [tagsOf_shut, tagsAround]
      simp
    rw [closeThrough]
    split
    · exact shut
    · rw [ih, shut]

theorem tags_add_text (kind : TextKind) (content : Text) (builder : Builder) :
    (builder.add (.text kind content)).tags = builder.tags := by
  rw [tags, tags, add, List.reverse_cons, tagsOf_append, tagsOf_text, List.append_nil]

theorem tags_endText (builder : Builder) : builder.endText.tags = builder.tags := by
  unfold endText
  split
  · rfl
  · exact tags_add_text ..

theorem tags_close (name : String) (builder : Builder) : (builder.close name).tags = builder.tags := by
  unfold close
  dsimp only
  split
  · rw [tags, tags_closeThrough, ← tags, tags_endText]
  · exact tags_endText builder

theorem tags_push (name : String) (attributes : List (String × String)) (builder : Builder) :
    (builder.push name attributes).tags = builder.tags ++ [(name, attributes)] := by
  rw [← tags_endText builder, push, tags, tagsAround, tags]
  simp [tagsOf, elementsOf]

/-- A token adds the element that it opens. -/
theorem tags_step (builder : Builder) (token : Token) :
    (builder.step token).tags = builder.tags ++ token.tag?.toList := by
  cases token with
  | text content => simp [step, tags, Token.tag?, Token.opened?]
  | aside kind content =>
    have none : (Token.aside kind content).tag?.toList = [] := rfl
    unfold step
    dsimp only
    rw [tags_add_text, tags_endText, none, List.append_nil]
  | closing name =>
    have none : (Token.closing name).tag?.toList = [] := rfl
    rw [step, endTag, none, List.append_nil]
    split
    · rfl
    · exact tags_close ..
  | opening name attributes closed =>
    have pushed := tags_push (string name) (Table.ofList (attributes.map fun (key, value) =>
      (string key, string value))) builder
    rw [step]
    dsimp only
    split
    · exact (tags_close ..).trans pushed
    split
    · exact (tags_close ..).trans pushed
    · exact pushed

theorem tags_foldl (tokens : List Token) (builder : Builder) :
    (tokens.foldl step builder).tags = builder.tags ++ tokens.filterMap Token.tag? := by
  induction tokens generalizing builder with
  | nil => simp
  | cons token rest ih =>
    rw [List.foldl_cons, ih, tags_step, List.append_assoc]
    cases found : token.tag? <;> simp [found]

theorem tagsOf_document (builder : Builder) : tagsOf builder.document = builder.tags := by
  have shut : ∀ (stack : List OpenElement) (items : List Item),
      tagsOf (stack.foldl (fun items element => element.shut items) items).reverse =
        tagsAround stack ++ tagsOf items.reverse := by
    intro stack
    induction stack with
    | nil => exact fun items => rfl
    | cons inner outer ih =>
      intro items
      rw [List.foldl_cons, ih, tagsOf_shut, tagsAround]
      simp
  rw [document, shut, ← tags, tags_endText]

/-! ### Elements that are closed at once -/

theorem pieces_endText (builder : Builder) : builder.endText.pieces = [] := by
  unfold endText
  split
  · assumption
  · rfl

theorem endText_of_no_pieces {builder : Builder} (none : builder.pieces = []) :
    builder.endText = builder := by
  unfold endText
  rw [none]

theorem close_push (name : String) (attributes : List (String × String)) (builder : Builder) :
    (builder.push name attributes).close name =
      builder.endText.add (.element name attributes []) := by
  have settled : (builder.push name attributes).endText = builder.push name attributes :=
    endText_of_no_pieces (pieces_endText builder)
  rw [close, settled]
  simp [push, closeThrough, OpenElement.shut, add]

/-- A tag that closes itself leaves its element without items, and the end tags that are to be
ignored as they are, whatever stands before it. -/
theorem step_selfClosed (builder : Builder) (name : Text) (attributes : List (Text × Text)) :
    builder.step (.opening name attributes true) =
      builder.endText.add (.element (string name) (Table.ofList (attributes.map fun (key, value) =>
        (string key, string value))) []) := by
  rw [step]
  dsimp only
  rw [if_pos rfl, close_push]

example :
    Document.ofTokens [.opening "br".toList [] false, .text "a".toList,
      .opening "br".toList [] true, .text "b".toList] =
        [.element "br" [] [], .text .plain "a".toList, .element "br" [] [],
          .text .plain "b".toList] := by
  cbv

end Builder

/-- The elements of a document are those of its start tags, in their order. -/
theorem tagsOf_ofTokens (tokens : List Token) :
    tagsOf (Document.ofTokens tokens) = tokens.filterMap Token.tag? := by
  rw [Document.ofTokens, Builder.tagsOf_document, Builder.tags_foldl]
  rfl

end PageClip.Markup
