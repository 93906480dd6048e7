import PageClip.Proofs.Stylesheet.AtRule
import PageClip.Proofs.Stylesheet.Comment
import PageClip.Proofs.Stylesheet.RootBlock
import PageClip.Proofs.Stylesheet.Rule
import PageClip.Stylesheet.Sheet

/-!
# The grammar of stylesheets

A stylesheet can be written from four kinds of items, and `parse_written` reads
them back. Every pass of `parse` takes the items of its own kind out and leaves
the items of the later passes as they are.
-/

namespace PageClip.Stylesheet

open PageClip.Text

/-- What a stylesheet is written from. Properties are named without their two hyphens. -/
inductive Item where
  | root (properties : List (Text × Text))
  | rule (rule : Rule)
  | block (keyword prelude : Text) (rules : List Rule)
  | statement (keyword text : Text)
  deriving DecidableEq, Repr

def propertyText (property : Text × Text) : Text :=
  ['-', '-'] ++ property.1 ++ [':', ' '] ++ property.2

/-- What a root block has between its braces. -/
def rootBody (properties : List (Text × Text)) : Text :=
  properties.flatMap (fun property => ' ' :: propertyText property ++ [';']) ++ [' ']

/-- What an at-rule with flat rules has between its braces. -/
def blockBody (rules : List Rule) : Text := ' ' :: paragraphs (rules.map Rule.format) ++ [' ']

namespace Item

def text : Item → Text
  | .root properties => rootMark ++ ' ' :: '\x7b' :: rootBody properties ++ ['\x7d']
  | .rule own => own.format
  | .block keyword prelude rules =>
    '@' :: keyword ++ ' ' :: prelude ++ ' ' :: '\x7b' :: blockBody rules ++ ['\x7d']
  | .statement keyword text => '@' :: keyword ++ ' ' :: text ++ [';']

def definitions : Item → List (Text × Text)
  | .root properties => properties.map fun (name, value) => (['-', '-'] ++ name, value)
  | _ => []

def rules : Item → List Rule
  | .rule own => [own]
  | _ => []

def atRules : Item → List AtRule
  | .block keyword prelude rules =>
    [{ name := lower keyword
       prelude := prelude
       body := blockBody rules
       text := text (.block keyword prelude rules) }]
  | _ => []

end Item

/-- A stylesheet with a blank line between its items. -/
def written (items : List Item) : Text := paragraphs (items.map Item.text)

/-! ### What may be written -/

structure IsProperty (property : Text × Text) : Prop where
  named : IsName property.1
  piece : IsPiece property.2
  free : Delimiter.brace.Free property.2

/-- What may stand behind the keyword of an at-rule. -/
structure IsHeader (text : Text) : Prop where
  trimmed : trim text = text
  free : Delimiter.brace.Free text
  unended : ';' ∉ text

/-- A printable rule that is neither a root block nor part of an at-rule. -/
structure Rule.Ordinary (rule : Rule) : Prop extends rule.Printable where
  unstarted : '@' ∉ rule.selector
  unmarked : ¬ rootMark <:+ rule.selector

/-- An item whose parts are what their places ask for. -/
def Item.WellFormed : Item → Prop
  | .root properties => ∀ property ∈ properties, IsProperty property
  | .rule own => own.Ordinary
  | .block keyword prelude rules =>
    IsName keyword ∧ IsHeader prelude ∧ ¬ rootMark <:+ prelude ∧ ∀ rule ∈ rules, rule.Ordinary
  | .statement keyword text => IsName keyword ∧ IsHeader text

instance (property : Text × Text) : Decidable (IsProperty property) :=
  decidable_of_iff
    (IsName property.1 ∧ IsPiece property.2 ∧ Delimiter.brace.Free property.2)
    ⟨fun ⟨named, piece, free⟩ => ⟨named, piece, free⟩,
      fun ⟨named, piece, free⟩ => ⟨named, piece, free⟩⟩

instance (text : Text) : Decidable (IsHeader text) :=
  decidable_of_iff (trim text = text ∧ Delimiter.brace.Free text ∧ ';' ∉ text)
    ⟨fun ⟨trimmed, free, unended⟩ => ⟨trimmed, free, unended⟩,
      fun ⟨trimmed, free, unended⟩ => ⟨trimmed, free, unended⟩⟩

instance (rule : Rule) : Decidable rule.Ordinary :=
  decidable_of_iff (rule.Printable ∧ '@' ∉ rule.selector ∧ ¬ rootMark <:+ rule.selector)
    ⟨fun ⟨printable, unstarted, unmarked⟩ => ⟨printable, unstarted, unmarked⟩,
      fun ⟨printable, unstarted, unmarked⟩ => ⟨printable, unstarted, unmarked⟩⟩

instance : (item : Item) → Decidable item.WellFormed
  | .root properties => inferInstanceAs (Decidable (∀ property ∈ properties, IsProperty property))
  | .rule own => inferInstanceAs (Decidable own.Ordinary)
  | .block keyword prelude rules =>
    inferInstanceAs (Decidable (IsName keyword ∧ IsHeader prelude ∧ ¬ rootMark <:+ prelude ∧
      ∀ rule ∈ rules, rule.Ordinary))
  | .statement keyword text => inferInstanceAs (Decidable (IsName keyword ∧ IsHeader text))

/-! ### Root blocks -/

theorem IsName.free {name : Text} (named : IsName name) : Delimiter.brace.Free name :=
  ⟨named.not_mem (by decide), named.not_mem (by decide)⟩

theorem IsProperty.free_text {property : Text × Text} (h : IsProperty property) :
    Delimiter.brace.Free (' ' :: propertyText property ++ [';']) := by
  have hyphens : Delimiter.brace.Free [' ', '-', '-'] := by decide
  have colon : Delimiter.brace.Free [':', ' '] := by decide
  exact (((hyphens.append h.named.free).append colon).append h.free).append (by decide)

theorem IsProperty.customProperties_append {property : Text × Text} (h : IsProperty property)
    (rest : Text) :
    customProperties (' ' :: propertyText property ++ ';' :: rest) =
      (['-', '-'] ++ property.1, property.2) :: customProperties rest := by
  have hyphens : Delimiter.paren.Free [' ', '-', '-'] := by decide
  have colon : Delimiter.paren.Free [':', ' '] := by decide
  have name : Delimiter.paren.Free property.1 :=
    ⟨h.named.not_mem (by decide), h.named.not_mem (by decide)⟩
  have plain : ';' ∉ [' ', '-', '-'] ++ property.1 ++ [':', ' '] := by
    simpa using h.named.not_mem (show isNamePart ';' = false by decide)
  have blank : AllBlank [' '] := by decide
  have found : customProperty? (trim ([' '] ++ propertyText property)) =
      some (['-', '-'] ++ property.1, property.2) := by
    rw [trim_blank_append blank]
    exact customProperty?_eq_some h.named h.piece.trimmed
  have solid : trim ([' '] ++ propertyText property) ≠ [] := by
    intro empty
    rw [empty] at found
    cases found
  have split : splitDeclarations (' ' :: propertyText property ++ ';' :: rest) =
      trim ([' '] ++ propertyText property) :: splitDeclarations rest :=
    h.piece.splitDeclarations_append plain ((hyphens.append name).append colon) solid rest
  rw [customProperties, split, List.filterMap_cons_some found, customProperties]

theorem customProperties_rootBody {properties : List (Text × Text)}
    (h : ∀ property ∈ properties, IsProperty property) :
    customProperties (rootBody properties) =
      properties.map fun (name, value) => (['-', '-'] ++ name, value) := by
  unfold rootBody
  induction properties with
  | nil => rfl
  | cons property properties ih =>
    rw [List.flatMap_cons, List.append_assoc, List.append_assoc, List.singleton_append,
      (h property List.mem_cons_self).customProperties_append,
      ih fun other member => h other (List.mem_cons_of_mem property member), List.map_cons]

theorem balanced_rootBody {properties : List (Text × Text)}
    (h : ∀ property ∈ properties, IsProperty property) :
    Delimiter.brace.Balanced (rootBody properties) := by
  have each := Delimiter.Free.flatMap fun property member => (h property member).free_text
  exact (each.append (by decide)).balanced

/-! ### Printed rules as text -/

namespace Rule

theorem Printable.balanced {rule : Rule} (printable : rule.Printable) :
    Delimiter.brace.Balanced rule.format := by
  have front := (printable.free.append (show Delimiter.brace.Free [' '] by decide)).balanced
  have block := Delimiter.Balanced.nested printable.framed.free_inside.balanced .nil
  have whole := front.append block
  rw [format_eq]
  simpa [Delimiter.brace] using whole

theorem Ordinary.rootKeeps {rule : Rule} (ordinary : rule.Ordinary) : RootKeeps rule.format := by
  have header : RootKeeps (rule.selector ++ [' ', '\x7b']) := by
    refine rootKeeps_header ordinary.free.1 ?_
    rw [trimRight_of_trimmed ordinary.trimmed]
    exact ordinary.unmarked
  have block : RootKeeps (rule.inside ++ ['\x7d']) :=
    rootKeeps_concat ordinary.framed.free_inside.1 (by decide) (by decide) (by decide)
  rw [format_eq, List.append_assoc]
  exact rootKeeps_append header block

theorem Ordinary.atReads {rule : Rule} (ordinary : rule.Ordinary) :
    AtReads rule.format [] rule.format := by
  have unstarted : '@' ∉ rule.selector ++ [' '] := by
    simpa using ordinary.unstarted
  have front := AtReads.plain (ordinary.free.append (by decide)) unstarted
  have block := AtReads.braces ordinary.framed.free_inside.balanced
  have whole := front.append block
  rw [format_eq]
  simpa using whole

end Rule

theorem blockBody_reads {rules : List Rule} (h : ∀ rule ∈ rules, rule.Ordinary) :
    RootKeeps (blockBody rules) ∧ Delimiter.brace.Balanced (blockBody rules) := by
  have space : RootKeeps [' '] := rootKeeps_of_no_colon (by decide)
  have free : Delimiter.brace.Free [' '] := by decide
  obtain ⟨keeps, balanced⟩ := paragraphs_reads
    (R := fun text definitions kept =>
      RootReads text definitions kept ∧ Delimiter.brace.Balanced text)
    ⟨RootReads.nil, .nil⟩ (fun first second => ⟨first.1.append second.1, first.2.append second.2⟩)
    ⟨rootKeeps_of_no_colon (by decide), Delimiter.Free.balanced (by decide)⟩
    Rule.format (fun _ => []) Rule.format
    fun rule member => ⟨(h rule member).rootKeeps, (h rule member).balanced⟩
  rw [List.flatMap_eq_nil_iff.mpr fun _ _ => rfl] at keeps
  exact ⟨rootKeeps_append (rootKeeps_append space keeps) space,
    (free.balanced.append balanced).append free.balanced⟩

/-! ### What each pass makes of an item -/

theorem IsHeader.inHeader {keyword text : Text} (named : IsName keyword) (header : IsHeader text) :
    ∀ c ∈ keyword ++ ' ' :: text, inHeader c := by
  intro c member
  have other : c ≠ '\x7b' ∧ c ≠ ';' := by
    rcases List.mem_append.mp member with part | member
    · refine ⟨?_, ?_⟩ <;> rintro rfl <;> exact named.not_mem (by decide) part
    · rcases List.mem_cons.mp member with rfl | part
      · decide
      · refine ⟨?_, ?_⟩ <;> rintro rfl
        · exact header.free.1 part
        · exact header.unended part
  simpa [Stylesheet.inHeader] using other

namespace Item

/-- What the scan for root blocks leaves of an item. -/
def unrooted : Item → Text
  | .root _ => []
  | item => item.text

/-- What the scan for at-rules leaves of an item. -/
def plain : Item → Text
  | .rule own => own.format
  | _ => []

theorem WellFormed.rootReads {item : Item} (h : item.WellFormed) :
    RootReads item.text item.definitions item.unrooted := by
  cases item with
  | root properties =>
    have reads := RootReads.block (show AllBlank [' '] by decide) (balanced_rootBody h)
    rw [customProperties_rootBody h] at reads
    exact reads
  | rule own => exact Rule.Ordinary.rootKeeps h
  | block keyword prelude rules =>
    obtain ⟨named, header, unmarked, ordinary⟩ := h
    have front : RootKeeps ('@' :: keyword ++ [' ']) := by
      refine rootKeeps_of_no_colon ?_
      simpa using named.not_mem (show isNamePart ':' = false by decide)
    have opening : RootKeeps (prelude ++ [' ', '\x7b']) := by
      refine rootKeeps_header header.free.1 ?_
      rwa [trimRight_of_trimmed header.trimmed]
    have closing : RootKeeps ['\x7d'] := rootKeeps_of_no_colon (by decide)
    have body := (blockBody_reads ordinary).1
    have whole := rootKeeps_append (rootKeeps_append front opening) (rootKeeps_append body closing)
    simpa [unrooted, text, definitions] using whole
  | statement keyword body =>
    obtain ⟨named, header⟩ := h
    refine rootKeeps_concat ?_ (by decide) (by decide) (by decide)
    simpa using ⟨named.free.1, header.free.1⟩

theorem WellFormed.atReads {item : Item} (h : item.WellFormed) :
    AtReads item.unrooted item.atRules item.plain := by
  cases item with
  | root properties => exact AtReads.nil
  | rule own => exact Rule.Ordinary.atReads h
  | block keyword prelude rules =>
    obtain ⟨named, header, -, ordinary⟩ := h
    have inside : ∀ c ∈ keyword ++ ' ' :: prelude ++ [' '], inHeader c := by
      intro c member
      rcases List.mem_append.mp member with early | last
      · exact header.inHeader named c early
      · rw [List.mem_singleton.mp last]
        decide
    have reads := AtReads.block inside (blockBody_reads ordinary).2
    rw [AtRule.make_of_parts named.parts header.trimmed] at reads
    simpa [unrooted, text, atRules, plain] using reads
  | statement keyword body =>
    obtain ⟨named, header⟩ := h
    exact AtReads.statement (header.inHeader named)

theorem WellFormed.ruleReads {item : Item} (h : item.WellFormed) :
    RuleReads item.plain item.rules := by
  cases item with
  | rule own => exact RuleReads.format (Rule.Ordinary.toPrintable h)
  | root | block | statement => exact RuleReads.blank (show AllBlank [] by decide)

end Item

theorem Item.getLast?_text (item : Item) : item.text.getLast? ≠ some '/' := by
  have closed (text : Text) (c : Char) (other : c ≠ '/') : (text ++ [c]).getLast? ≠ some '/' := by
    rw [List.getLast?_concat]
    exact fun same => other (Option.some.inj same)
  cases item with
  | rule own =>
    show own.format.getLast? ≠ some '/'
    rw [Rule.format_eq]
    exact closed _ _ (by decide)
  | root | block | statement => exact closed _ _ (by decide)

theorem stripComments_written {items : List Item}
    (clean : ∀ item ∈ items, ¬ commentStart <:+: item.text) :
    stripComments (written items) = written items := by
  -- An item ends in a brace or a semicolon, so no mark comes about between two items.
  have apart (text rest : Text) (ends : text.getLast? ≠ some '/') :
      ¬ (text.getLast? = some '/' ∧ rest.head? = some '*') := fun both => ends both.1
  have whole := paragraphs_reads
    (R := fun text (_ : List Unit) _ =>
      ∀ rest, stripComments (text ++ rest) = text ++ stripComments rest)
    (fun _ => rfl) (fun first second rest => by
      rw [List.append_assoc, first, second, List.append_assoc])
    (fun rest => stripComments_append (by decide) (apart _ rest (by decide)))
    Item.text (fun _ => []) Item.text
    fun item member rest => stripComments_append (clean item member)
      (apart _ rest item.getLast?_text)
  have stripped := whole []
  rwa [stripComments, List.append_nil] at stripped

/-- A written stylesheet reads back: the flat rules and the at-rules in order, and the variables
with the last value of each name. -/
theorem parse_written {items : List Item} (wellFormed : ∀ item ∈ items, item.WellFormed)
    (clean : ∀ item ∈ items, ¬ commentStart <:+: item.text) :
    (parse (written items)).rules = items.flatMap Item.rules ∧
      (parse (written items)).atRules = items.flatMap Item.atRules ∧
      (parse (written items)).values = Table.ofList (items.flatMap Item.definitions) ∧
      ∀ name, Table.find? name (parse (written items)).values =
        (items.flatMap Item.definitions).reverse.lookup name := by
  have roots := paragraphs_reads RootReads.nil RootReads.append
    (rootKeeps_of_no_colon (by decide)) Item.text Item.definitions Item.unrooted
    fun item member => (wellFormed item member).rootReads
  have ats := paragraphs_reads AtReads.nil AtReads.append
    (AtReads.plain (by decide) (by decide)) Item.unrooted Item.atRules Item.plain
    fun item member => (wellFormed item member).atReads
  have rules := paragraphs_reads (R := fun text found _ => RuleReads text found)
    (RuleReads.blank (by decide)) RuleReads.append (RuleReads.blank (by decide))
    Item.plain Item.rules Item.plain fun item member => (wellFormed item member).ruleReads
  have parsed : parse (written items) =
      { rules := items.flatMap Item.rules
        atRules := items.flatMap Item.atRules
        values := Table.ofList (items.flatMap Item.definitions) } := by
    unfold parse
    rw [stripComments_written clean, written, roots.split]
    dsimp only
    rw [ats.split]
    dsimp only
    rw [rules.parse, RootSplit.values]
  rw [parsed]
  exact ⟨rfl, rfl, rfl, fun name => Table.find?_ofList name _⟩

/-- One item of each kind, and a second value for the variable. -/
def mixedItems : List Item :=
  [.statement "charset".toList "utf-8".toList,
    .root [("tone".toList, "red".toList), ("tone".toList, "url(a;b)".toList)],
    .rule ⟨".card:hover".toList, ["color: var(--tone)".toList]⟩,
    .block "Media".toList "(max-width: 479px)".toList [⟨".card".toList, ["margin: 0".toList]⟩]]

theorem parse_written_mixed :
    (∀ item ∈ mixedItems, item.WellFormed) ∧
      (∀ item ∈ mixedItems, ¬ commentStart <:+: item.text) ∧
      (parse (written mixedItems)).rules =
        [⟨".card:hover".toList, ["color: var(--tone)".toList]⟩] ∧
      (parse (written mixedItems)).atRules.map (fun rule => (rule.name, rule.prelude)) =
        [("media".toList, "(max-width: 479px)".toList)] ∧
      Table.find? "--tone".toList (parse (written mixedItems)).values =
        some "url(a;b)".toList := by
  have wellFormed : ∀ item ∈ mixedItems, item.WellFormed := by decide
  have clean : ∀ item ∈ mixedItems, ¬ commentStart <:+: item.text := by decide
  obtain ⟨rules, atRules, -, values⟩ := parse_written wellFormed clean
  refine ⟨wellFormed, clean, ?_, ?_, ?_⟩
  · rw [rules]
    decide
  · rw [atRules]
    decide
  · rw [values]
    decide

end PageClip.Stylesheet
