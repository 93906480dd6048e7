import Mathlib.Data.List.Chain
import PageClip.Proofs.Markup.Builder
import PageClip.Proofs.Table

/-!
# Printed script tags

Tags of scripts are printed with their sources as they are. `readsBack_iff` says
for which sources reading the tags gives the sources again: a quote ends a source
early, and what looks like a reference is replaced. Behind a source that ends early
nothing makes up for it, because what is read from there on lags behind.
-/

namespace PageClip.Markup

open PageClip.Text

/-- A source that a quoted attribute can hold as it stands. -/
def Quotable (source : Text) : Prop := '"' ∉ source ∧ Reference.unescape source = source

instance (source : Text) : Decidable (Quotable source) := inferInstanceAs (Decidable (_ ∧ _))

def scriptName : Text := "script".toList

def tagStart : Text := "<script src=\"".toList

def tagEnd : Text := "\"></script>".toList

def betweenSources : Text := "\"></script>\n\n<script src=\"".toList

/-- What is printed behind a source, with the tags of further sources. -/
def behindSource : List Text → Text
  | [] => tagEnd
  | source :: rest => betweenSources ++ (source ++ behindSource rest)

/-- The tags of sources, with blank lines between them. -/
def printedTags : List Text → Text
  | [] => []
  | source :: rest => tagStart ++ (source ++ behindSource rest)

/-- The source of a script. -/
def sourceOf? (tag : Tag) : Option Text :=
  if tag.1 = "script" then some ((Table.find? "src" tag.2).getD "").toList else none

def Token.source? (token : Token) : Option Text := token.tag?.bind sourceOf?

/-! ### One tag -/

theorem attributeValue?_src {shown value after : Text} (cut : cut? ['"'] shown = some (value, after)) :
    attributeValue? ('=' :: '"' :: shown) = some (value, ⟨'"', after⟩) := by
  have quoted : quotedValue? ('"' :: shown) = some (value, ⟨'"', after⟩) := by
    rw [quotedValue?, cut]
    rfl
  have start : trimLeft ('=' :: '"' :: shown) = '=' :: '"' :: shown := rfl
  have sign : ('"' :: shown).dropWhile (· == '=') = '"' :: shown := rfl
  have gap : ('"' :: shown).dropWhile isBlank = '"' :: shown := rfl
  unfold attributeValue?
  rw [start]
  simp only [sign, gap, quoted]

theorem attributesFrom_src {shown value after : Text} (cut : cut? ['"'] shown = some (value, after))
    (fuel : Nat) :
    attributesFrom (fuel + 1) ⟨' ', 's' :: 'r' :: 'c' :: '=' :: '"' :: shown⟩ =
      (("src".toList, Reference.unescape value) :: (attributesFrom fuel (.skipGap '"' after)).1,
        (attributesFrom fuel (.skipGap '"' after)).2) := by
  have name : ('r' :: 'c' :: '=' :: '"' :: shown).takeWhile inAttributeName = ['r', 'c'] := rfl
  have behind : ('r' :: 'c' :: '=' :: '"' :: shown).dropWhile inAttributeName =
      '=' :: '"' :: shown := rfl
  have low : lower ['s', 'r', 'c'] = "src".toList := by decide +kernel
  rw [attributesFrom]
  dsimp only
  rw [if_neg (by decide), name, behind, attributeValue?_src cut, low]

theorem startTag_src (shown : Text) :
    startTag (tagStart.tail ++ shown) =
      let found := attributesFrom (shown.length + 5) ⟨' ', 's' :: 'r' :: 'c' :: '=' :: '"' :: shown⟩
      tagAt (tagStart.tail ++ shown) scriptName found.1 found.2 := by
  have low : scriptName = lower ['s', 'c', 'r', 'i', 'p', 't'] := by decide +kernel
  rw [startTag_eq, low]
  rfl

/-- A printed tag gives its source up to the first quote, and what else can be read up to an end. -/
theorem startTag_src_complete {shown value after rest : Text} {tokens : List Token}
    {raw : Option Text} (cut : cut? ['"'] shown = some (value, after))
    (h : startTag (tagStart.tail ++ shown) = .complete tokens raw rest) :
    rest <:+ after ∧ ((∃ attributes closed,
      tokens = [.opening scriptName (("src".toList, Reference.unescape value) :: attributes) closed] ∧
        ∀ entry ∈ attributes, Written after entry.2 rest) ∨
      tokens.filterMap Token.opened? = []) := by
  rw [startTag_src, attributesFrom_src cut] at h
  dsimp only at h
  have gap := skipGap_suffix '"' after
  generalize Place.skipGap '"' after = place at h gap
  obtain ⟨last, written⟩ := written_of_attributesFrom (shown.length + 4) place
  obtain ⟨part, ⟨closed, rfl⟩ | ⟨content, rfl⟩⟩ := tagAt_complete h
  · exact ⟨(part.trans last).trans gap, .inl ⟨_, closed, rfl, fun entry member =>
      ((written entry member).of_suffix gap).left_suffix part⟩⟩
  · exact ⟨(part.trans last).trans gap, .inr rfl⟩

theorem startTag_unquoted {source : Text} (unquoted : '"' ∉ source) (rest : Text) :
    startTag (tagStart.tail ++ (source ++ (tagEnd ++ rest))) =
      .complete [.opening scriptName [("src".toList, Reference.unescape source)] false]
        (some scriptName) ("</script>".toList ++ rest) := by
  have cut : cut? ['"'] (source ++ (tagEnd ++ rest)) =
      some (source, '>' :: ("</script>".toList ++ rest)) :=
    cut?_char_eq_some_iff.mpr ⟨rfl, unquoted⟩
  rw [startTag_src, attributesFrom_src cut]
  rfl

theorem step_of_complete {shown rest : Text} {tokens : List Token} {raw : Option Text}
    (read : startTag (tagStart.tail ++ shown) = .complete tokens raw rest) (final : Bool) :
    step final none (tagStart ++ shown) = .proceed tokens raw rest := by
  have construct : construct? (tagStart.tail ++ shown) = some (.complete tokens raw rest) :=
    congrArg some read
  show stepBracket final (tagStart.tail ++ shown) = _
  rw [stepBracket, construct]

theorem step_of_incomplete {shown : Text}
    (read : startTag (tagStart.tail ++ shown) = .incomplete) (final : Bool) :
    step final none (tagStart ++ shown) = if final then
      let after := resume (tagStart ++ shown)
      .proceed [.text ((tagStart ++ shown).take ((tagStart ++ shown).length - after.length))] none after
    else .halt [] (tagStart ++ shown) := by
  have construct : construct? (tagStart.tail ++ shown) = some .incomplete := congrArg some read
  show stepBracket final (tagStart.tail ++ shown) = _
  rw [stepBracket, construct]
  rfl

theorem stepRaw_scriptEnd (rest : Text) :
    stepRaw scriptName ("</script>".toList ++ rest) = .proceed [.closing scriptName] none rest := by
  have ends : isRawEnd scriptName ("</script>".toList ++ rest) = true := rfl
  have cut : cutRaw? scriptName ("</script>".toList ++ rest) =
      some ([], "</script>".toList ++ rest) := if_pos ends
  have tag : plainEndTag? (("</script>".toList ++ rest).drop 2) = some (scriptName, rest) := rfl
  have low : lower scriptName = scriptName := by decide +kernel
  rw [stepRaw, cut]
  dsimp only
  rw [tag]
  dsimp only
  rw [if_pos low]

/-! ### Tags without quotes in their sources -/

def tagTokens (source : Text) : List Token :=
  [.opening scriptName [("src".toList, Reference.unescape source)] false, .closing scriptName]

/-- The blank line between a tag and those behind it. -/
def gapTokens : List Text → List Token
  | [] => []
  | _ :: _ => [.text ['\n', '\n']]

def printedTokens : List Text → List Token
  | [] => []
  | source :: rest => tagTokens source ++ gapTokens rest ++ printedTokens rest

theorem source?_tagTokens (source : Text) :
    (tagTokens source).filterMap Token.source? = [Reference.unescape source] := by
  have tag : Token.tag? (.opening scriptName [("src".toList, Reference.unescape source)] false) =
      some ("script", [("src", Builder.string (Reference.unescape source))]) := by
    have name : Builder.string scriptName = "script" := String.ofList_toList
    have key : Builder.string "src".toList = "src" := String.ofList_toList
    simp only [Token.tag?, Token.opened?, Option.map_some, List.map_cons, List.map_nil, name, key]
    rfl
  have opened : Token.source? (.opening scriptName [("src".toList, Reference.unescape source)] false) =
      some (Reference.unescape source) := by
    have text : (Builder.string (Reference.unescape source)).toList = Reference.unescape source :=
      String.toList_ofList
    rw [Token.source?, tag]
    exact congrArg some text
  rw [tagTokens, List.filterMap_cons_some opened]
  rfl

theorem source?_gapTokens (rest : List Text) : (gapTokens rest).filterMap Token.source? = [] := by
  cases rest <;> rfl

/-- A printed tag is read with what a value means that is written as its source. -/
theorem sources_tagTokens (source : Text) (rest : List Text) (tokens : List Token) :
    (tagTokens source ++ gapTokens rest ++ tokens).filterMap Token.source? =
      Reference.unescape source :: tokens.filterMap Token.source? := by
  rw [List.filterMap_append, List.filterMap_append, source?_tagTokens, source?_gapTokens]
  rfl

theorem lexFrom_tag {source : Text} (unquoted : '"' ∉ source) (fuel : Nat) (final : Bool)
    (rest : Text) :
    lexFrom (fuel + 2) final none (tagStart ++ (source ++ (tagEnd ++ rest))) =
      (lexFrom fuel final none rest).map (tagTokens source ++ ·) := by
  have opened := step_of_complete (startTag_unquoted unquoted rest) final
  have closed : step final (some scriptName) ("</script>".toList ++ rest) =
      .proceed [.closing scriptName] none rest := stepRaw_scriptEnd rest
  have start : tagStart ++ (source ++ (tagEnd ++ rest)) ≠ [] :=
    List.append_ne_nil_of_left_ne_nil (by decide) _
  have stop : "</script>".toList ++ rest ≠ [] := List.append_ne_nil_of_left_ne_nil (by decide) _
  rw [lexFrom_proceed opened start, lexFrom_proceed closed stop, Option.map_map]
  rfl

theorem lexFrom_gap (fuel : Nat) (final : Bool) (rest : Text) :
    lexFrom (fuel + 1) final none ('\n' :: '\n' :: (tagStart ++ rest)) =
      (lexFrom fuel final none (tagStart ++ rest)).map ([.text ['\n', '\n']] ++ ·) := by
  have gap : step final none ('\n' :: '\n' :: (tagStart ++ rest)) =
      .proceed [.text ['\n', '\n']] none (tagStart ++ rest) := rfl
  exact lexFrom_proceed gap (List.cons_ne_nil _ _) fuel

theorem lexFrom_printedTags_cons {source : Text} (unquoted : '"' ∉ source) (rest : List Text)
    (fuel : Nat) (final : Bool) :
    lexFrom (fuel + 3) final none (printedTags (source :: rest)) =
      (lexFrom fuel final none (printedTags rest)).map (tagTokens source ++ gapTokens rest ++ ·) := by
  cases rest with
  | nil =>
    have read := lexFrom_tag unquoted (fuel + 1) final []
    rw [List.append_nil, lexFrom_nil] at read
    rw [printedTags, printedTags, behindSource, read, lexFrom_nil]
    rfl
  | cons next rest =>
    have behind : behindSource (next :: rest) =
        tagEnd ++ '\n' :: '\n' :: (tagStart ++ (next ++ behindSource rest)) := rfl
    rw [printedTags, printedTags, behind, lexFrom_tag unquoted (fuel + 1), lexFrom_gap,
      Option.map_map]
    rfl

/-- Tags without quotes in their sources are read tag by tag. -/
theorem lexFrom_printedTags {sources : List Text} (unquoted : ∀ source ∈ sources, '"' ∉ source)
    (fuel : Nat) (final : Bool) :
    lexFrom (fuel + 3 * sources.length) final none (printedTags sources) =
      some (printedTokens sources) := by
  induction sources with
  | nil => exact lexFrom_nil ..
  | cons source rest ih =>
    obtain ⟨first, others⟩ := List.forall_mem_cons.mp unquoted
    rw [List.length_cons, Nat.mul_succ, ← Nat.add_assoc, lexFrom_printedTags_cons first, ih others]
    rfl

/-! ### Values behind a source -/

/-- A source that starts as the address of a script does: with a slash or the letter of its scheme. -/
def Addressed (source : Text) : Prop := ∃ c rest, source = c :: rest ∧ (c = '/' ∨ c.toLower = 'h')

theorem Addressed.ne_nil {source : Text} (addressed : Addressed source) : source ≠ [] := by
  obtain ⟨c, rest, rfl, -⟩ := addressed
  exact List.cons_ne_nil c rest

/-- The text is left when some of the beginning of another has been read. -/
def Late (text whole : Text) : Prop := ∃ front, front ≠ [] ∧ whole = front ++ text

theorem Late.of_suffix {text less whole : Text} (late : Late text whole) (part : less <:+ text) :
    Late less whole := by
  obtain ⟨front, solid, rfl⟩ := late
  obtain ⟨more, rfl⟩ := part
  exact ⟨front ++ more, by simp [solid], by simp⟩

theorem late_of_cut? {q : Char} {text before after : Text} (cut : cut? [q] text = some (before, after)) :
    Late after text := by
  obtain ⟨rfl, -⟩ := cut?_char_eq_some_iff.mp cut
  exact ⟨before ++ [q], by simp, by simp⟩

def opensValue (d : Char) : Bool := d = '"' || d = '\'' || d = '=' || isBlank d

def startsSource (c : Char) : Bool := c = '&' || c = '/' || c.toLower = 'h'

theorem Enclosed.opensValue {d : Char} {raw back : Text} (enclosed : Enclosed d raw back) :
    opensValue d = true := by
  cases enclosed with
  | double => rfl
  | single => rfl
  | bare before => rcases before with rfl | blank <;> simp [Markup.opensValue, *]

theorem Addressed.starts {source raw : Text} (addressed : Addressed source)
    (read : source = Reference.unescape raw) :
    ∃ c more, raw = c :: more ∧ startsSource c = true := by
  obtain ⟨c, rest, rfl, head⟩ := addressed
  cases raw with
  | nil => cases read
  | cons d more =>
    refine ⟨d, more, rfl, ?_⟩
    by_cases reference : d = '&'
    · simp [startsSource, reference]
    · rw [Reference.unescape_cons reference] at read
      obtain rfl := (List.cons.inj read).1
      rcases head with slash | scheme
      · simp [startsSource, slash]
      · simp [startsSource, scheme]

/-- What stands between a source and the text behind it: it closes the tag at once, no value that
is read as a source begins in it, and none ends in it with a single quote. -/
structure IsGap (gap next : Text) : Prop where
  closes : ∃ more, gap = '"' :: '>' :: more ∧ '\'' ∉ more
  apart : gap.IsChain fun d c => ¬ (opensValue d = true ∧ startsSource c = true)
  head : next.head? ≠ some '\''

/-- A value as long as the source that begins inside it is in single quotes and ends behind the gap. -/
theorem late_of_inside {source gap next front raw back : Text} {d : Char} (isGap : IsGap gap next)
    (solid : front ≠ []) (inside : front ++ [d] <+: source)
    (eq : source ++ (gap ++ next) = front ++ [d] ++ (raw ++ back)) (enclosed : Enclosed d raw back)
    (long : source.length ≤ raw.length) : Late back next := by
  obtain ⟨tail, rfl⟩ := inside
  obtain ⟨more, rfl, unquoted⟩ := isGap.closes
  rw [List.append_assoc (front ++ [d]), List.append_cancel_left_eq] at eq
  have size : tail.length + 2 ≤ raw.length := by
    have := List.length_pos_iff.mpr solid
    simp only [List.length_append, List.length_cons, List.length_nil] at long
    omega
  have start : tail ++ ['"', '>'] <+: raw := by
    have whole : tail ++ ['"', '>'] <+: raw ++ back := ⟨more ++ next, by simp [← eq]⟩
    exact List.prefix_of_prefix_length_le whole (List.prefix_append ..) (by simpa using size)
  obtain ⟨extra, rfl⟩ := start
  have rest : more ++ next = extra ++ back := by simpa using eq
  cases enclosed with
  | double absent => exact absurd (by simp) absent
  | bare _ bare => exact absurd (bare '>' (by simp)) (by decide)
  | @single _ back =>
    obtain ⟨behind, rfl⟩ := prefix_of_not_mem unquoted rest
    rw [List.append_assoc, List.append_cancel_left_eq] at rest
    refine ⟨behind, ?_, rest⟩
    rintro rfl
    exact isGap.head (by rw [rest]; rfl)

/-- A value that is read as the source, but does not begin where the source does, ends only in the
text behind the gap. -/
theorem late_of_enclosed {source gap next front raw back : Text} {d : Char} (isGap : IsGap gap next)
    (addressed : Addressed source) (solid : front ≠ [])
    (eq : source ++ (gap ++ next) = front ++ d :: (raw ++ back)) (enclosed : Enclosed d raw back)
    (read : source = Reference.unescape raw) : Late back next := by
  have long : source.length ≤ raw.length := read ▸ Reference.length_unescape_le raw
  rw [List.append_cons] at eq
  rcases List.append_eq_append_iff.mp eq with ⟨middle, before, behind⟩ | ⟨middle, rfl, -⟩
  on_goal 2 => exact late_of_inside isGap solid (List.prefix_append ..) eq enclosed long
  obtain rfl | ⟨middle, last, rfl⟩ := List.eq_nil_or_concat middle
  · have inside : front ++ [d] <+: source := by rw [before, List.append_nil]
    exact late_of_inside isGap solid inside eq enclosed long
  rw [List.concat_eq_append] at before behind
  rw [← List.append_assoc] at before
  obtain rfl := List.singleton_inj.mp (List.append_inj' before rfl).2
  obtain ⟨c, more, rfl, starts⟩ := addressed.starts read
  rcases List.append_eq_append_iff.mp behind with ⟨extra, reaches, rest⟩ | ⟨extra, rfl, rest⟩
  · exact ⟨extra ++ c :: more, by simp, by rw [rest, List.append_assoc]⟩
  cases extra with
  | nil => exact ⟨c :: more, by simp, by simpa using rest.symm⟩
  | cons e extra =>
    -- The value begins in the gap, where no such character stands behind one that opens a value.
    obtain rfl := (List.cons.inj rest).1
    have chain := isGap.apart
    rw [List.append_assoc, List.singleton_append, List.isChain_append_cons_cons] at chain
    exact absurd ⟨enclosed.opensValue, starts⟩ chain.2.1

theorem isGap_tagEnd : IsGap tagEnd [] where
  closes := ⟨"</script>".toList, rfl, by decide⟩
  apart := by decide
  head := by simp

theorem isGap_betweenSources {next : Text} (addressed : Addressed next) (rest : Text) :
    IsGap betweenSources (next ++ rest) where
  closes := ⟨"</script>\n\n<script src=\"".toList, rfl, by decide⟩
  apart := by decide
  head := by
    obtain ⟨c, more, rfl, head⟩ := addressed
    rintro same
    obtain rfl : c = '\'' := Option.some.inj same
    exact absurd head (by decide)

/-- What is read as a source behind where the source begins leaves only what is behind where the
next source begins. -/
theorem late_of_written {source text value left : Text} {rest : List Text}
    (addressed : ∀ other ∈ source :: rest, Addressed other)
    (late : Late text (source ++ behindSource rest)) (written : Written text value left)
    (read : source = value) :
    ∃ next more, rest = next :: more ∧ Late left (next ++ behindSource more) := by
  obtain ⟨own, others⟩ := List.forall_mem_cons.mp addressed
  obtain ⟨front, solid, whole⟩ := late
  obtain none | ⟨inner, d, raw, back, rfl, enclosed, rfl, behind⟩ := written
  · exact absurd (read.trans none) own.ne_nil
  rw [← List.append_assoc] at whole
  have early : front ++ inner ≠ [] := by simp [solid]
  cases rest with
  | nil =>
    rw [behindSource, ← List.append_nil tagEnd] at whole
    obtain ⟨_, full, empty⟩ := late_of_enclosed isGap_tagEnd own early whole enclosed read
    exact absurd (List.append_eq_nil_iff.mp empty.symm).1 full
  | cons next more =>
    have gap := isGap_betweenSources (others next List.mem_cons_self) (behindSource more)
    exact ⟨next, more, rfl, (late_of_enclosed gap own early whole enclosed read).of_suffix behind⟩

theorem exists_of_source? {name : Text} {attributes : List (Text × Text)} {closed : Bool}
    {source : Text} (opened : Token.source? (.opening name attributes closed) = some source)
    (solid : source ≠ []) : ∃ entry ∈ attributes, source = entry.2 := by
  simp only [Token.source?, Token.tag?, Token.opened?, Option.map_some, Option.bind_some,
    sourceOf?] at opened
  split at opened
  · obtain rfl := Option.some.inj opened
    generalize found : Table.find? "src" _ = value? at solid ⊢
    cases value? with
    | none => exact absurd rfl solid
    | some value =>
      have listed := Table.subset_ofList _ (Table.mem_of_find? found)
      obtain ⟨entry, member, same⟩ := List.mem_map.mp listed
      obtain rfl := (Prod.mk.inj same).2
      exact ⟨entry, member, String.toList_ofList⟩
  · cases opened

theorem source?_eq_none {token : Token} (other : token.opened? = none) : token.source? = none := by
  rw [Token.source?, Token.tag?, other]
  rfl

theorem sources_of_unopened {tokens : List Token} (none : tokens.filterMap Token.opened? = []) :
    tokens.filterMap Token.source? = [] := by
  rw [List.filterMap_eq_nil_iff] at none ⊢
  exact fun token member => source?_eq_none (none token member)

/-- A first source is read from one of the attributes of an opening tag or behind the tag. -/
theorem sources_of_opening {name : Text} {attributes : List (Text × Text)} {closed : Bool}
    {more : List Token} {source : Text} {rest : List Text} (solid : source ≠ [])
    (same : (Token.opening name attributes closed :: more).filterMap Token.source? =
      source :: rest) :
    more.filterMap Token.source? = source :: rest ∨
      (∃ entry ∈ attributes, source = entry.2) ∧ more.filterMap Token.source? = rest := by
  cases opened : Token.source? (.opening name attributes closed) with
  | none =>
    rw [List.filterMap_cons_none opened] at same
    exact .inl same
  | some found =>
    rw [List.filterMap_cons_some opened] at same
    obtain ⟨rfl, others⟩ := List.cons.inj same
    exact .inr ⟨exists_of_source? opened solid, others⟩

/-- No sources are read from where the first has begun. -/
theorem not_sources_of_late {source : Text} {rest : List Text}
    (addressed : ∀ other ∈ source :: rest, Addressed other) {fuel : Nat} {final : Bool}
    {raw : Option Text} {text : Text} {tokens : List Token}
    (late : Late text (source ++ behindSource rest))
    (read : lexFrom fuel final raw text = some tokens) :
    tokens.filterMap Token.source? ≠ source :: rest := by
  induction fuel generalizing source rest final raw text tokens with
  | zero =>
    obtain rfl : [] = tokens := Option.some.inj read
    exact (List.cons_ne_nil _ _).symm
  | succ fuel ih =>
    cases text with
    | nil =>
      obtain rfl : [] = tokens := Option.some.inj read
      exact (List.cons_ne_nil _ _).symm
    | cons c text =>
      have reads := reads_step final raw (c :: text)
      rw [lexFrom] at read
      generalize step final raw (c :: text) = stepped at read reads
      cases stepped with
      | reject => cases read
      | halt taken left =>
        obtain ⟨part, unopened⟩ := reads
        have taken' := sources_of_unopened unopened
        dsimp only at read
        split at read
        · obtain rfl := Option.some.inj read
          rw [List.filterMap_append, taken', List.nil_append]
          split
          · exact (List.cons_ne_nil _ _).symm
          · exact (List.cons_ne_nil _ _).symm
        · obtain ⟨more, readOn, rfl⟩ := Option.map_eq_some_iff.mp read
          rw [List.filterMap_append, taken', List.nil_append]
          exact ih addressed (late.of_suffix part) readOn
      | proceed taken next left =>
        obtain ⟨more, readOn, rfl⟩ := Option.map_eq_some_iff.mp read
        obtain ⟨own, addressedRest⟩ := List.forall_mem_cons.mp addressed
        cases reads with
        | other part unopened =>
          rw [List.filterMap_append, sources_of_unopened unopened, List.nil_append]
          exact ih addressed (late.of_suffix part) readOn
        | tag part written =>
          intro same
          rcases sources_of_opening own.ne_nil same with same | ⟨⟨entry, listed, value⟩, others⟩
          · exact ih addressed (late.of_suffix part) readOn same
          · obtain ⟨next, later, rfl, behind⟩ :=
              late_of_written addressed late (written entry listed) value
            exact ih addressedRest behind readOn others

/-! ### Sources that are read back -/

theorem exists_behindSource (rest : List Text) :
    ∃ more, behindSource rest = '"' :: '>' :: more := by
  cases rest with
  | nil => exact ⟨_, rfl⟩
  | cons next rest => exact ⟨_, rfl⟩

/-- Where a tag cannot be read to its end, the reading goes on in its source or behind it. -/
theorem late_resume (source : Text) (rest : List Text) :
    Late (resume (tagStart ++ (source ++ behindSource rest))) (source ++ behindSource rest) := by
  obtain ⟨more, ended⟩ := exists_behindSource rest
  have member : '>' ∈ tagStart.tail ++ (source ++ behindSource rest) := by simp [ended]
  obtain ⟨before, after, cut⟩ := exists_cut?_char member
  have resumed : resume (tagStart ++ (source ++ behindSource rest)) = after := by
    show resume ('<' :: (tagStart.tail ++ (source ++ behindSource rest))) = after
    rw [resume, cut]
  obtain ⟨whole, -⟩ := cut?_char_eq_some_iff.mp cut
  obtain ⟨inside, rfl⟩ := prefix_of_not_mem (by decide) whole
  rw [List.append_assoc, List.append_cancel_left_eq] at whole
  exact ⟨inside ++ ['>'], by simp, by rw [resumed, whole]; simp⟩

/-- Where the first tag is read, it has the first source only if that is quotable. -/
theorem quotable_of_opened {source value after left : Text} {rest : List Text}
    {attributes : List (Text × Text)} {closed : Bool} {more : List Token}
    (addressed : ∀ other ∈ source :: rest, Addressed other)
    (cut : cut? ['"'] (source ++ behindSource rest) = some (value, after))
    (part : left <:+ after) (written : ∀ entry ∈ attributes, Written after entry.2 left)
    {fuel : Nat} {final : Bool} {raw : Option Text} (read : lexFrom fuel final raw left = some more)
    (same : (Token.opening scriptName (("src".toList, Reference.unescape value) :: attributes)
      closed :: more).filterMap Token.source? = source :: rest) : Quotable source := by
  obtain ⟨behind, ended⟩ := exists_behindSource rest
  obtain ⟨whole, unquoted⟩ := cut?_char_eq_some_iff.mp cut
  obtain ⟨own, addressedRest⟩ := List.forall_mem_cons.mp addressed
  have late := late_of_cut? cut
  rcases sources_of_opening own.ne_nil same with same | ⟨⟨entry, listed, shown⟩, others⟩
  · exact absurd same (not_sources_of_late addressed (late.of_suffix part) read)
  rcases List.mem_cons.mp listed with rfl | listed
  · have long : source.length ≤ value.length := shown ▸ Reference.length_unescape_le value
    rw [ended] at whole
    obtain rfl := (prefix_of_not_mem unquoted whole.symm).eq_of_length_le long
    exact ⟨unquoted, shown.symm⟩
  · obtain ⟨next, later, rfl, behind⟩ :=
      late_of_written addressed late (written entry listed) shown
    exact absurd others (not_sources_of_late addressedRest behind read)

/-- A source that is read back first is quotable. The induction is for a tag that is incomplete: it
is read once more as if nothing could follow. -/
theorem quotable_of_sources {source : Text} {rest : List Text}
    (addressed : ∀ other ∈ source :: rest, Addressed other) {fuel : Nat} {final : Bool}
    {tokens : List Token}
    (read : lexFrom fuel final none (printedTags (source :: rest)) = some tokens)
    (same : tokens.filterMap Token.source? = source :: rest) : Quotable source := by
  have shown : printedTags (source :: rest) = tagStart ++ (source ++ behindSource rest) := rfl
  have filled : tagStart ++ (source ++ behindSource rest) ≠ [] :=
    List.append_ne_nil_of_left_ne_nil (by decide) _
  obtain ⟨behind, ended⟩ := exists_behindSource rest
  have quote : '"' ∈ source ++ behindSource rest := by simp [ended]
  obtain ⟨value, after, cut⟩ := exists_cut?_char quote
  rw [shown] at read
  induction fuel generalizing final tokens with
  | zero =>
    obtain rfl : [] = tokens := Option.some.inj read
    cases same
  | succ fuel ih =>
    cases construct : startTag (tagStart.tail ++ (source ++ behindSource rest)) with
    | rejected => exact absurd construct (startTag_ne_rejected _)
    | complete taken raw left =>
      rw [lexFrom_proceed (step_of_complete construct final) filled] at read
      obtain ⟨more, readOn, rfl⟩ := Option.map_eq_some_iff.mp read
      obtain ⟨part, ⟨attributes, closed, rfl, written⟩ | unopened⟩ :=
        startTag_src_complete cut construct
      · exact quotable_of_opened addressed cut part written readOn same
      · have late := (late_of_cut? cut).of_suffix part
        rw [List.filterMap_append, sources_of_unopened unopened, List.nil_append] at same
        exact absurd same (not_sources_of_late addressed late readOn)
    | incomplete =>
      have stepped := step_of_incomplete construct final
      cases final with
      | true =>
        rw [lexFrom_proceed stepped filled] at read
        obtain ⟨more, readOn, rfl⟩ := Option.map_eq_some_iff.mp read
        have sources : more.filterMap Token.source? = source :: rest := same
        exact absurd sources (not_sources_of_late addressed (late_resume source rest) readOn)
      | false =>
        rw [lexFrom_halt stepped filled] at read
        obtain ⟨more, readOn, rfl⟩ := Option.map_eq_some_iff.mp read
        exact ih readOn same

/-- Printed tags are read with the sources that they were printed from exactly if all of these are
quotable. -/
theorem readsBack_iff {sources : List Text} (addressed : ∀ source ∈ sources, Addressed source)
    (fuel : Nat) :
    (∃ tokens, lexFrom (fuel + 3 * sources.length) false none (printedTags sources) = some tokens ∧
      tokens.filterMap Token.source? = sources) ↔ ∀ source ∈ sources, Quotable source := by
  induction sources with
  | nil => simp [printedTags, lexFrom_nil]
  | cons source rest ih =>
    obtain ⟨own, others⟩ := List.forall_mem_cons.mp addressed
    rw [List.forall_mem_cons, ← ih others]
    constructor
    · rintro ⟨tokens, read, same⟩
      have quotable := quotable_of_sources addressed read same
      rw [List.length_cons, Nat.mul_succ, ← Nat.add_assoc,
        lexFrom_printedTags_cons quotable.1] at read
      obtain ⟨more, readOn, rfl⟩ := Option.map_eq_some_iff.mp read
      rw [sources_tagTokens, quotable.2] at same
      exact ⟨quotable, more, readOn, (List.cons.inj same).2⟩
    · rintro ⟨quotable, tokens, read, same⟩
      refine ⟨tagTokens source ++ gapTokens rest ++ tokens, ?_, ?_⟩
      · rw [List.length_cons, Nat.mul_succ, ← Nat.add_assoc, lexFrom_printedTags_cons quotable.1,
          read]
        rfl
      · rw [sources_tagTokens, quotable.2, same]

end PageClip.Markup
