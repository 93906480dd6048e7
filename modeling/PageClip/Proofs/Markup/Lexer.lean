import PageClip.Markup.Lexer
import PageClip.Proofs.Markup.StartTag

/-!
# Steps of reading markup

A step leaves an end of the text that it was given, and it takes at most one start
tag from it, with values that are written in front of that end (`Reads`).
-/

namespace PageClip.Markup

open PageClip.Text

/-- The name and the attributes of a start tag. -/
def Token.opened? : Token → Option (Text × List (Text × Text))
  | .opening name attributes _ => some (name, attributes)
  | _ => none

/-- A step takes tokens from a text and leaves the rest of it: either one start tag, or none. -/
inductive Reads (text : Text) : List Token → Text → Prop where
  | tag {name : Text} {attributes : List (Text × Text)} {closed : Bool} {rest : Text} :
      rest <:+ text → (∀ entry ∈ attributes, Written text entry.2 rest) →
        Reads text [.opening name attributes closed] rest
  | other {tokens : List Token} {rest : Text} :
      rest <:+ text → tokens.filterMap Token.opened? = [] → Reads text tokens rest

namespace Reads

variable {text rest : Text} {tokens : List Token}

theorem of_suffix {whole : Text} (reads : Reads text tokens rest) (part : text <:+ whole) :
    Reads whole tokens rest := by
  cases reads with
  | tag left written =>
    exact .tag (left.trans part) fun entry member => (written entry member).of_suffix part
  | other left none => exact .other (left.trans part) none

end Reads

/-! ### Constructs -/

theorem reads_startTag {text rest : Text} {tokens : List Token} {raw : Option Text}
    (h : startTag text = .complete tokens raw rest) : Reads text tokens rest := by
  rw [startTag_eq] at h
  dsimp only at h
  have gap := (skipGap_suffix ((text.takeWhile inTagName).getLastD '<')
    (text.dropWhile inTagName)).trans (List.dropWhile_suffix _)
  generalize Place.skipGap _ (text.dropWhile inTagName) = place at h gap
  obtain ⟨last, written⟩ := written_of_attributesFrom place.rest.length place
  obtain ⟨part, ⟨closed, rfl⟩ | ⟨content, rfl⟩⟩ := tagAt_complete h
  · exact .tag ((part.trans last).trans gap) fun entry member =>
      ((written entry member).of_suffix gap).left_suffix part
  · exact .other ((part.trans last).trans gap) rfl

theorem suffix_of_cut? {mark text before after : Text} (cut : cut? mark text = some (before, after)) :
    after <:+ text := ⟨before ++ mark, (cut?_eq_some cut).symm⟩

theorem suffix_of_plainEndTag? {text name rest : Text}
    (found : plainEndTag? text = some (name, rest)) : rest <:+ text := by
  unfold plainEndTag? at found
  split at found
  · cases found
  next c more start =>
  split at found
  · cases found
  split at found
  · next after shown =>
    obtain ⟨-, rfl⟩ := Prod.mk.inj (Option.some.inj found)
    have inner : '>' :: after <:+ more := shown ▸
      (List.dropWhile_suffix isBlank).trans (List.dropWhile_suffix inEndName)
    have outer : c :: more <:+ text := start ▸ List.dropWhile_suffix isBlank
    exact (List.suffix_cons ..).trans (inner.trans ((List.suffix_cons ..).trans outer))
  · cases found

theorem reads_endTag {text rest : Text} {tokens : List Token} {raw : Option Text}
    (h : endTag text = .complete tokens raw rest) : Reads text tokens rest := by
  unfold endTag at h
  split at h
  · cases h
  next before after cut =>
  have behind := suffix_of_cut? cut
  split at h
  · next name left found =>
    obtain ⟨rfl, -, rfl⟩ := Construct.complete.inj h
    exact .other (suffix_of_plainEndTag? found) rfl
  split at h
  · obtain ⟨rfl, -, rfl⟩ := Construct.complete.inj h
    exact .other behind rfl
  split at h
  all_goals
    obtain ⟨rfl, -, rfl⟩ := Construct.complete.inj h
    exact .other behind rfl

theorem suffix_of_cutComment? {text content rest : Text}
    (cut : cutComment? text = some (content, rest)) : rest <:+ text := by
  induction text generalizing content with
  | nil => cases cut
  | cons c text ih =>
    unfold cutComment? at cut
    dsimp only at cut
    split at cut
    · next after here =>
      obtain ⟨-, rfl⟩ := Prod.mk.inj (Option.some.inj cut)
      split at here
      · next more =>
        split at here
        · next found closed =>
          obtain rfl := Option.some.inj here
          have inner : '>' :: found <:+ more := closed ▸ List.dropWhile_suffix isBlank
          exact (List.suffix_cons ..).trans (inner.trans ⟨['-', '-'], rfl⟩)
        · cases here
      · cases here
    · obtain ⟨⟨before, after⟩, found, eq⟩ := Option.map_eq_some_iff.mp cut
      obtain ⟨-, rfl⟩ := Prod.mk.inj eq
      exact (ih found).trans (List.suffix_cons ..)

theorem suffix_of_sectionEnd? {double : Bool} {text rest : Text}
    (found : sectionEnd? double text = some rest) : rest <:+ text := by
  unfold sectionEnd? at found
  split at found
  · next more =>
    split at found
    · next after shown =>
      obtain rfl := Option.some.inj found
      have inner : '>' :: after <:+ more := shown ▸ List.dropWhile_suffix isBlank
      exact (List.suffix_cons ..).trans (inner.trans (List.suffix_cons ..))
    · next inside shown =>
      split at found
      · next after shown' =>
        obtain rfl := Option.some.inj found
        have outer : ']' :: inside <:+ more := shown ▸ List.dropWhile_suffix isBlank
        have inner : '>' :: after <:+ inside := shown' ▸ List.dropWhile_suffix isBlank
        exact (List.suffix_cons ..).trans (inner.trans ((List.suffix_cons ..).trans
          (outer.trans (List.suffix_cons ..))))
      · cases found
    · cases found
  · cases found

theorem suffix_of_cutSection? {double : Bool} {text content rest : Text}
    (cut : cutSection? double text = some (content, rest)) : rest <:+ text := by
  induction text generalizing content with
  | nil => cases cut
  | cons c text ih =>
    rw [cutSection?] at cut
    split at cut
    · next after found =>
      obtain ⟨-, rfl⟩ := Prod.mk.inj (Option.some.inj cut)
      exact suffix_of_sectionEnd? found
    · obtain ⟨⟨before, after⟩, found, eq⟩ := Option.map_eq_some_iff.mp cut
      obtain ⟨-, rfl⟩ := Prod.mk.inj eq
      exact (ih found).trans (List.suffix_cons ..)

theorem reads_markedSection {text rest : Text} {tokens : List Token} {raw : Option Text}
    (h : markedSection text = .complete tokens raw rest) : Reads text tokens rest := by
  unfold markedSection at h
  split at h
  · cases h
  dsimp only at h
  iterate 3 (split at h; · cases h)
  split at h
  · cases h
  next content after cut =>
  split at h
  all_goals
    obtain ⟨rfl, -, rfl⟩ := Construct.complete.inj h
    exact .other (suffix_of_cutSection? cut) rfl

theorem reads_remark {text rest : Text} {tokens : List Token} {raw : Option Text}
    (h : remark text = .complete tokens raw rest) : Reads text tokens rest := by
  unfold remark at h
  split at h
  · next content after cut =>
    obtain ⟨rfl, -, rfl⟩ := Construct.complete.inj h
    exact .other (suffix_of_cut? cut) rfl
  · cases h

theorem reads_declaration {text rest : Text} {tokens : List Token} {raw : Option Text}
    (h : declaration text = .complete tokens raw rest) : Reads text tokens rest := by
  unfold declaration at h
  split at h
  · next more =>
    split at h
    · next content after cut =>
      obtain ⟨rfl, -, rfl⟩ := Construct.complete.inj h
      exact .other ((suffix_of_cutComment? cut).trans ⟨['-', '-'], rfl⟩) rfl
    · cases h
  · exact (reads_markedSection h).of_suffix (List.suffix_cons ..)
  · exact reads_remark h

theorem reads_construct? {text rest : Text} {tokens : List Token} {raw : Option Text}
    (h : construct? text = some (.complete tokens raw rest)) : Reads text tokens rest := by
  unfold construct? at h
  split at h
  · exact (reads_endTag (Option.some.inj h)).of_suffix (List.suffix_cons ..)
  · exact (reads_declaration (Option.some.inj h)).of_suffix (List.suffix_cons ..)
  · exact (reads_remark (Option.some.inj h)).of_suffix (List.suffix_cons ..)
  · split at h
    · exact reads_startTag (Option.some.inj h)
    · cases h
  · cases h

/-! ### Steps -/

theorem resume_suffix (text : Text) : resume text <:+ text := by
  unfold resume
  split
  · exact List.suffix_rfl
  split
  · next cut => exact (suffix_of_cut? cut).trans (List.suffix_cons ..)
  split
  · exact (List.dropWhile_suffix _).trans (List.suffix_cons ..)
  · exact List.suffix_cons ..

/-- What a step does to a text: it reads tokens, or it stops without a start tag. -/
def Step.Reads (text : Text) : Step → Prop
  | .proceed tokens _ rest => Markup.Reads text tokens rest
  | .halt tokens rest => rest <:+ text ∧ tokens.filterMap Token.opened? = []
  | .reject => True

theorem reads_stepBracket (final : Bool) (rest : Text) :
    (stepBracket final rest).Reads ('<' :: rest) := by
  unfold stepBracket
  split
  · split
    · next empty => exact ⟨by simp [List.isEmpty_iff.mp empty], rfl⟩
    · exact .other (List.suffix_cons ..) rfl
  · next found => exact (reads_construct? found).of_suffix (List.suffix_cons ..)
  · trivial
  · split
    · exact .other (resume_suffix _) rfl
    · exact ⟨List.suffix_rfl, rfl⟩

theorem suffix_of_numericReference? {shown text after : Text}
    (found : numericReference? shown = some (text, after)) : after <:+ shown := by
  unfold numericReference? at found
  split at found
  · next code c rest coded =>
    split at found
    · cases found
    obtain ⟨-, rfl⟩ := Prod.mk.inj (Option.some.inj found)
    exact (Reference.dropSemicolon_suffix _).trans (Reference.suffix_of_code? coded)
  · cases found

theorem suffix_of_referenceName? {text name after : Text}
    (found : referenceName? text = some (name, after)) : after <:+ text := by
  have parts := List.takeWhile_append_dropWhile (p := inReferenceName) (l := text)
  unfold referenceName? at found
  dsimp only at found
  split at found
  · next c rest shown =>
    obtain ⟨-, rfl⟩ := Prod.mk.inj (Option.some.inj found)
    exact shown ▸ List.dropWhile_suffix _
  · next whole =>
    split at found
    · cases found
    obtain ⟨-, rfl⟩ := Prod.mk.inj (Option.some.inj found)
    rw [whole, List.append_nil] at parts
    rw [parts]
    exact List.drop_suffix ..

theorem reads_stepAmpersand (final : Bool) (rest : Text) :
    (stepAmpersand final rest).Reads ('&' :: rest) := by
  unfold stepAmpersand
  split
  · next shown =>
    have behind : shown <:+ '&' :: '#' :: shown := ⟨['&', '#'], rfl⟩
    split
    · next found => exact .other ((suffix_of_numericReference? found).trans behind) rfl
    split
    · exact ⟨behind, rfl⟩
    · exact ⟨List.suffix_rfl, rfl⟩
  · next c more _ =>
    split
    · split
      · next found =>
        exact .other ((Reference.dropSemicolon_suffix _).trans
          ((suffix_of_referenceName? found).trans (List.suffix_cons ..))) rfl
      · refine ⟨?_, rfl⟩
        split
        · exact List.suffix_cons ..
        · exact List.suffix_rfl
    · exact .other (List.suffix_cons ..) rfl
  · exact ⟨List.suffix_rfl, rfl⟩

theorem suffix_of_cutRaw? {name text before tag : Text} (cut : cutRaw? name text = some (before, tag)) :
    tag <:+ text := by
  induction text generalizing before with
  | nil => cases cut
  | cons c text ih =>
    rw [cutRaw?] at cut
    split at cut
    · obtain ⟨-, rfl⟩ := Prod.mk.inj (Option.some.inj cut)
      exact List.suffix_rfl
    · obtain ⟨⟨front, back⟩, found, eq⟩ := Option.map_eq_some_iff.mp cut
      obtain ⟨-, rfl⟩ := Prod.mk.inj eq
      exact (ih found).trans (List.suffix_cons ..)

theorem reads_stepRaw (name text : Text) : (stepRaw name text).Reads text := by
  unfold stepRaw
  split
  · exact ⟨List.suffix_rfl, rfl⟩
  · next tag cut =>
    have part := suffix_of_cutRaw? cut
    split
    · next found =>
      have behind := ((suffix_of_plainEndTag? found).trans (List.drop_suffix ..)).trans part
      split
      · exact .other behind rfl
      · exact .other behind rfl
    · exact .other (((List.drop_suffix ..).trans (List.dropWhile_suffix _)).trans part) rfl
  · next cut => exact .other (suffix_of_cutRaw? cut) rfl

theorem reads_step (final : Bool) (raw : Option Text) (text : Text) :
    (step final raw text).Reads text := by
  unfold step
  split
  · exact reads_stepRaw ..
  unfold stepPlain
  split
  · exact reads_stepBracket ..
  · exact reads_stepAmpersand ..
  · exact .other (List.dropWhile_suffix _) rfl

/-! ### Reading on -/

theorem lexFrom_nil (fuel : Nat) (final : Bool) (raw : Option Text) :
    lexFrom fuel final raw [] = some [] := by
  cases fuel <;> rfl

theorem lexFrom_proceed {final : Bool} {raw next : Option Text} {text rest : Text}
    {tokens : List Token} (stepped : step final raw text = .proceed tokens next rest)
    (filled : text ≠ []) (fuel : Nat) :
    lexFrom (fuel + 1) final raw text = (lexFrom fuel final next rest).map (tokens ++ ·) := by
  cases text with
  | nil => exact absurd rfl filled
  | cons c text => rw [lexFrom, stepped]

theorem lexFrom_halt {raw : Option Text} {text rest : Text} {tokens : List Token}
    (stepped : step false raw text = .halt tokens rest) (filled : text ≠ []) (fuel : Nat) :
    lexFrom (fuel + 1) false raw text = (lexFrom fuel true raw rest).map (tokens ++ ·) := by
  cases text with
  | nil => exact absurd rfl filled
  | cons c text =>
    rw [lexFrom, stepped]
    rfl

end PageClip.Markup
