import PageClip.Markup.StartTag
import PageClip.Proofs.Markup.Reference
import PageClip.Proofs.Text.Cut

/-!
# Where attribute values are written

Every attribute value that is not empty is read off a piece of the tag: one in
quotes, or one behind an equals sign or a blank and without blanks and closing
brackets (`written_of_attributesFrom`). The reading goes on behind that piece.
-/

namespace PageClip.Markup

open PageClip.Text

/-- What a written value stands between: the character in front of it and the text behind it. -/
inductive Enclosed : Char → Text → Text → Prop where
  | double {raw back : Text} : '"' ∉ raw → Enclosed '"' raw ('"' :: back)
  | single {raw back : Text} : '\'' ∉ raw → Enclosed '\'' raw ('\'' :: back)
  | bare {d : Char} {raw back : Text} :
      d = '=' ∨ isBlank d = true → (∀ c ∈ raw, inBareValue c = true) → Enclosed d raw back

/-- A value is empty, or it is what is written somewhere in the text, in front of what is left. -/
def Written (text value left : Text) : Prop :=
  value = [] ∨ ∃ front d raw back, text = front ++ d :: (raw ++ back) ∧ Enclosed d raw back ∧
    value = Reference.unescape raw ∧ left <:+ back

namespace Written

variable {text value left : Text}

theorem of_suffix {whole : Text} (written : Written text value left) (part : text <:+ whole) :
    Written whole value left := by
  obtain ⟨front, rfl⟩ := part
  obtain empty | ⟨inner, d, raw, back, rfl, enclosed, read, behind⟩ := written
  · exact .inl empty
  · exact .inr ⟨front ++ inner, d, raw, back, by simp, enclosed, read, behind⟩

theorem left_suffix {less : Text} (written : Written text value left) (part : less <:+ left) :
    Written text value less := by
  obtain empty | ⟨front, d, raw, back, eq, enclosed, read, behind⟩ := written
  · exact .inl empty
  · exact .inr ⟨front, d, raw, back, eq, enclosed, read, part.trans behind⟩

end Written

/-- What is enclosed is written, and what is left behind it is left of the text. -/
theorem Enclosed.written {d : Char} {raw back left : Text} (enclosed : Enclosed d raw back)
    (part : left <:+ back) (front : Text) :
    left <:+ front ++ d :: (raw ++ back) ∧
      Written (front ++ d :: (raw ++ back)) (Reference.unescape raw) left :=
  ⟨part.trans ⟨front ++ d :: raw, by simp⟩, .inr ⟨front, d, raw, back, rfl, enclosed, rfl, part⟩⟩

/-! ### One attribute -/

theorem quotedValue?_eq_some {shown raw : Text} {place : Place}
    (found : quotedValue? shown = some (raw, place)) :
    ∃ q, shown = q :: (raw ++ q :: place.rest) ∧ Enclosed q raw (q :: place.rest) := by
  unfold quotedValue? at found
  split at found
  · obtain ⟨⟨value, after⟩, cut, eq⟩ := Option.map_eq_some_iff.mp found
    obtain ⟨rfl, rfl⟩ := Prod.mk.inj eq
    obtain ⟨rfl, absent⟩ := cut?_char_eq_some_iff.mp cut
    exact ⟨'"', rfl, .double absent⟩
  · obtain ⟨⟨value, after⟩, cut, eq⟩ := Option.map_eq_some_iff.mp found
    obtain ⟨rfl, rfl⟩ := Prod.mk.inj eq
    obtain ⟨rfl, absent⟩ := cut?_char_eq_some_iff.mp cut
    exact ⟨'\'', rfl, .single absent⟩
  · cases found

/-- Behind equals signs and blanks stands one of them. -/
theorem exists_before_bare (signs gap : Text) (equals : ∀ c ∈ signs, c = '=')
    (blank : ∀ c ∈ gap, isBlank c = true) :
    ∃ front d, '=' :: (signs ++ gap) = front ++ [d] ∧ (d = '=' ∨ isBlank d = true) := by
  obtain none | ⟨front, d, eq⟩ := List.eq_nil_or_concat ('=' :: (signs ++ gap))
  · cases none
  · refine ⟨front, d, eq.trans (List.concat_eq_append ..), ?_⟩
    have last : d ∈ '=' :: (signs ++ gap) := by
      rw [eq]
      simp
    rcases List.mem_cons.mp last with first | inside
    · exact .inl first
    · rcases List.mem_append.mp inside with sign | space
      · exact .inl (equals d sign)
      · exact .inr (blank d space)

theorem inBareValue_of_mem {text : Text} : ∀ c ∈ text.takeWhile inBareValue, inBareValue c = true :=
  fun _ member => List.mem_takeWhile_imp member

theorem written_of_attributeValue? {text raw : Text} {place : Place}
    (found : attributeValue? text = some (raw, place)) :
    place.rest <:+ text ∧ Written text (Reference.unescape raw) place.rest := by
  have indent := List.takeWhile_append_dropWhile (p := isBlank) (l := text)
  unfold attributeValue? trimLeft at found
  split at found
  on_goal 2 => cases found
  next rest start =>
  generalize text.takeWhile isBlank = front at indent
  rw [start] at indent
  have equals : ∀ c ∈ rest.takeWhile (· == '='), c = '=' := fun c member => by
    simpa using List.mem_takeWhile_imp member
  have blank : ∀ c ∈ (rest.dropWhile (· == '=')).takeWhile isBlank, isBlank c = true :=
    fun c member => List.mem_takeWhile_imp member
  have parts : rest = rest.takeWhile (· == '=') ++ ((rest.dropWhile (· == '=')).takeWhile isBlank ++
      (rest.dropWhile (· == '=')).dropWhile isBlank) := by
    rw [List.takeWhile_append_dropWhile, List.takeWhile_append_dropWhile]
  dsimp only at found
  generalize rest.takeWhile (· == '=') = signs at found equals parts
  generalize (rest.dropWhile (· == '=')).takeWhile isBlank = gap at found blank parts
  generalize (rest.dropWhile (· == '=')).dropWhile isBlank = shown at found parts
  subst parts indent
  have bareParts := List.takeWhile_append_dropWhile (p := inBareValue) (l := shown)
  split at found
  · next value behind quoted =>
    obtain ⟨rfl, rfl⟩ := Prod.mk.inj (Option.some.inj found)
    obtain ⟨q, rfl, enclosed⟩ := quotedValue?_eq_some quoted
    have shape : front ++ '=' :: (signs ++ (gap ++ q :: (value ++ q :: behind.rest))) =
        front ++ '=' :: (signs ++ gap) ++ q :: (value ++ q :: behind.rest) := by simp
    rw [shape]
    exact enclosed.written (List.suffix_cons ..) _
  · split at found
    · split at found
      · obtain ⟨rfl, rfl⟩ := Prod.mk.inj (Option.some.inj found)
        exact ⟨⟨front ++ '=' :: (signs ++ gap), by simp⟩, .inl rfl⟩
      split at found
      · cases found
      · next tight several =>
        -- The value starts with the last equals sign, so one of the others stands before it.
        obtain ⟨rfl, rfl⟩ := Prod.mk.inj (Option.some.inj found)
        obtain rfl : gap = [] := by simpa using tight
        obtain none | ⟨others, last, eq⟩ := List.eq_nil_or_concat signs
        · simp [none] at several
        rw [List.concat_eq_append] at eq
        subst eq
        obtain rfl : last = '=' := equals last (by simp)
        obtain ⟨head, d, eq, sign⟩ := exists_before_bare others []
          (fun c member => equals c (by simp [member])) (by simp)
        rw [List.append_nil] at eq
        have shape : front ++ '=' :: (others ++ ['='] ++ ([] ++ shown)) = front ++ head ++ d ::
            ('=' :: shown.takeWhile inBareValue ++ shown.dropWhile inBareValue) := by
          rw [List.cons_append, bareParts, List.append_assoc front, List.append_cons head, ← eq]
          simp
        rw [shape]
        have bare : ∀ c ∈ '=' :: shown.takeWhile inBareValue, inBareValue c = true :=
          List.forall_mem_cons.mpr ⟨by decide, inBareValue_of_mem⟩
        exact (Enclosed.bare sign bare).written List.suffix_rfl _
    · obtain ⟨rfl, rfl⟩ := Prod.mk.inj (Option.some.inj found)
      obtain ⟨head, d, eq, sign⟩ := exists_before_bare signs gap equals blank
      have shape : front ++ '=' :: (signs ++ (gap ++ shown)) = front ++ head ++ d ::
          (shown.takeWhile inBareValue ++ shown.dropWhile inBareValue) := by
        rw [bareParts, List.append_assoc front, List.append_cons head, ← eq]
        simp
      rw [shape]
      exact (Enclosed.bare sign inBareValue_of_mem).written List.suffix_rfl _

/-! ### All attributes -/

theorem skipGap_suffix (before : Char) (text : Text) : (Place.skipGap before text).rest <:+ text := by
  fun_induction Place.skipGap before text with
  | case1 => exact List.suffix_rfl
  | case2 => exact List.suffix_rfl
  | case3 before c rest _ _ ih => exact ih.trans (List.suffix_cons ..)
  | case4 => exact List.suffix_rfl

theorem written_of_attributesFrom (fuel : Nat) (place : Place) :
    (attributesFrom fuel place).2.rest <:+ place.rest ∧
      ∀ entry ∈ (attributesFrom fuel place).1,
        Written place.rest entry.2 (attributesFrom fuel place).2.rest := by
  induction fuel generalizing place with
  | zero => simp [attributesFrom]
  | succ fuel ih =>
    rw [attributesFrom]
    split
    · simp
    next c rest shown =>
    split
    · simp
    have name : rest.dropWhile inAttributeName <:+ place.rest := by
      rw [shown]
      exact (List.dropWhile_suffix _).trans (List.suffix_cons ..)
    generalize rest.dropWhile inAttributeName = after at name ⊢
    have goOn : ∀ (value : Text) (behind : Place), behind.rest <:+ after →
        Written after value behind.rest →
        (attributesFrom fuel (.skipGap behind.before behind.rest)).2.rest <:+ place.rest ∧
          ∀ entry ∈ (lower (c :: rest.takeWhile inAttributeName), value) ::
              (attributesFrom fuel (.skipGap behind.before behind.rest)).1,
            Written place.rest entry.2
              (attributesFrom fuel (.skipGap behind.before behind.rest)).2.rest := by
      intro value behind later written
      obtain ⟨more, others⟩ := ih (.skipGap behind.before behind.rest)
      have gap := skipGap_suffix behind.before behind.rest
      have inside := (gap.trans later).trans name
      refine ⟨more.trans inside, List.forall_mem_cons.mpr ⟨?_, ?_⟩⟩
      · exact (written.of_suffix name).left_suffix (more.trans gap)
      · exact fun entry member => (others entry member).of_suffix inside
    dsimp only
    cases valued : attributeValue? after with
    | none => exact goOn [] _ List.suffix_rfl (.inl rfl)
    | some found =>
      obtain ⟨later, written⟩ := written_of_attributeValue? valued
      exact goOn _ _ later written

/-! ### The end of the tag -/

/-- The start tag that a place behind its attributes is at the end of. -/
def tagAt (text name : Text) (attributes : List (Text × Text)) (place : Place) : Construct :=
  match place.rest with
  | '>' :: rest =>
    let raw := name = "script".toList || name = "style".toList
    .complete [.opening name attributes false] (if raw then some name else none) rest
  | '/' :: '>' :: rest => .complete [.opening name attributes true] none rest
  | [] => .incomplete
  | c :: rest =>
    if c.isAlpha || c = '=' || c = '/' then .incomplete
    else
      let length := text.length - (c :: rest).length
      .complete [.text ('<' :: text.take length)] none (c :: rest)

theorem startTag_eq (text : Text) :
    startTag text =
      let name := text.takeWhile inTagName
      let gap := Place.skipGap (name.getLastD '<') (text.dropWhile inTagName)
      let found := attributesFrom gap.rest.length gap
      tagAt text (lower name) found.1 found.2 := rfl

theorem tagAt_complete {text name rest : Text} {attributes : List (Text × Text)} {place : Place}
    {tokens : List Token} {raw : Option Text}
    (h : tagAt text name attributes place = .complete tokens raw rest) :
    rest <:+ place.rest ∧ ((∃ closed, tokens = [.opening name attributes closed]) ∨
      ∃ content, tokens = [.text content]) := by
  unfold tagAt at h
  split at h
  · next after shown =>
    obtain ⟨rfl, -, rfl⟩ := Construct.complete.inj h
    exact ⟨shown ▸ List.suffix_cons .., .inl ⟨false, rfl⟩⟩
  · next after shown =>
    obtain ⟨rfl, -, rfl⟩ := Construct.complete.inj h
    exact ⟨shown ▸ ⟨['/', '>'], rfl⟩, .inl ⟨true, rfl⟩⟩
  · cases h
  · next c after _ _ shown =>
    split at h
    · cases h
    obtain ⟨rfl, -, rfl⟩ := Construct.complete.inj h
    exact ⟨shown ▸ List.suffix_rfl, .inr ⟨_, rfl⟩⟩

theorem startTag_ne_rejected (text : Text) : startTag text ≠ .rejected := by
  rw [startTag_eq]
  dsimp only
  unfold tagAt
  split
  · exact fun same => nomatch same
  · exact fun same => nomatch same
  · exact fun same => nomatch same
  · split
    · exact fun same => nomatch same
    · exact fun same => nomatch same

end PageClip.Markup
