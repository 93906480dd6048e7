import PageClip.Proofs.Decimal.Numeral
import PageClip.Proofs.Style.Ids
import PageClip.Proofs.Style.MediaBody

/-!
# Stylesheets that are refused

However malformed a stylesheet is, base styles come out of it. Compiling its media blocks
ends in a fault where a condition asks for a greatest width with too many digits, and
`compileStyles_outcome` says that nowhere else it does.
-/

namespace PageClip

open Text

namespace Breakpoint

theorem widthHere?_digits {condition digits : Text} (h : widthHere? condition = some digits) :
    digits ≠ [] ∧ ∀ c ∈ digits, isDecimal c := by
  unfold widthHere? at h
  split at h
  · cases h
  split at h
  · dsimp only at h
    split at h
    · cases h
    · next solid =>
      obtain ⟨_, -, rfl⟩ := Option.map_eq_some_iff.mp h
      exact ⟨by simpa using solid, fun c member => List.mem_takeWhile_imp member⟩
  · cases h

theorem width?_digits {condition digits : Text} (h : width? condition = some digits) :
    digits ≠ [] ∧ ∀ c ∈ digits, isDecimal c := by
  induction condition with
  | nil => cases h
  | cons c rest ih =>
    rw [width?] at h
    rcases Option.or_eq_some_iff.mp h with here | ⟨-, later⟩
    · exact widthHere?_digits here
    · exact ih later

theorem width?_of_here {condition digits : Text} (h : widthHere? condition = some digits) :
    width? condition = some digits := by
  cases condition with
  | nil => cases h
  | cons c rest => rw [width?, h, Option.some_or]

/-- Whether the greatest width that a condition asks for, if any, has not too many digits. -/
def HasReadableWidth (condition : Text) : Prop :=
  ∀ digits, width? condition = some digits → digits.length ≤ Decimal.longest

theorem ofCondition_valueWhere (condition : Text) :
    ValueWhere .unreadableInteger (HasReadableWidth condition) (ofCondition condition) := by
  unfold HasReadableWidth ofCondition
  cases asked : width? condition with
  | none => exact .inl ⟨by simp, none, rfl⟩
  | some digits =>
    obtain ⟨solid, decimal⟩ := width?_digits asked
    have unsigned : Decimal.IsSign [] := .inl rfl
    have short := Decimal.readInteger?_bare unsigned solid decimal
    rw [List.nil_append] at short
    dsimp only
    cases read : Decimal.readInteger? digits with
    | none =>
      rw [read] at short
      exact .inr ⟨fun all => by simpa using short.mpr (all digits rfl), rfl⟩
    | some width =>
      rw [read] at short
      refine .inl ⟨?_, _, rfl⟩
      rintro _ ⟨⟩
      exact short.mp rfl

end Breakpoint

namespace Stylesheet

/-- Whether the media blocks of a stylesheet ask for no width with too many digits. -/
def HasReadableWidths (sheet : Stylesheet) : Prop :=
  ∀ atRule ∈ sheet.atRules, atRule.name = "media".toList →
    Breakpoint.HasReadableWidth atRule.prelude

theorem AtRule.tierRules_valueWhere (atRule : AtRule) :
    ValueWhere .unreadableInteger
      (atRule.name = "media".toList → Breakpoint.HasReadableWidth atRule.prelude)
      atRule.tierRules := by
  unfold AtRule.tierRules
  by_cases media : atRule.name = "media".toList
  · rw [if_pos media]
    rcases Breakpoint.ofCondition_valueWhere atRule.prelude with ⟨readable, tier, read⟩ | ⟨wide, refused⟩
    · rw [read]
      exact .inl ⟨fun _ => readable, _, rfl⟩
    · rw [refused]
      exact .inr ⟨fun all => wide (all media), rfl⟩
  · rw [if_neg media]
    exact .inl ⟨fun named => absurd named media, [], rfl⟩

theorem tierRules_valueWhere (sheet : Stylesheet) :
    ValueWhere .unreadableInteger sheet.HasReadableWidths (tierRules sheet.atRules) := by
  unfold HasReadableWidths
  induction sheet.atRules with
  | nil => exact .inl ⟨by simp, [], rfl⟩
  | cons atRule rest ih =>
    rw [List.forall_mem_cons, tierRules]
    rcases atRule.tierRules_valueWhere with ⟨here, own, ran⟩ | ⟨wide, refused⟩
    · rw [ran]
      rcases ih with ⟨later, more, ran⟩ | ⟨wide, refused⟩
      · rw [ran]
        exact .inl ⟨⟨here, later⟩, _, rfl⟩
      · rw [refused]
        exact .inr ⟨fun all => wide all.2, rfl⟩
    · rw [refused]
      exact .inr ⟨fun all => wide all.1, rfl⟩

end Stylesheet

open Stylesheet

theorem compileResponsive_returnsWhere (css : String) (classNames : List String) (ids : IdSource) :
    Build.ReturnsWhere ids .unreadableInteger (Stylesheet.parse css.toList).HasReadableWidths
      (compileResponsive css classNames) := by
  intro ledger
  obtain ⟨events, ran⟩ := compileStyles_run true css classNames ids ledger
  rw [compileStyles, if_pos rfl, drafter, if_pos rfl] at ran
  rw [ran]
  rcases (Stylesheet.parse css.toList).tierRules_valueWhere with
    ⟨readable, tiers, read⟩ | ⟨wide, refused⟩
  · rw [read]
    exact .inl ⟨readable, _, rfl⟩
  · rw [refused]
    exact .inr ⟨wide, rfl⟩

/-- Base styles come out of every text. Styles for narrow screens do where no media block asks for a
width with too many digits, and there is no other fault. -/
theorem compileStyles_outcome (css : String) (classNames : List String) (ids : IdSource)
    (ledger : Ledger) :
    (∃ collection after,
        (compileBase css classNames).run ids ledger = (.ok collection, after)) ∧
      ((∃ collection after,
          (compileResponsive css classNames).run ids ledger = (.ok collection, after)) ↔
        (Stylesheet.parse css.toList).HasReadableWidths) ∧
      ∀ fault after, (compileResponsive css classNames).run ids ledger = (.error fault, after) →
        fault = .unreadableInteger := by
  have responsive := compileResponsive_returnsWhere css classNames ids
  refine ⟨⟨_, _, compileBase_run css classNames ids ledger⟩, responsive.returns_iff ledger, ?_⟩
  intro fault after ran
  exact responsive.eq_fault ran

/-! ### A width with too many digits -/

/-- A media block without a body, and without comments and root blocks in its condition. -/
theorem atRules_mediaBlock {prelude : Text} (header : IsPrelude prelude)
    (trimmed : trim prelude = prelude) (clean : '/' ∉ prelude)
    (unmarked : ¬ rootMark <:+ trimRight ("@media ".toList ++ prelude)) :
    (parse (mediaBlock prelude [])).atRules =
      [⟨"media".toList, prelude, [], mediaBlock prelude []⟩] := by
  have written : mediaBlock prelude [] =
      '@' :: ("media".toList ++ ' ' :: prelude ++ [' ']) ++ '{' :: [] ++ ['}'] := rfl
  have each : ∀ c ∈ '@' :: ("media".toList ++ ' ' :: prelude ++ [' ']), inHeader c := fun c member =>
    (mem_mediaHeader header c member).1
  have unopened : '{' ∉ "@media ".toList ++ prelude := by
    intro opener
    have := each '{' (List.mem_append_left [' '] opener)
    cases this
  have uncommented : stripComments (mediaBlock prelude []) = mediaBlock prelude [] := by
    refine stripComments_of_clean fun found => ?_
    have slash : '/' ∈ mediaBlock prelude [] := found.subset List.mem_cons_self
    rw [written] at slash
    simp [clean] at slash
  have keeps : RootKeeps (mediaBlock prelude []) := by
    have parts : mediaBlock prelude [] =
        "@media ".toList ++ prelude ++ [' ', '\x7b'] ++ ['\x7d'] := by
      unfold mediaBlock mediaHeader
      generalize "@media ".toList = keyword
      simp
    rw [parts]
    exact (rootKeeps_header unopened unmarked).append (rootKeeps_of_no_colon (by decide))
  have reads := AtReads.block (List.forall_mem_cons.mp each).2 Delimiter.Balanced.nil
  have letters : ∀ c ∈ "media".toList, isNamePart c := List.all_eq_true.mp (by decide)
  rw [AtRule.make_of_parts letters trimmed, ← written] at reads
  have named : lower "media".toList = "media".toList := by decide
  rw [parse, uncommented, keeps.split]
  dsimp only
  rw [reads.split, named, written]
  simp

theorem dropCaseless?_append {pattern text rest : Text}
    (h : dropCaseless? pattern text = some rest) (more : Text) :
    dropCaseless? pattern (text ++ more) = some (rest ++ more) := by
  fun_induction dropCaseless? pattern text with
  | case1 text => rw [dropCaseless?, Option.some.inj h]
  | case2 => cases h
  | case3 letter pattern c text same ih => rw [List.cons_append, dropCaseless?, if_pos same, ih h]
  | case4 => cases h

def widthMark : Text := ['m', 'a', 'x', '-', 'w', 'i', 'd', 't', 'h']

def widthCondition (digits : Text) : Text :=
  '(' :: widthMark ++ ':' :: digits ++ ['p', 'x', ')']

theorem width?_widthCondition {digits : Text} (solid : digits ≠ [])
    (decimal : ∀ c ∈ digits, isDecimal c) :
    Breakpoint.width? (widthCondition digits) = some digits := by
  -- The mark is not at the bracket but behind it.
  have here : Breakpoint.widthHere? (widthCondition digits) = none := by
    have missed : dropCaseless? "max-width".toList (widthCondition digits) = none := rfl
    rw [Breakpoint.widthHere?, missed]
  have read : dropCaseless? "max-width".toList widthMark = some [] := by decide
  have skipped : dropCaseless? "max-width".toList (widthMark ++ ':' :: (digits ++ ['p', 'x', ')'])) =
      some (':' :: (digits ++ ['p', 'x', ')'])) := dropCaseless?_append read _
  have marked : trimLeft (':' :: (digits ++ ['p', 'x', ')'])) = ':' :: (digits ++ ['p', 'x', ')']) :=
    List.dropWhile_cons_of_neg (by decide)
  have front : trimLeft (digits ++ ['p', 'x', ')']) = digits ++ ['p', 'x', ')'] := by
    obtain ⟨c, rest, rfl⟩ := List.exists_cons_of_ne_nil solid
    exact List.dropWhile_cons_of_neg (by simp [isBlank_of_isDecimal (decimal c List.mem_cons_self)])
  have taken : (digits ++ ['p', 'x', ')']).takeWhile isDecimal = digits :=
    Decimal.takeWhile_digits decimal fun | _, rfl => by decide
  have dropped : (digits ++ ['p', 'x', ')']).dropWhile isDecimal = ['p', 'x', ')'] := by
    rw [List.dropWhile_append_of_pos decimal]
    decide
  have ends : dropCaseless? ['p', 'x'] ['p', 'x', ')'] = some [')'] := by decide
  have behind : Breakpoint.widthHere? (widthMark ++ ':' :: (digits ++ ['p', 'x', ')'])) =
      some digits := by
    simp only [Breakpoint.widthHere?, skipped, marked, front, taken, dropped, ends]
    simp [solid]
  have written : widthCondition digits =
      '(' :: (widthMark ++ ':' :: (digits ++ ['p', 'x', ')'])) := by
    simp [widthCondition]
  rw [written] at here ⊢
  rw [Breakpoint.width?, here, Option.none_or]
  exact Breakpoint.width?_of_here behind

/-- However many digits a width has, it can be asked for. -/
theorem atRules_widthCondition {digits : Text} (decimal : ∀ c ∈ digits, isDecimal c) :
    (parse (mediaBlock (widthCondition digits) [])).atRules =
      [⟨"media".toList, widthCondition digits, [], mediaBlock (widthCondition digits) []⟩] := by
  have absent {c : Char} (other : isDecimal c = false) (unmarked : c ∉ '(' :: widthMark ++ [':'])
      (unended : c ∉ ['p', 'x', ')']) : c ∉ widthCondition digits := by
    intro member
    rcases List.mem_append.mp member with front | last
    · rcases List.mem_append.mp (show c ∈ ('(' :: widthMark ++ [':']) ++ digits by simpa using front)
        with early | digit
      · exact unmarked early
      · exact absurd (decimal c digit) (by simp [other])
    · exact unended last
  obtain ⟨front, ended⟩ : ∃ front, widthCondition digits = front ++ [')'] :=
    ⟨'(' :: widthMark ++ ':' :: digits ++ ['p', 'x'], by simp [widthCondition]⟩
  apply atRules_mediaBlock
  · exact ⟨⟨absent (by decide) (by decide) (by decide), absent (by decide) (by decide) (by decide)⟩,
      absent (by decide) (by decide) (by decide)⟩
  · have started : trimLeft (widthCondition digits) = widthCondition digits :=
      List.dropWhile_cons_of_neg (by decide)
    rw [trim, started, ended, trimRight_concat (by decide)]
  · exact absent (by decide) (by decide) (by decide)
  · rw [ended, ← List.append_assoc, trimRight_concat (by decide)]
    rintro ⟨before, eq⟩
    have last := congrArg List.getLast? eq
    rw [List.getLast?_append_of_ne_nil _ (by decide), List.getLast?_concat] at last
    exact absurd last (by decide)

def wideDigits : Text := List.replicate 4301 '1'

def wideSheet : String := String.ofList (mediaBlock (widthCondition wideDigits) [])

theorem compileResponsive_wideSheet :
    ((compileResponsive wideSheet ["a"]).run .tally .fresh).1 = .error .unreadableInteger := by
  have length : wideDigits.length = 4301 := List.length_replicate
  have decimal : ∀ c ∈ wideDigits, isDecimal c := by
    intro c member
    rw [List.eq_of_mem_replicate member]
    decide
  have solid : wideDigits ≠ [] := List.ne_nil_of_length_pos (by omega)
  rcases compileResponsive_returnsWhere wideSheet ["a"] .tally .fresh with ⟨readable, -⟩ | ⟨-, refused⟩
  · have atRules := atRules_widthCondition decimal
    rw [HasReadableWidths, wideSheet, String.toList_ofList, atRules] at readable
    have short := readable _ List.mem_cons_self rfl _ (width?_widthCondition solid decimal)
    rw [length] at short
    exact absurd short (by decide)
  · exact refused

end PageClip
