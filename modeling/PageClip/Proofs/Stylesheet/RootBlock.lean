import Mathlib.Data.List.Basic
import Mathlib.Data.List.Infix
import PageClip.Proofs.Stylesheet.Delimiter
import PageClip.Proofs.Text.Blank
import PageClip.Proofs.Text.Cut
import PageClip.Stylesheet.RootBlock

/-!
# Reading root blocks

`RootReads` says what the scan for root blocks makes of a text whatever stands
behind it, so what it makes of a stylesheet is put together from the parts.
-/

namespace PageClip.Stylesheet

open PageClip.Text

/-- The selector of root blocks. -/
def rootMark : Text := [':', 'r', 'o', 'o', 't']

theorem rootBody?_eq_some {text body : Text} (h : rootBody? text = some body) :
    ∃ gap, AllBlank gap ∧ text = rootMark ++ gap ++ '\x7b' :: body := by
  unfold rootBody? at h
  split at h
  · next rest =>
    split at h
    · next opened eq =>
      obtain rfl := Option.some.inj h
      refine ⟨rest.takeWhile isBlank, fun c member => List.mem_takeWhile_imp member, ?_⟩
      rw [List.append_assoc, ← eq, trimLeft, List.takeWhile_append_dropWhile]
      rfl
    · cases h
  · cases h

theorem rootBody?_mark {gap : Text} (blank : AllBlank gap) (body : Text) :
    rootBody? (rootMark ++ gap ++ '\x7b' :: body) = some body := by
  have trimmed : trimLeft (gap ++ '\x7b' :: body) = '\x7b' :: body := by
    rw [trimLeft, List.dropWhile_append_of_pos blank, List.dropWhile_cons_of_neg (by decide)]
  rw [List.append_assoc]
  simp [rootMark, rootBody?, trimmed]

def rootBlock (gap body : Text) : Text := rootMark ++ gap ++ '\x7b' :: body ++ ['\x7d']

theorem length_rootBlock_pos (gap body : Text) : 0 < (rootBlock gap body).length := by
  simp [rootBlock, rootMark]

theorem rootBody?_rootBlock {gap : Text} (blank : AllBlank gap) (body rest : Text) :
    rootBody? (rootBlock gap body ++ rest) = some (body ++ '\x7d' :: rest) := by
  have opened := rootBody?_mark blank (body ++ '\x7d' :: rest)
  simpa [rootBlock] using opened

theorem splitRootFrom_nil (offset : Nat) : splitRootFrom offset [] = ⟨[], [], none⟩ := by
  rw [splitRootFrom]
  simp [rootBody?]

theorem splitRoot_nil : splitRoot [] = ⟨[], [], none⟩ := splitRootFrom_nil 0

theorem splitRootFrom_block {css opened body after : Text} (starts : rootBody? css = some opened)
    (closes : Delimiter.brace.enclosed 0 opened = some (body, after)) (offset : Nat) :
    splitRootFrom offset css =
      let split := splitRootFrom (offset + (css.length - after.length)) after
      { split with definitions := customProperties body ++ split.definitions } := by
  rw [splitRootFrom]
  split
  · next opened' starts' =>
    obtain rfl := Option.some.inj (starts.symm.trans starts')
    split
    · next body' after' closes' =>
      obtain ⟨rfl, rfl⟩ := Prod.mk.inj (Option.some.inj (closes.symm.trans closes'))
      rfl
    · next closes' => simp [closes] at closes'
  · next starts' => simp [starts] at starts'

theorem splitRootFrom_cons {c : Char} {rest : Text} (starts : rootBody? (c :: rest) = none)
    (offset : Nat) :
    splitRootFrom offset (c :: rest) =
      let split := splitRootFrom (offset + 1) rest
      { split with remainder := c :: split.remainder } := by
  rw [splitRootFrom]
  split
  · next starts' => simp [starts] at starts'
  · rfl

/-- The scan for root blocks finds `definitions` in a text and keeps `kept` of it, whatever stands
behind the text. -/
def RootReads (text : Text) (definitions : List (Text × Text)) (kept : Text) : Prop :=
  ∀ offset rest, splitRootFrom offset (text ++ rest) =
    let split := splitRootFrom (offset + text.length) rest
    { split with
      definitions := definitions ++ split.definitions
      remainder := kept ++ split.remainder }

namespace RootReads

theorem nil : RootReads [] [] [] := by
  intro offset rest
  rfl

theorem append {front back keptFront keptBack : Text} {here there : List (Text × Text)}
    (first : RootReads front here keptFront) (second : RootReads back there keptBack) :
    RootReads (front ++ back) (here ++ there) (keptFront ++ keptBack) := by
  intro offset rest
  rw [List.append_assoc, first, second, List.length_append]
  simp [Nat.add_assoc]

theorem split {text kept : Text} {definitions : List (Text × Text)}
    (reads : RootReads text definitions kept) : splitRoot text = ⟨definitions, kept, none⟩ := by
  have whole := reads 0 []
  rw [List.append_nil] at whole
  rw [splitRoot, whole, splitRootFrom_nil]
  simp

theorem block {gap body : Text} (blank : AllBlank gap)
    (balanced : Delimiter.brace.Balanced body) :
    RootReads (rootBlock gap body) (customProperties body) [] := by
  intro offset rest
  have closes := Delimiter.enclosed_of_balanced (d := Delimiter.brace) (by decide) balanced rest
  rw [splitRootFrom_block (rootBody?_rootBlock blank body rest) closes, List.length_append,
    Nat.add_sub_cancel]
  rfl

end RootReads

/-! ### Text that stays

Between the mark of a root block and its brace there are only blanks, so a block
cannot reach over anything else. -/

/-- The scan for root blocks keeps all of a text. -/
abbrev RootKeeps (text : Text) : Prop := RootReads text [] text

theorem rootKeeps_of_none {text : Text}
    (h : ∀ after, after <:+ text → after ≠ [] → ∀ rest, rootBody? (after ++ rest) = none) :
    RootKeeps text := by
  induction text with
  | nil => exact RootReads.nil
  | cons c text ih =>
    intro offset rest
    have starts := h (c :: text) List.suffix_rfl (List.cons_ne_nil c text) rest
    have later := ih fun after found => h after (found.trans (List.suffix_cons c text))
    rw [List.cons_append] at starts ⊢
    rw [splitRootFrom_cons starts, later, List.length_cons, Nat.add_assoc, Nat.add_comm 1]
    rfl

theorem rootKeeps_append {front back : Text} (first : RootKeeps front) (second : RootKeeps back) :
    RootKeeps (front ++ back) :=
  first.append second

theorem rootKeeps_of_no_colon {text : Text} (plain : ':' ∉ text) : RootKeeps text := by
  refine rootKeeps_of_none fun after found solid rest => ?_
  cases after with
  | nil => exact absurd rfl solid
  | cons c after =>
    unfold rootBody?
    split
    · next eq =>
      obtain rfl := (List.cons.inj eq).1
      exact absurd (found.subset List.mem_cons_self) plain
    · rfl

/-- A text that ends in a character no root block has in front of its brace. -/
theorem rootKeeps_concat {text : Text} {c : Char} (unopened : '\x7b' ∉ text) (other : c ≠ '\x7b')
    (solid : isBlank c = false) (unmarked : c ∉ rootMark) : RootKeeps (text ++ [c]) := by
  refine rootKeeps_of_none fun after found nonempty rest => ?_
  obtain rfl | ⟨before, rfl, inside⟩ := List.suffix_concat_iff.mp found
  · exact absurd rfl nonempty
  cases opens : rootBody? (before ++ [c] ++ rest) with
  | none => rfl
  | some body =>
    -- The block would reach over `c` to its brace.
    obtain ⟨gap, blank, eq⟩ := rootBody?_eq_some opens
    have unopenedHere : '\x7b' ∉ before ++ [c] := by
      rw [List.mem_append, List.mem_singleton, not_or]
      exact ⟨fun member => unopened (inside.subset member), Ne.symm other⟩
    have reached : c ∈ rootMark ++ gap :=
      (prefix_of_not_mem unopenedHere eq).subset (by simp)
    rcases List.mem_append.mp reached with marked | member
    · exact absurd marked unmarked
    · exact absurd member (blank.not_mem solid)

theorem trimRight_append_rootMark (front : Text) :
    trimRight (front ++ rootMark) = front ++ rootMark := by
  have solid : isBlank 't' = false := by decide
  have kept := trimRight_append_of_not_blank solid (front ++ [':', 'r', 'o', 'o']) []
  rwa [List.append_assoc, List.append_assoc] at kept

theorem eq_rootMark_of_rootBody? {before rest body : Text} (unopened : '\x7b' ∉ before)
    (opens : rootBody? (before ++ '\x7b' :: rest) = some body) :
    ∃ gap, AllBlank gap ∧ before = rootMark ++ gap := by
  obtain ⟨gap, blank, eq⟩ := rootBody?_eq_some opens
  have unopenedMark : '\x7b' ∉ rootMark ++ gap := by
    rw [List.mem_append, not_or]
    exact ⟨by decide, blank.not_mem (by decide)⟩
  exact ⟨gap, blank, (prefix_of_not_mem unopened eq).eq_of_length_le
    (prefix_of_not_mem unopenedMark eq.symm).length_le⟩

/-- The header of a block, with its brace, that does not end in the mark of a root block. -/
theorem rootKeeps_opener {text : Text} (unopened : '\x7b' ∉ text)
    (unmarked : ∀ front gap, AllBlank gap → text ≠ front ++ (rootMark ++ gap)) :
    RootKeeps (text ++ ['\x7b']) := by
  refine rootKeeps_of_none fun after found nonempty rest => ?_
  obtain rfl | ⟨before, rfl, inside⟩ := List.suffix_concat_iff.mp found
  · exact absurd rfl nonempty
  rw [List.append_assoc, List.singleton_append]
  cases opens : rootBody? (before ++ '\x7b' :: rest) with
  | none => rfl
  | some body =>
    have unopenedBefore : '\x7b' ∉ before := fun member => unopened (inside.subset member)
    obtain ⟨gap, blank, same⟩ := eq_rootMark_of_rootBody? unopenedBefore opens
    obtain ⟨front, eq⟩ := inside
    exact absurd (by rw [← eq, same]) (unmarked front gap blank)

/-- The header of a block whose selector is not the one of a root block. -/
theorem rootKeeps_header {text : Text} (unopened : '\x7b' ∉ text)
    (unmarked : ¬ rootMark <:+ trimRight text) : RootKeeps (text ++ [' ', '\x7b']) := by
  rw [List.append_cons]
  apply rootKeeps_opener
  · simpa using unopened
  · intro front gap blank eq
    have trimmed : trimRight text = front ++ rootMark := by
      calc trimRight text = trimRight (text ++ [' ']) :=
            (trimRight_append_blank (show AllBlank [' '] by decide) text).symm
        _ = trimRight (front ++ rootMark) := by
            rw [eq, ← List.append_assoc, trimRight_append_blank blank]
        _ = front ++ rootMark := trimRight_append_rootMark front
    exact unmarked ⟨front, trimmed.symm⟩

/-! ### One text behind another

Where a text starts has no bearing on what is found in it, and two texts are
taken apart one after the other if no root block reaches from the first into the
second. -/

theorem splitRootFrom_unclosed {css opened : Text} (starts : rootBody? css = some opened)
    (unclosed : Delimiter.brace.enclosed 0 opened = none) (offset : Nat) :
    splitRootFrom offset css = ⟨[], css, some offset⟩ := by
  rw [splitRootFrom]
  split
  · next opened' starts' =>
    obtain rfl := Option.some.inj (starts.symm.trans starts')
    split
    · next closes => simp [unclosed] at closes
    · rfl
  · next starts' => simp [starts] at starts'

theorem splitRootFrom_offset (offset : Nat) (css : Text) :
    (splitRootFrom offset css).definitions = (splitRoot css).definitions ∧
      (splitRootFrom offset css).remainder = (splitRoot css).remainder := by
  induction length : css.length using Nat.strongRecOn generalizing offset css with
  | ind size ih =>
    unfold splitRoot
    cases starts : rootBody? css with
    | some opened =>
      cases closes : Delimiter.brace.enclosed 0 opened with
      | none => simp [splitRootFrom_unclosed starts closes]
      | some parts =>
        obtain ⟨body, after⟩ := parts
        have outer := length_of_rootBody? starts
        have inner := Delimiter.length_of_enclosed closes
        have later (offset : Nat) := ih after.length (by omega) offset after rfl
        simp [splitRootFrom_block starts closes, later]
    | none =>
      cases css with
      | nil => simp [splitRootFrom_nil]
      | cons c rest =>
        rw [List.length_cons] at length
        have later (offset : Nat) := ih rest.length (by omega) offset rest rfl
        simp [splitRootFrom_cons starts, later]

theorem RootKeeps.remainder {text : Text} (keeps : RootKeeps text) (rest : Text) :
    (splitRoot (text ++ rest)).remainder = text ++ (splitRoot rest).remainder := by
  rw [splitRoot, keeps, ← (splitRootFrom_offset (0 + text.length) rest).2]

theorem splitRoot_cons {c : Char} {rest : Text} (starts : rootBody? (c :: rest) = none) :
    (splitRoot (c :: rest)).definitions = (splitRoot rest).definitions ∧
      (splitRoot (c :: rest)).remainder = c :: (splitRoot rest).remainder := by
  obtain ⟨definitions, remainder⟩ := splitRootFrom_offset (0 + 1) rest
  rw [splitRoot, splitRootFrom_cons starts, ← definitions, ← remainder]
  exact ⟨rfl, rfl⟩

theorem free_rootHeader {gap : Text} (blank : AllBlank gap) :
    Delimiter.brace.Free (rootMark ++ gap) :=
  Delimiter.Free.append (by decide) ⟨blank.not_mem (by decide), blank.not_mem (by decide)⟩

theorem balanced_rootBlock {gap body : Text} (blank : AllBlank gap)
    (balanced : Delimiter.brace.Balanced body) :
    Delimiter.brace.Balanced (rootBlock gap body) := by
  rw [rootBlock, List.append_assoc]
  exact (free_rootHeader blank).balanced.append (.nested balanced .nil)

theorem splitRoot_rootBlock {gap body : Text} (blank : AllBlank gap)
    (balanced : Delimiter.brace.Balanced body) (rest : Text) :
    (splitRoot (rootBlock gap body ++ rest)).definitions =
        customProperties body ++ (splitRoot rest).definitions ∧
      (splitRoot (rootBlock gap body ++ rest)).remainder = (splitRoot rest).remainder := by
  have closes := Delimiter.enclosed_of_balanced (d := Delimiter.brace) (by decide) balanced rest
  rw [splitRoot, splitRootFrom_block (rootBody?_rootBlock blank body rest) closes]
  obtain ⟨definitions, remainder⟩ := splitRootFrom_offset _ rest
  rw [← definitions, ← remainder]
  exact ⟨rfl, rfl⟩

/-- A root block in front of a text is taken out, or it is never closed and nothing is. -/
theorem rootBody?_cases {css opened : Text} (starts : rootBody? css = some opened) :
    (∃ gap body after, AllBlank gap ∧ Delimiter.brace.Balanced body ∧
        css = rootBlock gap body ++ after) ∨
      Delimiter.brace.enclosed 0 opened = none ∧ (splitRoot css).remainder = css := by
  cases closes : Delimiter.brace.enclosed 0 opened with
  | none =>
    rw [splitRoot, splitRootFrom_unclosed starts closes]
    exact .inr ⟨rfl, rfl⟩
  | some parts =>
    obtain ⟨body, after⟩ := parts
    obtain ⟨gap, blank, rfl⟩ := rootBody?_eq_some starts
    refine .inl ⟨gap, body, after, blank, Delimiter.balanced_of_enclosed closes, ?_⟩
    rw [Delimiter.enclosed_eq_some closes]
    simp [rootBlock, Delimiter.brace]

theorem remainder_subset (css : Text) : ∀ c ∈ (splitRoot css).remainder, c ∈ css := by
  induction length : css.length using Nat.strongRecOn generalizing css with
  | ind size ih =>
    intro c member
    cases starts : rootBody? css with
    | some opened =>
      rcases rootBody?_cases starts with ⟨gap, body, after, blank, balanced, rfl⟩ | ⟨-, whole⟩
      · rw [(splitRoot_rootBlock blank balanced after).2] at member
        have solid := length_rootBlock_pos gap body
        rw [List.length_append] at length
        exact List.mem_append_right _ (ih after.length (by omega) after rfl c member)
      · rwa [whole] at member
    | none =>
      cases css with
      | nil => simp [splitRoot_nil] at member
      | cons d rest =>
        rw [(splitRoot_cons starts).2] at member
        rcases List.mem_cons.mp member with rfl | later
        · exact List.mem_cons_self
        · rw [List.length_cons] at length
          exact List.mem_cons_of_mem d (ih rest.length (by omega) rest rfl c later)

/-- Every root block that the scan of a text meets is closed in it. -/
inductive RootsClosed : Text → Prop
  | nil : RootsClosed []
  | plain {c : Char} {rest : Text} :
    rootBody? (c :: rest) = none → RootsClosed rest → RootsClosed (c :: rest)
  | block {gap body rest : Text} :
    AllBlank gap → Delimiter.brace.Balanced body → RootsClosed rest →
      RootsClosed (rootBlock gap body ++ rest)

theorem rootsClosed_of_closes {css : Text} (closes : Delimiter.brace.Closes css) :
    RootsClosed css := by
  induction length : css.length using Nat.strongRecOn generalizing css with
  | ind size ih =>
    cases starts : rootBody? css with
    | some opened =>
      obtain ⟨gap, blank, rfl⟩ := rootBody?_eq_some starts
      obtain ⟨body, rest, balanced, rfl⟩ := closes opened ⟨rootMark ++ gap, rfl⟩
      have whole : rootMark ++ gap ++ '\x7b' :: (body ++ Delimiter.brace.closer :: rest) =
          rootBlock gap body ++ rest := by
        simp [rootBlock, Delimiter.brace]
      have shorter := length_of_rootBody? starts
      rw [List.length_append, List.length_cons] at shorter
      rw [whole] at closes ⊢
      exact .block blank balanced
        (ih rest.length (by omega) (closes.of_suffix (List.suffix_append _ rest)) rfl)
    | none =>
      cases css with
      | nil => exact .nil
      | cons c rest =>
        rw [List.length_cons] at length
        exact .plain starts
          (ih rest.length (by omega) (closes.of_suffix (List.suffix_cons c rest)) rfl)

theorem RootsClosed.level_remainder {css : Text} (closed : RootsClosed css) (depth : Nat) :
    Delimiter.brace.level depth (splitRoot css).remainder = Delimiter.brace.level depth css := by
  induction closed generalizing depth with
  | nil => rw [splitRoot_nil]
  | @plain c rest starts _ ih =>
    rw [(splitRoot_cons starts).2, Delimiter.level_cons, Delimiter.level_cons depth c rest]
    simp only [ih]
  | @block gap body rest blank balanced _ ih =>
    rw [(splitRoot_rootBlock blank balanced rest).2, ih,
      Delimiter.level_balanced (by decide) (balanced_rootBlock blank balanced)]

/-- A text in which no root block begins. -/
def Rootless (text : Text) : Prop := ∀ after, after <:+ text → rootBody? after = none

theorem RootsClosed.length_remainder_le {css : Text} (closed : RootsClosed css) :
    (splitRoot css).remainder.length ≤ css.length := by
  induction closed with
  | nil => rw [splitRoot_nil]
  | @plain c rest starts _ ih =>
    rw [(splitRoot_cons starts).2, List.length_cons, List.length_cons]
    omega
  | @block gap body rest blank balanced _ ih =>
    rw [(splitRoot_rootBlock blank balanced rest).2, List.length_append]
    omega

theorem RootsClosed.remainder_eq_iff {css : Text} (closed : RootsClosed css) :
    (splitRoot css).remainder = css ↔ Rootless css := by
  induction closed with
  | nil =>
    have rootless : Rootless [] := fun after found => by
      rw [List.suffix_nil.mp found]
      rfl
    simp [splitRoot_nil, rootless]
  | @plain c rest starts _ ih =>
    rw [(splitRoot_cons starts).2, List.cons_inj_right, ih]
    constructor
    · intro rootless after found
      rcases List.suffix_cons_iff.mp found with rfl | later
      · exact starts
      · exact rootless after later
    · intro rootless after found
      exact rootless after (found.trans (List.suffix_cons c rest))
  | @block gap body rest blank balanced closed _ =>
    rw [(splitRoot_rootBlock blank balanced rest).2]
    constructor
    · intro same
      have shorter := closed.length_remainder_le
      have solid := length_rootBlock_pos gap body
      rw [same, List.length_append] at shorter
      omega
    · intro rootless
      have starts := rootless _ List.suffix_rfl
      rw [rootBody?_rootBlock blank] at starts
      cases starts

theorem balanced_remainder {css : Text} (balanced : Delimiter.brace.Balanced css) :
    Delimiter.brace.Balanced (splitRoot css).remainder := by
  have distinct : Delimiter.brace.opener ≠ Delimiter.brace.closer := by decide
  refine Delimiter.balanced_of_level ?_
  rw [(rootsClosed_of_closes (balanced.closes distinct)).level_remainder]
  exact (Delimiter.balanced_iff_level distinct).mp balanced

/-- No root block begins in one text and has its brace in the next. -/
def RootApart (front back : Text) : Prop :=
  ∀ after, after <:+ front → after ≠ [] → rootBody? after = none → rootBody? (after ++ back) = none

theorem RootApart.of_suffix {front after back : Text} (apart : RootApart front back)
    (part : after <:+ front) : RootApart after back :=
  fun later found => apart later (found.trans part)

/-- What a root block has in front of its body, where it begins in one text and has its brace in the
next. -/
theorem exists_straddling {after back body : Text} (unopened : rootBody? after = none)
    (opens : rootBody? (after ++ back) = some body) :
    ∃ gap more, AllBlank gap ∧ rootMark ++ gap ++ ['\x7b'] = after ++ more ∧ more ≠ [] ∧
      back = more ++ body := by
  obtain ⟨gap, blank, eq⟩ := rootBody?_eq_some opens
  rw [List.append_cons] at eq
  have whole (rest : Text) : rootBody? (rootMark ++ gap ++ ['\x7b'] ++ rest) = some rest := by
    rw [List.append_assoc]
    exact rootBody?_mark blank rest
  rcases List.append_eq_append_iff.mp eq with ⟨more, longer, rest⟩ | ⟨more, shorter, -⟩
  · refine ⟨gap, more, blank, longer, ?_, rest⟩
    rintro rfl
    rw [List.append_nil] at longer
    have early := whole []
    rw [List.append_nil, longer, unopened] at early
    cases early
  · rw [shorter, whole more] at unopened
    cases unopened

theorem closer_not_mem_rootHeader {gap : Text} (blank : AllBlank gap) :
    '\x7d' ∉ rootMark ++ gap ++ ['\x7b'] := by
  have absent := blank.not_mem (show isBlank '\x7d' = false by decide)
  simp [rootMark, absent]

theorem rootApart_closer (front back : Text) : RootApart front ('\x7d' :: back) := by
  intro after _ _ unopened
  cases opens : rootBody? (after ++ '\x7d' :: back) with
  | none => rfl
  | some body =>
    obtain ⟨gap, more, blank, header, solid, rest⟩ := exists_straddling unopened opens
    obtain ⟨c, more, rfl⟩ := List.exists_cons_of_ne_nil solid
    obtain rfl := (List.cons.inj rest).1
    exact absurd (by simp [header]) (closer_not_mem_rootHeader blank)

/-- A text that ends in a closing brace, blanks aside. -/
theorem rootApart_of_last {front : Text} (last : (trimRight front).getLast? = some '\x7d')
    (back : Text) : RootApart front back := by
  intro after part solid unopened
  cases opens : rootBody? (after ++ back) with
  | none => rfl
  | some body =>
    obtain ⟨gap, more, blank, header, -, -⟩ := exists_straddling unopened opens
    obtain ⟨blanks, blankEnd, eq⟩ := exists_trimRight_append front
    obtain ⟨before, ends⟩ := List.getLast?_eq_some_iff.mp last
    rw [ends, List.append_assoc, List.singleton_append] at eq
    have absent : '\x7d' ∉ after := fun member =>
      closer_not_mem_rootHeader blank (by rw [header]; exact List.mem_append_left more member)
    -- What follows the closing brace is blank, and no root block starts in a blank.
    have late : after <:+ '\x7d' :: blanks := by
      rcases List.suffix_or_suffix_of_suffix part ⟨before, eq.symm⟩ with inside | around
      · exact inside
      · exact absurd (around.subset List.mem_cons_self) absent
    have inBlanks : after <:+ blanks := by
      rcases List.suffix_cons_iff.mp late with rfl | inside
      · exact absurd List.mem_cons_self absent
      · exact inside
    obtain ⟨c, after, rfl⟩ := List.exists_cons_of_ne_nil solid
    obtain rfl : ':' = c := (List.cons.inj header).1
    exact absurd (blankEnd ':' (inBlanks.subset List.mem_cons_self)) (by decide)

theorem Rootless.rootKeeps {text : Text} (rootless : Rootless (text ++ ['\x7d'])) :
    RootKeeps (text ++ ['\x7d']) := by
  refine rootKeeps_of_none fun after found solid rest => ?_
  cases opens : rootBody? (after ++ rest) with
  | none => rfl
  | some body =>
    obtain ⟨gap, more, blank, header, -, -⟩ := exists_straddling (rootless after found) opens
    obtain rfl | ⟨before, rfl, -⟩ := List.suffix_concat_iff.mp found
    · exact absurd rfl solid
    · exact absurd (by rw [header]; simp) (closer_not_mem_rootHeader blank)

theorem Rootless.rootsClosed {text : Text} (rootless : Rootless text) : RootsClosed text := by
  induction text with
  | nil => exact .nil
  | cons c rest ih =>
    exact .plain (rootless _ List.suffix_rfl)
      (ih fun after found => rootless after (found.trans (List.suffix_cons c rest)))

/-- A text that holds no root block. One that is never closed may begin in it. -/
def Unrooted (text : Text) : Prop :=
  ∀ gap body, AllBlank gap → Delimiter.brace.Balanced body → ¬ rootBlock gap body <:+: text

theorem Rootless.unrooted {text : Text} (rootless : Rootless text) : Unrooted text := by
  rintro gap body blank - ⟨before, after, eq⟩
  rw [List.append_assoc] at eq
  have starts := rootless (rootBlock gap body ++ after) ⟨before, eq⟩
  rw [rootBody?_rootBlock blank] at starts
  cases starts

theorem Unrooted.definitions {text : Text} (unrooted : Unrooted text) :
    (splitRoot text).definitions = [] := by
  induction text with
  | nil => rw [splitRoot_nil]
  | cons c rest ih =>
    cases starts : rootBody? (c :: rest) with
    | some opened =>
      rcases rootBody?_cases starts with ⟨gap, body, after, blank, balanced, eq⟩ | ⟨unclosed, -⟩
      · exact absurd ⟨[], after, eq.symm⟩ (unrooted gap body blank balanced)
      · rw [splitRoot, splitRootFrom_unclosed starts unclosed]
    | none =>
      rw [(splitRoot_cons starts).1]
      exact ih fun gap body blank balanced found =>
        unrooted gap body blank balanced (found.trans (List.suffix_cons c rest).isInfix)

instance (text : Text) : Decidable (Rootless text) :=
  decidable_of_iff (∀ after ∈ text.tails, rootBody? after = none)
    (by simp only [List.mem_tails, Rootless])

theorem splitRoot_append {front back : Text} (closed : RootsClosed front)
    (apart : RootApart front back) :
    (splitRoot (front ++ back)).definitions =
        (splitRoot front).definitions ++ (splitRoot back).definitions ∧
      (splitRoot (front ++ back)).remainder =
        (splitRoot front).remainder ++ (splitRoot back).remainder := by
  induction closed with
  | nil => simp [splitRoot_nil]
  | @plain c rest starts _ ih =>
    obtain ⟨definitions, remainder⟩ := ih (apart.of_suffix (List.suffix_cons c rest))
    have startsHere : rootBody? (c :: (rest ++ back)) = none :=
      apart (c :: rest) List.suffix_rfl (List.cons_ne_nil c rest) starts
    rw [List.cons_append, (splitRoot_cons startsHere).1, (splitRoot_cons startsHere).2,
      (splitRoot_cons starts).1, (splitRoot_cons starts).2, definitions, remainder]
    exact ⟨rfl, rfl⟩
  | @block gap body rest blank balanced _ ih =>
    obtain ⟨definitions, remainder⟩ := ih (apart.of_suffix (List.suffix_append _ rest))
    obtain ⟨ownDefinitions, ownRemainder⟩ := splitRoot_rootBlock blank balanced rest
    obtain ⟨allDefinitions, allRemainder⟩ := splitRoot_rootBlock blank balanced (rest ++ back)
    rw [List.append_assoc, allDefinitions, allRemainder, ownDefinitions, ownRemainder, definitions,
      remainder, List.append_assoc]
    exact ⟨rfl, rfl⟩

/-- A block is taken out whole where its header ends in the selector of a root block. Else it stays,
less what is taken out of its body. Which of the two is the case does not hang on the body. -/
theorem remainder_block_cases {header : Text} (unopened : '\x7b' ∉ header) :
    (∃ kept, ∀ body, Delimiter.brace.Balanced body →
      (splitRoot (header ++ '\x7b' :: body ++ ['\x7d'])).remainder = kept) ∨
    ∀ body, Delimiter.brace.Balanced body → ∃ inner, Delimiter.brace.Balanced inner ∧
      (splitRoot (header ++ '\x7b' :: body ++ ['\x7d'])).remainder =
        header ++ '\x7b' :: inner ++ ['\x7d'] := by
  induction header with
  | nil =>
    refine .inr fun body balanced => ⟨_, balanced_remainder balanced, ?_⟩
    have closed := rootsClosed_of_closes (balanced.closes (by decide))
    have closer := splitRoot_cons (show rootBody? ['\x7d'] = none from rfl)
    rw [List.nil_append, List.cons_append, (splitRoot_cons rfl).2,
      (splitRoot_append closed (rootApart_closer body [])).2, closer.2, splitRoot_nil]
    rfl
  | cons c header ih =>
    rw [List.mem_cons, not_or] at unopened
    by_cases root : ∃ gap, AllBlank gap ∧ c :: header = rootMark ++ gap
    · obtain ⟨gap, blank, eq⟩ := root
      refine .inl ⟨[], fun body balanced => ?_⟩
      have taken := (splitRoot_rootBlock blank balanced []).2
      rwa [List.append_nil, rootBlock, ← eq, splitRoot_nil] at taken
    · have starts (body : Text) : rootBody? (c :: (header ++ '\x7b' :: body ++ ['\x7d'])) = none := by
        cases opens : rootBody? (c :: (header ++ '\x7b' :: body ++ ['\x7d'])) with
        | none => rfl
        | some opened =>
          have unopenedHere : '\x7b' ∉ c :: header := by
            rw [List.mem_cons, not_or]
            exact unopened
          rw [List.append_assoc, ← List.cons_append] at opens
          exact absurd (eq_rootMark_of_rootBody? unopenedHere opens) root
      simp only [List.cons_append, (splitRoot_cons (starts _)).2]
      rcases ih unopened.2 with ⟨kept, same⟩ | stays
      · exact .inl ⟨c :: kept, fun body balanced => by rw [same body balanced]⟩
      · refine .inr fun body balanced => ?_
        obtain ⟨inner, whole, eq⟩ := stays body balanced
        exact ⟨inner, whole, by rw [eq]⟩

end PageClip.Stylesheet
