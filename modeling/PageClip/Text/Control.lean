import PageClip.Text.Basic

/-!
# Control sequences

A control sequence for a terminal is an escape character, an opening bracket,
parameters and a letter. `dropControls` leaves out what a terminal would not
show; a text without escape characters stays as it is (`dropControls_of_plain`).
-/

namespace PageClip.Text

def controlTail? : Text → Option Text
  | [] => none
  | c :: rest =>
    if c.isAlpha then some rest
    else if c.isDigit || c = ';' || c = '?' then controlTail? rest
    else none

theorem length_of_controlTail? {text tail : Text} (h : controlTail? text = some tail) :
    tail.length < text.length := by
  induction text with
  | nil => simp [controlTail?] at h
  | cons c rest ih =>
    simp only [controlTail?] at h
    split at h
    · simp_all
    · split at h
      · exact Nat.lt_succ_of_lt (ih h)
      · simp at h

def escape : Char := '\x1b'

def skipControl? : Text → Option Text
  | first :: '[' :: rest => if first = escape then controlTail? rest else none
  | _ => none

theorem length_of_skipControl? {text tail : Text} (h : skipControl? text = some tail) :
    tail.length < text.length := by
  unfold skipControl? at h
  split at h
  · split at h
    · have shorter := length_of_controlTail? h
      simp only [List.length_cons]
      omega
    · simp at h
  · simp at h

def dropControls : Text → Text
  | [] => []
  | c :: rest =>
    match _ : skipControl? (c :: rest) with
    | some tail => dropControls tail
    | none => c :: dropControls rest
termination_by text => text.length
decreasing_by
  · exact length_of_skipControl? ‹_›
  · simp

theorem skipControl?_of_ne_escape {c : Char} (h : c ≠ escape) (rest : Text) :
    skipControl? (c :: rest) = none := by
  unfold skipControl?
  split
  · next eq => simp_all
  · rfl

theorem dropControls_of_plain {text : Text} (h : escape ∉ text) : dropControls text = text := by
  induction text with
  | nil => simp [dropControls]
  | cons c rest ih =>
    have other : c ≠ escape := by rintro rfl; simp at h
    rw [dropControls]
    split
    · next found => simp [skipControl?_of_ne_escape other] at found
    · rw [ih fun mem => h (List.mem_cons_of_mem c mem)]

end PageClip.Text
