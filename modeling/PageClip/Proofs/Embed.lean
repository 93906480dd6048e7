import PageClip.Proofs.Script
import PageClip.Proofs.Stylesheet.Advanced
import PageClip.Proofs.Text.Cut

/-!
# Scripts in their wrapper

The code of a page wraps all its scripts in one pair of tags, those that are only
referred to as well. `convert_wrapper` says on which pages an end tag stands inside
the wrapper, so that it closes too early.
-/

namespace PageClip

open Markup Text

def scriptEnd : Text := "</script".toList

/-- An end tag of a script begins somewhere in the text, in capitals or in small letters. -/
def HoldsScriptEnd (text : Text) : Prop := scriptEnd <:+: text.map Char.toLower

instance (text : Text) : Decidable (HoldsScriptEnd text) :=
  inferInstanceAs (Decidable (_ <:+: _))

namespace Markup.Element

/-- Where the code of a script is kept, if not in the page. -/
def source (script : Element) : String := (script.attribute? "src").getD ""

def isRemote (script : Element) : Bool := PageClip.isRemote script.source.toList

/-- The code of a script that stands in the page. -/
def inlineBody (script : Element) : Text := trim (script.soleText?.getD [])

end Markup.Element

/-! ### End tags in texts -/

theorem toLower_of_isBlank {c : Char} (blank : isBlank c) : c.toLower = c := by
  unfold Char.toLower
  rw [dif_neg]
  rintro ⟨lower, upper⟩
  have least : 65 ≤ c.toNat := lower
  have greatest : c.toNat ≤ 90 := upper
  simp only [isBlank, Bool.or_eq_true, Bool.and_eq_true, decide_eq_true_eq, beq_iff_eq] at blank
  omega

theorem solid_of_toLower {c low : Char} (lowered : c.toLower = low) (solid : isBlank low = false) :
    isBlank c = false := by
  rw [Bool.eq_false_iff]
  intro blank
  rw [← lowered, toLower_of_isBlank blank, blank] at solid
  cases solid

namespace HoldsScriptEnd

theorem mono {text whole : Text} (holds : HoldsScriptEnd text) (part : text <:+: whole) :
    HoldsScriptEnd whole := holds.trans (part.map Char.toLower)

theorem not_nil : ¬ HoldsScriptEnd [] := by decide

theorem append_cons_iff {front back : Text} {c : Char} (absent : c.toLower ∉ scriptEnd) :
    HoldsScriptEnd (front ++ c :: back) ↔ HoldsScriptEnd front ∨ HoldsScriptEnd back := by
  unfold HoldsScriptEnd
  rw [List.map_append, List.map_cons, infix_append_cons_iff absent]

theorem intercalate_iff {parts : List Text} :
    HoldsScriptEnd (['\n', '\n'].intercalate parts) ↔ ∃ part ∈ parts, HoldsScriptEnd part := by
  induction parts with
  | nil => simp [not_nil]
  | cons part rest ih =>
    cases rest with
    | nil => simp
    | cons next rest =>
      have lineBreak : '\n'.toLower ∉ scriptEnd := by decide
      rw [List.intercalate_cons_cons, List.append_assoc, List.cons_append, append_cons_iff lineBreak,
        List.cons_append, ← List.nil_append ('\n' :: _), append_cons_iff lineBreak, List.nil_append,
        ih]
      simp [not_nil]

theorem trim_iff {text : Text} : HoldsScriptEnd (trim text) ↔ HoldsScriptEnd text := by
  constructor
  · exact fun holds => holds.mono (trim_isInfix text)
  · intro holds
    obtain ⟨found, part, lowered⟩ := List.infix_map_iff.mp holds
    have head : ∀ c ∈ found.head?, isBlank c = false := by
      intro c first
      have low := congrArg List.head? lowered
      rw [List.head?_map, Option.mem_def.mp first] at low
      exact solid_of_toLower (Option.some.inj low).symm (by decide)
    have last : ∀ c ∈ found.getLast?, isBlank c = false := by
      intro c final
      have low := congrArg List.getLast? lowered
      rw [List.getLast?_map, Option.mem_def.mp final] at low
      exact solid_of_toLower (Option.some.inj low).symm (by decide)
    rw [HoldsScriptEnd, lowered]
    exact (infix_trim head last part).map Char.toLower

end HoldsScriptEnd

/-! ### End tags in scripts -/

theorem holdsScriptEnd_scriptTag (source : String) : HoldsScriptEnd (scriptTag source).toList := by
  have tag : HoldsScriptEnd "\"></script>".toList := by decide
  refine tag.mono ?_
  rw [scriptTag, String.toList_append]
  exact (List.suffix_append _ _).isInfix

theorem scriptParts_eq (script : Element) :
    (scriptParts script).1 =
      (if script.isRemote then [scriptTag script.source] else []) ++
        if script.inlineBody.isEmpty then [] else [String.ofList script.inlineBody] := by
  unfold scriptParts
  rw [← Element.source, ← Element.inlineBody, Element.isRemote]
  by_cases empty : script.source.isEmpty
  · rw [String.isEmpty_iff.mp empty]
    rfl
  · by_cases remote : isRemote script.source.toList <;> simp [empty, remote]

theorem holdsScriptEnd_scriptParts {script : Element} :
    (∃ part ∈ (scriptParts script).1, HoldsScriptEnd part.toList) ↔
      script.isRemote ∨ HoldsScriptEnd script.inlineBody := by
  have tag := holdsScriptEnd_scriptTag script.source
  rw [scriptParts_eq]
  by_cases remote : script.isRemote
  · simp [remote, tag]
  by_cases empty : script.inlineBody = []
  · simp [remote, empty, HoldsScriptEnd.not_nil]
  · simp [remote, empty]

theorem holdsScriptEnd_joined {parts : List String} :
    HoldsScriptEnd ("\n\n".intercalate parts).toList ↔ ∃ part ∈ parts, HoldsScriptEnd part.toList := by
  rw [String.toList_intercalate]
  refine HoldsScriptEnd.intercalate_iff.trans ?_
  simp

theorem holdsScriptEnd_documentScript {document : Document} :
    HoldsScriptEnd (documentScript document).toList ↔
      ∃ script ∈ elementsNamed "script" document,
        script.isRemote ∨ HoldsScriptEnd script.inlineBody := by
  rw [documentScript, holdsScriptEnd_joined]
  simp only [List.mem_flatMap, ← holdsScriptEnd_scriptParts]
  grind

theorem infix_joined {glue part : String} {parts : List String} (member : part ∈ parts) :
    part.toList <:+: (glue.intercalate parts).toList := by
  rw [String.toList_intercalate]
  exact infix_intercalate (List.mem_map_of_mem member)

theorem trim_infix_joinScripts {script : String} {scripts : List String} (listed : script ∈ scripts) :
    trim script.toList <:+: (joinScripts scripts).toList := by
  by_cases blank : trim script.toList = []
  · rw [blank]
    exact List.nil_infix
  · have part : String.ofList (trim script.toList) ∈
        (scripts.map fun script => String.ofList (trim script.toList)).filter
          fun script => !script.isEmpty :=
      List.mem_filter.mpr ⟨List.mem_map_of_mem listed, by simp [blank]⟩
    have found : (String.ofList (trim script.toList)).toList <:+: (joinScripts scripts).toList :=
      infix_joined part
    rwa [String.toList_ofList] at found

theorem holdsScriptEnd_joinScripts {scripts : List String} :
    HoldsScriptEnd (joinScripts scripts).toList ↔ ∃ script ∈ scripts, HoldsScriptEnd script.toList := by
  constructor
  · intro holds
    obtain ⟨part, member, holds⟩ := holdsScriptEnd_joined.mp holds
    obtain ⟨script, listed, rfl⟩ := List.mem_map.mp (List.mem_filter.mp member).1
    rw [String.toList_ofList, HoldsScriptEnd.trim_iff] at holds
    exact ⟨script, listed, holds⟩
  · rintro ⟨script, listed, holds⟩
    exact (HoldsScriptEnd.trim_iff.mpr holds).mono (trim_infix_joinScripts listed)

theorem scriptTag_isInfix {document : Document} {script : Element}
    (member : script ∈ elementsNamed "script" document) (remote : script.isRemote) (js : String) :
    (scriptTag script.source).toList <:+: (joinScripts [documentScript document, js]).toList := by
  have part : scriptTag script.source ∈ (scriptParts script).1 := by
    rw [scriptParts_eq, if_pos remote]
    exact List.mem_cons_self
  have inPage : (scriptTag script.source).toList <:+: (documentScript document).toList :=
    infix_joined (List.mem_flatMap.mpr ⟨script, member, part⟩)
  refine (infix_trim ?_ ?_ inPage).trans (trim_infix_joinScripts List.mem_cons_self)
  · rw [scriptTag, String.toList_append, String.toList_append]
    intro c first
    obtain rfl : '<' = c := Option.some.inj first
    decide
  · rw [scriptTag, String.toList_append, String.toList_append, List.getLast?_append]
    intro c last
    obtain rfl : '>' = c := Option.some.inj last
    decide

/-! ### Pages -/

/-- All scripts of a page are wrapped together, with a tag for each that is kept elsewhere. So an
end tag stands inside the wrapper if the page has such a script or one with an end tag in its code,
and only then, where the script that is handed over has none. -/
theorem convert_wrapper {settings : Settings} {html css js : String} {ids : IdSource}
    {ledger after : Ledger} {conversion : Conversion} (clean : ¬ HoldsScriptEnd js.toList)
    (h : (convert settings html css js).run ids ledger = (.ok conversion, after)) :
    conversion.code = (if settings.includeCode then
        wrapCode "<style>" conversion.styles.advanced "</style>\n" ++
          wrapCode "<script>" conversion.script "</script>" else "") ∧
      ∃ document, parseWith settings.parser html = .ok document ∧
        (∀ script ∈ elementsNamed "script" document, script.isRemote →
          (scriptTag script.source).toList <:+: conversion.script.toList) ∧
        (HoldsScriptEnd conversion.script.toList ↔
          ∃ script ∈ elementsNamed "script" document,
            script.isRemote ∨ HoldsScriptEnd script.inlineBody) := by
  obtain ⟨_, _, _, _, found, -, -, -, extracted, script, code⟩ := convert_run h
  obtain ⟨document, parsed, rfl⟩ := extractScript_ok extracted
  refine ⟨code, document, parsed, ?_, ?_⟩
  · intro element member remote
    rw [script]
    exact scriptTag_isInfix member remote js
  · rw [script, holdsScriptEnd_joinScripts, ← holdsScriptEnd_documentScript]
    simp [clean]

/-- A script kept elsewhere, one in a local file and one in the page. -/
def mixedScripts : String :=
  "<script src=\"//cdn.example.com/lib.js\"></script><script src=\"app.js\"></script>" ++
    "<p>x</p><script> run() </script>"

theorem convert_wrapper_mixedScripts :
    ¬ HoldsScriptEnd "more()".toList ∧ ∃ conversion after document,
      (convert .standard mixedScripts "" "more()").run .tally .fresh = (.ok conversion, after) ∧
        conversion.code = "<script>\n<script src=\"//cdn.example.com/lib.js\"></script>" ++
          "\n\nrun()\n\nmore()\n</script>" ∧
        parseWith "html.parser" mixedScripts = .ok document ∧
        (∀ script ∈ elementsNamed "script" document, script.isRemote →
          (scriptTag script.source).toList <:+: conversion.script.toList) ∧
        (HoldsScriptEnd conversion.script.toList ↔
          ∃ script ∈ elementsNamed "script" document,
            script.isRemote ∨ HoldsScriptEnd script.inlineBody) := by
  have clean : ¬ HoldsScriptEnd "more()".toList := by decide
  have converts : ((convert .standard mixedScripts "" "more()").run .tally .fresh).1.map
      Conversion.code = .ok ("<script>\n<script src=\"//cdn.example.com/lib.js\"></script>" ++
        "\n\nrun()\n\nmore()\n</script>") := by decide +kernel
  obtain ⟨conversion, after, ran, code⟩ := Build.exists_of_map_eq converts
  obtain ⟨-, document, parsed, wrapped⟩ := convert_wrapper clean ran
  exact ⟨clean, conversion, after, document, ran, code, parsed, wrapped⟩

/-- The end tag of a script kept elsewhere closes the wrapper. -/
theorem convert_remoteScript :
    ¬ HoldsScriptEnd "".toList ∧ ∃ conversion after,
      (convert .standard "<script src=\"https://cdn.example.com/lib.js\"></script>" "" "").run
          .tally .fresh = (.ok conversion, after) ∧
        conversion.code = "<script>\n" ++ conversion.script ++ "\n</script>" ∧
        HoldsScriptEnd conversion.script.toList := by
  have converts : ((convert .standard "<script src=\"https://cdn.example.com/lib.js\"></script>" ""
      "").run .tally .fresh).1.map (fun conversion => (conversion.script, conversion.code)) =
      .ok ("<script src=\"https://cdn.example.com/lib.js\"></script>",
        "<script>\n<script src=\"https://cdn.example.com/lib.js\"></script>\n</script>") := by
    decide +kernel
  obtain ⟨conversion, after, ran, read⟩ := Build.exists_of_map_eq converts
  obtain ⟨script, code⟩ := Prod.mk.inj read
  refine ⟨by decide, conversion, after, ran, ?_, ?_⟩
  · rw [code, script]
    rfl
  · rw [script]
    decide +kernel

end PageClip
