import PageClip.Build
import PageClip.Given
import PageClip.Style.Collection
import PageClip.Stylesheet.Advanced
import PageClip.Stylesheet.Flat

/-!
# Compiling styles

Each class that is asked for gets one style with an id of its own: the first
rule that targets the class counts, within the base rules and within each
breakpoint. `compileBase` leaves out the breakpoints.
-/

namespace PageClip

open Stylesheet

structure StyleDraft where
  name : String
  notices : List Event
  variants : List (Breakpoint × Resolution)
  base : Resolution
  deriving DecidableEq, Repr

namespace StyleDraft

def events (draft : StyleDraft) : List Event :=
  draft.notices ++ draft.variants.flatMap (fun (_, line) => line.events) ++ draft.base.events

def style (draft : StyleDraft) (id : String) : Style where
  id := id
  name := draft.name
  base := String.ofList draft.base.text
  variants := draft.variants.map fun (tier, line) => (tier, String.ofList line.text)

end StyleDraft

namespace Stylesheet

/-- The declarations of a rule on one line; nothing where there is no rule. -/
def lineOf (sheet : Stylesheet) : Option Rule → Resolution
  | some rule => flatten sheet.values rule.declarations
  | none => ⟨[], []⟩

def baseLine (sheet : Stylesheet) (className : String) : Resolution :=
  sheet.lineOf (sheet.findRule? className.toList)

abbrev TierRules := List (Breakpoint × List Rule)

/-- The rules of the media blocks that belong to a breakpoint, in order. -/
def mediaRules : List AtRule → Build TierRules
  | [] => pure []
  | atRule :: rest =>
    if atRule.name = "media".toList then do
      match ← Build.ofExcept (Breakpoint.ofCondition atRule.prelude) with
      | none =>
        Build.note (.noTier (String.ofList atRule.prelude))
        mediaRules rest
      | some tier =>
        let split := splitAtRules atRule.body
        Build.noteAll split.events
        let more ← mediaRules rest
        pure ((tier, parseRules split.plain) :: more)
    else mediaRules rest

def TierRules.at (tier : Breakpoint) (rules : TierRules) : List Rule :=
  (rules.filter fun entry => entry.1 = tier).flatMap (·.2)

/-- The declarations of a class for each breakpoint that has a rule for it. -/
def variantLines (sheet : Stylesheet) (tiers : TierRules) (className : String) :
    List (Breakpoint × Resolution) :=
  Breakpoint.all.filterMap fun tier =>
    (findRuleIn? className.toList (TierRules.at tier tiers)).map fun rule =>
      (tier, flatten sheet.values rule.declarations)

def baseDraft (sheet : Stylesheet) (className : String) : StyleDraft where
  name := className
  notices := if (sheet.findRule? className.toList).isNone then [.noRule className] else []
  variants := []
  base := sheet.baseLine className

def responsiveDraft (sheet : Stylesheet) (tiers : TierRules) (className : String) :
    StyleDraft where
  name := className
  notices := []
  variants := sheet.variantLines tiers className
  base := sheet.baseLine className

end Stylesheet

/-- Gives each draft an id, in order. -/
def identify : List StyleDraft → Build (List Style)
  | [] => pure []
  | draft :: rest => do
    let id ← Build.newId
    Build.noteAll draft.events
    let more ← identify rest
    pure (draft.style id :: more)

def StyleCollection.ofStyles (sheet : Stylesheet) (styles : List Style) : StyleCollection where
  classIds := styles.map fun style => (style.name, style.id)
  styles := styles
  advanced := String.ofList (Stylesheet.advanced sheet)

def compileBase (css : String) (classNames : List String) : Build StyleCollection := do
  Build.noteAll (parseEvents css.toList)
  let sheet := Stylesheet.parse css.toList
  let styles ← identify (classNames.eraseDups.map sheet.baseDraft)
  pure (.ofStyles sheet styles)

/-- Compiles the styles of classes with what media blocks add for narrow screens. -/
def compileResponsive (css : String) (classNames : List String) : Build StyleCollection := do
  Build.noteAll (parseEvents css.toList)
  let sheet := Stylesheet.parse css.toList
  let tiers ← mediaRules sheet.atRules
  let styles ← identify (classNames.eraseDups.map (sheet.responsiveDraft tiers))
  pure (.ofStyles sheet styles)

def compileStyles (responsive : Bool) (css : String) (classNames : List String) :
    Build StyleCollection :=
  if responsive then compileResponsive css classNames else compileBase css classNames

def compileGiven (responsive : Bool) (css : Given) (classNames : GivenNames) :
    Build StyleCollection := do
  let css ← Build.ofExcept (css.require "css_text")
  let classNames ← Build.ofExcept classNames.require
  compileStyles responsive css classNames

end PageClip
