import Mathlib.Data.List.Nodup
import PageClip.Proofs.FirstSeen
import PageClip.Proofs.Style.Ids

/-!
# Records of classes

Each class that is asked for gets one style, and what the style says does not hang on
what else is asked for (`compileStyles_serves`).
-/

namespace PageClip

open Stylesheet

namespace StyleCollection

/-- One style for each class of a request. `compile` answers requests; the source has handed out
`first` ids before. -/
structure Serves (collection : StyleCollection) (classNames : List String) (ids : IdSource)
    (first : Nat) (compile : List String → Build StyleCollection) : Prop where
  names : FirstSeen classNames (collection.styles.map Style.name)
  drawn : collection.styles.map Style.id =
    (List.range' first collection.styles.length).map ids
  table : collection.classIds = collection.styles.map fun style => (style.name, style.id)
  found : ∀ style ∈ collection.styles, collection.style? style.name = some style
  absent : ∀ name, name ∉ classNames → collection.style? name = none
  /-- A class that is asked for alone gets the same style, but for the id. -/
  alone : ∀ style ∈ collection.styles, ∀ (other : IdSource) (ledger : Ledger), ∃ single after,
    (compile [style.name]).run other ledger = (.ok single, after) ∧
      single.styles = [{ style with id := other ledger.drawn }]

theorem style?_of_mem {collection : StyleCollection}
    (table : collection.classIds = collection.styles.map fun style => (style.name, style.id))
    (names : (collection.styles.map Style.name).Nodup)
    (ids : (collection.styles.map Style.id).Nodup) {style : Style}
    (member : style ∈ collection.styles) : collection.style? style.name = some style := by
  have listed : style.name ∈ Table.keys collection.classIds := by
    rw [table, Table.keys, List.map_map]
    exact List.mem_map_of_mem member
  obtain ⟨id, found⟩ := Option.isSome_iff_exists.mp (Table.find?_isSome_iff.mpr listed)
  have entry := Table.mem_of_find? found
  rw [table, List.mem_map] at entry
  obtain ⟨named, memberNamed, eq⟩ := entry
  obtain ⟨sameName, rfl⟩ := Prod.mk.inj eq
  obtain rfl := List.inj_on_of_nodup_map names memberNamed member sameName
  rw [style?, found]
  obtain ⟨held, present⟩ := Option.isSome_iff_exists.mp
    (List.find?_isSome (p := fun style => style.id == named.id).mpr ⟨named, member, by simp⟩)
  have sameId : held.id = named.id := by simpa using List.find?_some present
  rw [← List.inj_on_of_nodup_map ids (List.mem_of_find?_eq_some present) member sameId]
  exact sameId ▸ present

theorem style?_of_not_mem {collection : StyleCollection}
    (table : collection.classIds = collection.styles.map fun style => (style.name, style.id))
    {name : String} (absent : name ∉ collection.styles.map Style.name) :
    collection.style? name = none := by
  have missing : Table.find? name collection.classIds = none := by
    rw [← Option.not_isSome_iff_eq_none, Table.find?_isSome_iff, table, Table.keys, List.map_map]
    exact absent
  rw [style?, missing]

end StyleCollection

/-- A request is served by either compilation, whatever classes it names and however often. -/
theorem compileStyles_serves {responsive : Bool} {css : String} {classNames : List String}
    {ids : IdSource} {ledger after : Ledger} {collection : StyleCollection}
    (distinct : Function.Injective ids)
    (h : (compileStyles responsive css classNames).run ids ledger = (.ok collection, after)) :
    collection.Serves classNames ids ledger.drawn (compileStyles responsive css) := by
  obtain ⟨table, drawn, -⟩ := compileStyles_ok h
  obtain ⟨draft, drafted, styles, -⟩ := exists_drafter h
  have names : FirstSeen classNames (collection.styles.map Style.name) :=
    map_name_of_run h ▸ firstSeen_eraseDups classNames
  have once : (collection.styles.map Style.id).Nodup :=
    drawn ▸ List.Nodup.map distinct List.nodup_range'
  refine ⟨names, drawn, table, fun style member => ?_, fun name absent => ?_,
    fun style member other start => ?_⟩
  · exact StyleCollection.style?_of_mem table names.nodup once member
  · exact StyleCollection.style?_of_not_mem table fun listed => absent ((names.mem_iff name).mp listed)
  · rw [styles, StyleCollection.ofStyles] at member
    obtain ⟨drafted', listed, eq⟩ := exists_draft_of_identified member
    obtain ⟨name, -, rfl⟩ := List.mem_map.mp listed
    have sameName : style.name = name := by
      rw [eq]
      exact (drafter_ok drafted name).1
    have single : [style.name].eraseDups.map draft = [draft name] := by
      simp [List.eraseDups_cons, sameName]
    obtain ⟨events, ran⟩ := compileStyles_run responsive css [style.name] other start
    rw [drafted] at ran
    refine ⟨_, _, ran, ?_⟩
    rw [single, eq]
    rfl

def narrowSheet : String :=
  ".b:hover \x7b top: 0 \x7d .b \x7b top: 1px \x7d @media (max-width: 479px) \x7b .n \x7b left: 0 \x7d .b \x7b left: 1px \x7d \x7d"

/-- A request that names one class twice, one with rules for narrow screens only and one without
rules. -/
def mixedRequest : Except Fault StyleCollection × Ledger :=
  (compileStyles true narrowSheet ["b", "ghost", "b", "n"]).run .tally .fresh

theorem mixedRequest_serves :
    Function.Injective IdSource.tally ∧ ∃ collection after,
      mixedRequest = (.ok collection, after) ∧
        collection.styles.map Style.name = ["b", "ghost", "n"] ∧
        collection.styles.map (fun style => style.variants.map Prod.fst) = [[.tiny], [], [.tiny]] ∧
        collection.Serves ["b", "ghost", "b", "n"] .tally 0 (compileStyles true narrowSheet) := by
  have returns : mixedRequest.1.map (fun collection => (collection.styles.map Style.name,
      collection.styles.map fun style => style.variants.map Prod.fst)) =
      .ok (["b", "ghost", "n"], [[.tiny], [], [.tiny]]) := by decide +kernel
  obtain ⟨collection, after, outcome, read⟩ := Build.exists_of_map_eq returns
  obtain ⟨names, tiers⟩ := Prod.mk.inj read
  exact ⟨IdSource.tally_injective, collection, after, outcome, names, tiers,
    compileStyles_serves IdSource.tally_injective outcome⟩

end PageClip
