import Mathlib.Data.List.Perm.Basic
import Mathlib.Data.String.Basic
import PageClip.CommandLine.Run
import PageClip.Proofs.Conversion
import PageClip.Proofs.Json.Reader

/-!
# Files of chunks

Chunks are written under names that begin with their number in two digits at least. A
directory lists files by name, and that is the order of the chunks up to the
ninety-ninth: `deliver_listed_iff`.
-/

namespace PageClip

namespace CommandLine

/-! ### Names -/

/-- What the name of the file of a chunk begins with. -/
def paddedNumber (number : Nat) : Text :=
  if number < 10 then '0' :: Nat.toDigits 10 number else Nat.toDigits 10 number

theorem exists_chunkFileName (number : Nat) (label : String) :
    ∃ rest, (chunkFileName number label).toList = paddedNumber number ++ '-' :: rest := by
  refine ⟨Text.substitute ' ' ['-'] (Text.lower label.toList) ++ ".json".toList, ?_⟩
  unfold chunkFileName paddedNumber
  split <;> simp [toString, Nat.repr]

theorem hyphen_lt_of_mem_paddedNumber {number : Nat} {c : Char} (member : c ∈ paddedNumber number) :
    '-' < c := by
  have digit : c.isDigit = true := by
    unfold paddedNumber at member
    split at member
    · rcases List.mem_cons.mp member with rfl | later
      · decide
      · exact Text.isDigit_of_mem_toDigits later
    · exact Text.isDigit_of_mem_toDigits member
  have least : '0'.val ≤ c.val := by
    simp only [Char.isDigit, Bool.and_eq_true, decide_eq_true_eq] at digit
    exact digit.1
  exact Char.lt_def.mpr (UInt32.lt_of_lt_of_le (by decide) least)

theorem ofDigits_paddedNumber (number : Nat) : Text.ofDigits 10 (paddedNumber number) = number := by
  unfold paddedNumber
  split
  · exact Text.ofDigits_toDigits number
  · exact Text.ofDigits_toDigits number

theorem paddedNumber_injective : Function.Injective paddedNumber := by
  intro number other same
  rw [← ofDigits_paddedNumber number, same, ofDigits_paddedNumber]

/-- A character below all others in two words keeps their order where it ends both. -/
theorem append_lt_append {mark : Char} {word other : Text} (below : ∀ c ∈ other, mark < c)
    (less : word < other) (rest more : Text) : word ++ mark :: rest < other ++ mark :: more := by
  induction word generalizing other with
  | nil =>
    cases other with
    | nil => exact absurd less (lt_irrefl _)
    | cons c other => exact List.cons_lt_cons_iff.mpr (.inl (below c List.mem_cons_self))
  | cons c word ih =>
    cases other with
    | nil => exact absurd less (List.not_lt_nil _)
    | cons d other =>
      rcases List.cons_lt_cons_iff.mp less with first | ⟨rfl, later⟩
      · exact List.cons_lt_cons_iff.mpr (.inl first)
      · exact List.cons_lt_cons_iff.mpr
          (.inr ⟨rfl, ih (fun e member => below e (List.mem_cons_of_mem c member)) later⟩)

theorem chunkFileName_lt {number other : Nat} (less : paddedNumber number < paddedNumber other)
    (label otherLabel : String) : chunkFileName number label < chunkFileName other otherLabel := by
  obtain ⟨rest, name⟩ := exists_chunkFileName number label
  obtain ⟨more, otherName⟩ := exists_chunkFileName other otherLabel
  rw [String.lt_iff_toList_lt, name, otherName]
  exact append_lt_append (fun _ => hyphen_lt_of_mem_paddedNumber) less rest more

theorem chunkFileName_ne {number other : Nat} (different : number ≠ other)
    (label otherLabel : String) : chunkFileName number label ≠ chunkFileName other otherLabel := by
  rcases lt_or_gt_of_ne (paddedNumber_injective.ne different) with less | more
  · exact (chunkFileName_lt less label otherLabel).ne
  · exact (chunkFileName_lt more otherLabel label).ne'

theorem paddedNumber_lt {number other : Nat} (less : number < other) (short : other < 100) :
    paddedNumber number < paddedNumber other := by
  have step : ∀ n < 99, paddedNumber n < paddedNumber (n + 1) := by decide
  induction other, less using Nat.le_induction with
  | base => exact step number (by omega)
  | succ other _ ih => exact (ih (by omega)).trans (step other (by omega))

/-! ### Files -/

/-- The file that an effect writes, with its content. -/
def Effect.file? : Effect → Option (String × String)
  | .write path content => some (path, content)
  | .print _ | .tell _ => none

def writtenFiles (effects : List Effect) : List (String × String) := effects.filterMap Effect.file?

/-- The names of the files of chunks, each with what is written into the file; the first chunk is the
`number`-th. -/
def chunkFiles (number : Nat) (chunks : List (Chunk × Clipboard)) : List (String × Clipboard) :=
  (chunks.zipIdx number).map fun ((chunk, clipboard), number) =>
    (chunkFileName number chunk.label, clipboard)

/-- A file that a clipboard is written into. -/
def clipboardFile (directory : String) (file : String × Clipboard) : String × String :=
  (joinPath directory file.1, file.2.render (some 2))

/-- Files as a directory lists them. -/
def listed {α : Type} (files : List (String × α)) : List (String × α) :=
  files.mergeSort fun a b => a.1 ≤ b.1

theorem writtenFiles_writeChunks (directory : String) (number : Nat)
    (chunks : List (Chunk × Clipboard)) :
    writtenFiles (writeChunks directory number chunks) =
      (chunkFiles number chunks).map (clipboardFile directory) := by
  induction chunks generalizing number with
  | nil => rfl
  | cons entry rest ih =>
    obtain ⟨chunk, clipboard⟩ := entry
    have first : writtenFiles (writeChunks directory number ((chunk, clipboard) :: rest)) =
        clipboardFile directory (chunkFileName number chunk.label, clipboard) ::
          writtenFiles (writeChunks directory (number + 1) rest) := rfl
    rw [first, ih]
    rfl

theorem writtenFiles_deliver {options : ConvertOptions} {directory : String}
    (split : filled options.split = some directory) (result : Conversion) :
    writtenFiles (deliver options result) =
      (filled options.output).toList.map (fun path => (path, result.clipboard.render (some 2))) ++
        (chunkFiles 1 (result.chunks.zip result.chunkClipboards)).map (clipboardFile directory) := by
  have chunks := writtenFiles_writeChunks directory 1 (result.chunks.zip result.chunkClipboards)
  have code : writtenFiles (if result.needsCode then
      [tellLine "\nCustom code for an HTML Embed element:", tellLine result.code] else []) = [] := by
    split <;> rfl
  unfold writtenFiles at chunks code ⊢
  simp only [deliver, split, List.filterMap_append, chunks, code, List.append_nil]
  cases filled options.output <;> rfl

theorem nodup_chunkFiles (number : Nat) (chunks : List (Chunk × Clipboard)) :
    ((chunkFiles number chunks).map (·.1)).Nodup := by
  rw [List.Nodup, List.pairwise_iff_getElem]
  intro i j inside inside' less
  simp only [chunkFiles, List.getElem_map, List.getElem_zipIdx]
  exact chunkFileName_ne (by omega) _ _

theorem pairwise_chunkFiles_iff (chunks : List (Chunk × Clipboard)) :
    (chunkFiles 1 chunks).Pairwise (fun a b => a.1 ≤ b.1) ↔ chunks.length < 100 := by
  constructor
  · -- The hundredth name comes before the ninety-ninth.
    intro sorted
    by_contra many
    have inside : 99 < (chunkFiles 1 chunks).length := by
      simp only [chunkFiles, List.length_map, List.length_zipIdx]
      omega
    have ordered := List.pairwise_iff_getElem.mp sorted 98 99 (by omega) inside (by omega)
    simp only [chunkFiles, List.getElem_map, List.getElem_zipIdx] at ordered
    have less : paddedNumber 100 < paddedNumber 99 := by decide
    exact absurd (chunkFileName_lt less _ _) (not_lt_of_ge ordered)
  · intro few
    rw [List.pairwise_iff_getElem]
    intro i j inside inside' less
    simp only [chunkFiles, List.length_map, List.length_zipIdx] at inside'
    simp only [chunkFiles, List.getElem_map, List.getElem_zipIdx]
    exact (chunkFileName_lt (paddedNumber_lt (by omega) (by omega)) _ _).le

theorem pairwise_listed {α : Type} (files : List (String × α)) :
    (listed files).Pairwise fun a b => a.1 ≤ b.1 := by
  have sorted : (files.mergeSort fun a b => a.1 ≤ b.1).Pairwise fun a b => decide (a.1 ≤ b.1) :=
    List.pairwise_mergeSort (fun a b c => by simpa using le_trans)
      (fun a b => by simpa using le_total a.1 b.1) files
  unfold listed
  simpa using sorted

theorem listed_eq_iff {α : Type} {files : List (String × α)} :
    listed files = files ↔ files.Pairwise fun a b => a.1 ≤ b.1 := by
  constructor
  · intro same
    rw [← same]
    exact pairwise_listed files
  · intro sorted
    exact List.mergeSort_of_pairwise (by simpa using sorted)

/-- Pieces that are not empty and share nothing can be put together in one order only. -/
theorem eq_of_flatMap_eq {α β : Type} {pieces : α → List β} {items others : List α}
    (filled : ∀ item ∈ items, pieces item ≠ []) (once : (items.flatMap pieces).Nodup)
    (perm : others.Perm items) (same : others.flatMap pieces = items.flatMap pieces) :
    others = items := by
  induction items generalizing others with
  | nil => exact perm.eq_nil
  | cons first rest ih =>
    obtain ⟨here, later⟩ := List.forall_mem_cons.mp filled
    rw [List.flatMap_cons] at once
    obtain ⟨-, onceRest, apart⟩ := List.nodup_append.mp once
    cases others with
    | nil => exact absurd perm.symm (by simp)
    | cons other others =>
      have listed : other ∈ first :: rest := perm.subset List.mem_cons_self
      obtain ⟨b, tail, begins⟩ := List.exists_cons_of_ne_nil here
      obtain ⟨c, tail', begins'⟩ := List.exists_cons_of_ne_nil (filled other listed)
      have heads : c = b := by
        rw [List.flatMap_cons, List.flatMap_cons, begins, begins'] at same
        exact (List.cons.inj same).1
      have same' : other = first := by
        rcases List.mem_cons.mp listed with same | further
        · exact same
        · have inRest : b ∈ rest.flatMap pieces :=
            List.mem_flatMap.mpr ⟨other, further, by rw [begins', heads]; exact List.mem_cons_self⟩
          exact absurd rfl (apart b (begins ▸ List.mem_cons_self) b inRest)
      subst same'
      rw [List.flatMap_cons, List.flatMap_cons, List.append_cancel_left_eq] at same
      rw [ih later onceRest perm.cons_inv same]

theorem map_snd_chunkFiles (number : Nat) (chunks : List (Chunk × Clipboard)) :
    (chunkFiles number chunks).map (·.2) = chunks.map (·.2) := by
  induction chunks generalizing number with
  | nil => rfl
  | cons entry rest ih => exact congrArg (entry.2 :: ·) (ih (number + 1))

/-- The nodes of files, file by file. -/
def fileNodes (files : List (String × Clipboard)) : List Node :=
  files.flatMap fun file => file.2.nodes

theorem fileNodes_eq (files : List (String × Clipboard)) :
    fileNodes files = (files.map (·.2)).flatMap Clipboard.nodes := (List.flatMap_map _ _ _).symm

theorem fileNodes_listed_iff {chunks : List (Chunk × Clipboard)}
    (filled : ∀ clipboard ∈ chunks.map (·.2), clipboard.nodes ≠ [])
    (once : ((chunks.map (·.2)).flatMap Clipboard.nodes).Nodup) :
    fileNodes (listed (chunkFiles 1 chunks)) = (chunks.map (·.2)).flatMap Clipboard.nodes ↔
      chunks.length < 100 := by
  rw [← map_snd_chunkFiles 1] at filled once ⊢
  rw [← fileNodes_eq] at once ⊢
  rw [← pairwise_chunkFiles_iff, ← listed_eq_iff]
  constructor
  · have solid : ∀ file ∈ chunkFiles 1 chunks, file.2.nodes ≠ [] := fun file member =>
      filled file.2 (List.mem_map_of_mem member)
    exact eq_of_flatMap_eq solid once (List.mergeSort_perm _ _)
  · exact congrArg fileNodes

end CommandLine

open CommandLine

/-- Labels play no part in what is pasted for the chunks. -/
theorem Conversion.chunkClipboards_congr {conversion : Conversion} {chunks : List Chunk}
    (relabelled : chunks.map Chunk.nodes = conversion.chunks.map Chunk.nodes) :
    { conversion with chunks := chunks }.chunkClipboards = conversion.chunkClipboards := by
  have wrapped := congrArg
    (List.map fun nodes => (⟨nodes, conversion.styles.styles, []⟩ : Clipboard)) relabelled
  rw [List.map_map, List.map_map] at wrapped
  exact wrapped

theorem Conversion.length_chunkClipboards (conversion : Conversion) :
    conversion.chunkClipboards.length = conversion.chunks.length := List.length_map _

theorem convert_chunkNodes {settings : Settings} {html css js : String} {ids : IdSource}
    {ledger after : Ledger} {conversion : Conversion} (distinct : Function.Injective ids)
    (h : (convert settings html css js).run ids ledger = (.ok conversion, after)) :
    conversion.chunkClipboards.flatMap Clipboard.nodes = conversion.tree.nodes ∧
      (∀ clipboard ∈ conversion.chunkClipboards, clipboard.nodes ≠ []) ∧
      conversion.tree.nodes.Nodup := by
  obtain ⟨-, once, -⟩ := List.nodup_append.mp (nodup_ids distinct h)
  obtain ⟨-, -, ⟨document, compiled⟩, made⟩ := convert_ok h
  obtain ⟨partition, whole⟩ := chunks_of_layout compiled.layout once made
  refine ⟨?_, fun clipboard member => ?_, once.of_map⟩
  · rw [Conversion.chunkClipboards, List.flatMap_map]
    exact whole
  · obtain ⟨chunk, listed, rfl⟩ := List.mem_map.mp member
    exact partition.filled chunk listed

/-- A listing by name keeps the files of a conversion in order as long as their numbers fill two
digits. -/
theorem listed_chunks_iff {settings : Settings} {html css js : String} {ids : IdSource}
    {ledger after : Ledger} {conversion : Conversion} (distinct : Function.Injective ids)
    (h : (convert settings html css js).run ids ledger = (.ok conversion, after))
    {chunks : List Chunk} (relabelled : chunks.map Chunk.nodes = conversion.chunks.map Chunk.nodes) :
    let files := chunkFiles 1 (chunks.zip conversion.chunkClipboards)
    files.map (·.2) = conversion.chunkClipboards ∧
      (listed files = files ↔ chunks.length < 100) ∧
      (fileNodes (listed files) = conversion.clipboard.nodes ↔ chunks.length < 100) := by
  intro files
  have lengths : conversion.chunkClipboards.length = chunks.length := by
    rw [← Conversion.chunkClipboards_congr relabelled]
    exact Conversion.length_chunkClipboards _
  have pastes : (chunks.zip conversion.chunkClipboards).map (·.2) = conversion.chunkClipboards :=
    List.map_snd_zip lengths.le
  have count : (chunks.zip conversion.chunkClipboards).length = chunks.length := by
    rw [List.length_zip, lengths, min_self]
  obtain ⟨whole, filled, once⟩ := convert_chunkNodes distinct h
  refine ⟨by rw [map_snd_chunkFiles, pastes], ?_, ?_⟩
  · rw [listed_eq_iff, pairwise_chunkFiles_iff, count]
  · rw [← pastes] at filled whole
    have inOrder := fileNodes_listed_iff filled (whole ▸ once)
    rwa [whole, count] at inOrder

/-- The files of chunks have different names, whatever the labels. In a listing by name they give the
nodes of the page one after another exactly if there are fewer than a hundred. -/
theorem deliver_listed_iff {settings : Settings} {html css js : String} {ids : IdSource}
    {ledger after : Ledger} {conversion : Conversion} (distinct : Function.Injective ids)
    (h : (convert settings html css js).run ids ledger = (.ok conversion, after))
    {chunks : List Chunk} (relabelled : chunks.map Chunk.nodes = conversion.chunks.map Chunk.nodes)
    {options : ConvertOptions} {directory : String}
    (split : filled options.split = some directory) :
    let files := chunkFiles 1 (chunks.zip conversion.chunkClipboards)
    writtenFiles (deliver options { conversion with chunks := chunks }) =
        (filled options.output).toList.map
            (fun path => (path, conversion.clipboard.render (some 2))) ++
          files.map (clipboardFile directory) ∧
      files.map (·.2) = conversion.chunkClipboards ∧
      (files.map (·.1)).Nodup ∧
      (listed files = files ↔ chunks.length < 100) ∧
      (fileNodes (listed files) = conversion.clipboard.nodes ↔ chunks.length < 100) := by
  intro files
  obtain ⟨pastes, order, nodes⟩ := listed_chunks_iff distinct h relabelled
  refine ⟨?_, pastes, nodup_chunkFiles 1 _, order, nodes⟩
  rw [writtenFiles_deliver split, Conversion.chunkClipboards_congr relabelled]
  rfl

/-- Two landmarks and a paragraph, with a chunk for each. -/
def shortRun : Except Fault Conversion × Ledger :=
  (convert ⟨.integer 1, true, "html.parser", true⟩
    "<header>a</header><section>b</section><p>c</p>" "" "").run .tally .fresh

def splitOptions : ConvertOptions := ⟨"page.html", none, none, some "all.json", some "out", 1, false⟩

theorem shortRun_listed :
    Function.Injective IdSource.tally ∧ filled splitOptions.split = some "out" ∧
      ∃ conversion after, shortRun = (.ok conversion, after) ∧ conversion.chunks.length = 3 ∧
        let relabelled := conversion.chunks.map fun chunk => { chunk with label := "9-Z/é" }
        relabelled.map Chunk.nodes = conversion.chunks.map Chunk.nodes ∧
        let files := chunkFiles 1 (relabelled.zip conversion.chunkClipboards)
        (files.map (·.1)).Nodup ∧ listed files = files ∧
        fileNodes (listed files) = conversion.clipboard.nodes := by
  have cut : shortRun.1.map (fun conversion => conversion.chunks.length) = .ok 3 := by
    decide +kernel
  obtain ⟨conversion, after, ran, three⟩ := Build.exists_of_map_eq cut
  have relabelled : (conversion.chunks.map fun chunk => { chunk with label := "9-Z/é" }).map
      Chunk.nodes = conversion.chunks.map Chunk.nodes := by
    rw [List.map_map]
    rfl
  have split : filled splitOptions.split = some "out" := by decide
  have few : (conversion.chunks.map fun chunk => { chunk with label := "9-Z/é" }).length < 100 := by
    rw [List.length_map, three]
    decide
  obtain ⟨-, -, distinct, order, whole⟩ :=
    deliver_listed_iff IdSource.tally_injective ran relabelled split
  exact ⟨IdSource.tally_injective, split, conversion, after, ran, three, relabelled, distinct,
    order.mpr few, whole.mpr few⟩

/-! ### A hundred chunks -/

def longText : Text := (List.replicate 100 "<p></p>".toList).flatten

def longPage : String := String.ofList longText

def longRun : Except Fault Conversion × Ledger :=
  (convert ⟨.integer 1, true, "html.parser", true⟩ longPage "" "").run .tally .fresh

theorem Markup.parse_ofList (text : Text) : Markup.parse (String.ofList text) =
    match Markup.lex? text with
    | some tokens => .ok (.ofTokens tokens)
    | none => .error .rejectedMarkup := by
  cases lexed : Markup.lex? text <;> simp [Markup.parse, lexed]

theorem longRun_chunks :
    longRun.1.map (fun conversion => conversion.chunks.length) = .ok 100 := by
  simp only [longRun, longPage, convert, Tree.compile, extractScript, Markup.parseWith,
    Markup.parse_ofList]
  decide +kernel

theorem longRun_listed :
    ∃ conversion after, longRun = (.ok conversion, after) ∧
      let files := chunkFiles 1 (conversion.chunks.zip conversion.chunkClipboards)
      writtenFiles (deliver splitOptions conversion) =
          ("all.json", conversion.clipboard.render (some 2)) :: files.map (clipboardFile "out") ∧
        listed files ≠ files ∧ fileNodes (listed files) ≠ conversion.clipboard.nodes := by
  obtain ⟨conversion, after, ran, hundred⟩ := Build.exists_of_map_eq longRun_chunks
  obtain ⟨-, order, nodes⟩ := listed_chunks_iff IdSource.tally_injective ran rfl
  have many : ¬ conversion.chunks.length < 100 := by
    rw [hundred]
    decide
  exact ⟨conversion, after, ran, writtenFiles_deliver rfl conversion, mt order.mp many,
    mt nodes.mp many⟩

end PageClip
