import VoiceDebugger.Proofs.Index.Saved
import VoiceDebugger.Proofs.Text.Pieces
import VoiceDebugger.Proofs.Workspace.Walk
import VoiceDebugger.Search

/-!
What a search for a text finds.

The hits come in the order of the walk and then of the lines, one for each line that holds the text
in a file that is searched and can be read. The walk follows the listings of the folders, whatever
their order. A hit shows its line and up to two lines on each side; line numbers begin at one, and
the places in a list at zero.
-/

namespace VoiceDebugger

/-! ### Lines -/

theorem linesOf_newline (text : List Char) : linesOf ('\n' :: text) = ['\n'] :: linesOf text := by
  obtain ⟨piece, pieces, cut⟩ := List.exists_cons_of_ne_nil (Text.splitAtChar_ne_nil '\n' text)
  have next : Text.splitAtChar '\n' ('\n' :: text) = [] :: piece :: pieces := by
    rw [Text.splitAtChar, if_pos (beq_self_eq_true _), cut]
  rw [linesOf, linesOf, next, cut]
  simp only [List.dropLast_cons_cons, List.map_cons, List.getLast?_cons_cons, List.nil_append]
  cases (piece :: pieces).getLast? with
  | none => rfl
  | some last => cases last <;> rfl

/-- A character that ends no line goes to the front of the first one. -/
theorem linesOf_char (c : Char) (text : List Char) (inside : c ≠ '\n') :
    linesOf (c :: text) = (c :: (linesOf text).headD []) :: (linesOf text).tail := by
  obtain ⟨piece, pieces, cut⟩ := List.exists_cons_of_ne_nil (Text.splitAtChar_ne_nil '\n' text)
  have next : Text.splitAtChar '\n' (c :: text) = (c :: piece) :: pieces := by
    rw [Text.splitAtChar, if_neg (by simpa using inside), cut]
  rw [linesOf, linesOf, next, cut]
  cases pieces with
  | nil => cases piece <;> rfl
  | cons second pieces =>
    simp only [List.dropLast_cons_cons, List.map_cons, List.getLast?_cons_cons]
    cases (second :: pieces).getLast? with
    | none => rfl
    | some last => cases last <;> rfl

/-- A text cut behind each line feed: all lines but the last end in one, none holds another, and
none is empty. -/
structure CutInLines (text : List Char) (lines : List (List Char)) : Prop where
  whole : lines.flatten = text
  filled : [] ∉ lines
  single : ∀ line ∈ lines, '\n' ∉ line.dropLast
  ended : ∀ line ∈ lines.dropLast, line.getLast? = some '\n'

theorem CutInLines.newline {text : List Char} {lines : List (List Char)}
    (cut : CutInLines text lines) : CutInLines ('\n' :: text) (['\n'] :: lines) where
  whole := by rw [List.flatten_cons, cut.whole, List.singleton_append]
  filled := by simpa using cut.filled
  single := by simpa using cut.single
  ended := by
    cases lines with
    | nil => simp
    | cons line more => simpa using cut.ended

theorem CutInLines.char {text : List Char} {lines : List (List Char)} (cut : CutInLines text lines)
    {c : Char} (inside : c ≠ '\n') :
    CutInLines (c :: text) ((c :: lines.headD []) :: lines.tail) := by
  cases lines with
  | nil =>
    have whole : [] = text := cut.whole
    subst whole
    exact ⟨rfl, by simp, by simp, by simp⟩
  | cons line more =>
    have filled : line ≠ [] := fun empty => cut.filled (empty ▸ List.mem_cons_self)
    obtain ⟨d, rest, rfl⟩ := List.exists_cons_of_ne_nil filled
    refine ⟨?_, ?_, ?_, ?_⟩
    · simpa using cut.whole
    · simpa using cut.filled
    · have single := cut.single
      simp only [List.forall_mem_cons] at single
      simpa [inside.symm] using single
    · have ended := cut.ended
      cases more with
      | nil => simp
      | cons second more => simpa using ended

theorem cutInLines_linesOf (text : List Char) : CutInLines text (linesOf text) := by
  induction text with
  | nil => exact ⟨rfl, by decide, by decide, by decide⟩
  | cons c text ih =>
    by_cases newline : c = '\n'
    · rw [newline, linesOf_newline]
      exact ih.newline
    · rw [linesOf_char c text newline]
      exact ih.char newline

/-! ### Hits in a file -/

/-- The line of a number, without blanks at its ends. -/
def strippedLine (lines : List (List Char)) (number : Nat) : Option String :=
  (lines[number - 1]?).map fun line => String.ofList (Text.trim line)

/-- A hit that is about one of the lines of a file and shows the lines around it. -/
structure LineHit.Shows (hit : LineHit) (query : CodeText) (lines : List (List Char)) : Prop where
  inRange : 1 ≤ hit.line ∧ hit.line ≤ lines.length
  holds : ∃ line, lines[hit.line - 1]? = some line ∧
    query.lower.codes <:+: (Text.lowerFrom [] line).map Code.ofChar
  preview : strippedLine lines hit.line = some hit.preview
  context : hit.context.map some =
    (List.range' (max 1 (hit.line - 2))
      (min lines.length (hit.line + 2) + 1 - max 1 (hit.line - 2))).map (strippedLine lines)

theorem slice_of_nonneg {α : Type} (as : List α) (start stop : Int) (fromFront : 0 ≤ start)
    (toFront : 0 ≤ stop) : slice as start stop = (as.take stop.toNat).drop start.toNat := by
  unfold slice
  simp only
  rw [if_neg (by omega), if_neg (by omega)]

/-- A part of the lines, by the numbers of its lines. -/
theorem map_strippedLine (lines : List (List Char)) (start stop : Nat)
    (inside : stop ≤ lines.length) :
    (((lines.take stop).drop start).map fun line => String.ofList (Text.trim line)).map some =
      (List.range' (start + 1) (stop - start)).map (strippedLine lines) := by
  apply List.ext_getElem
  · simp only [List.length_map, List.length_drop, List.length_take, List.length_range']
    omega
  · intro j before _
    simp only [List.length_map, List.length_drop, List.length_take] at before
    have there : start + j < lines.length := by omega
    have number : start + 1 + 1 * j - 1 = start + j := by omega
    simp only [List.getElem_map, List.getElem_drop, List.getElem_take, List.getElem_range',
      strippedLine, number]
    rw [List.getElem?_eq_getElem there, Option.map_some]

/-- The lines around a line are those with numbers up to two away. -/
theorem surrounding_eq (lines : List (List Char)) (i : Nat) (there : i < lines.length) :
    (surrounding lines (i + 1) hitMargin).map some =
      (List.range' (max 1 (i + 1 - 2))
        (min lines.length (i + 1 + 2) + 1 - max 1 (i + 1 - 2))).map (strippedLine lines) := by
  have start : (max 0 ((i : Int) + 1 - 2 - 1)).toNat = i - 2 := by omega
  have stop : (min (lines.length : Int) ((i : Int) + 1 + 2)).toNat = min lines.length (i + 3) := by
    omega
  have first : max 1 (i + 1 - 2) = i - 2 + 1 := by omega
  have count : min lines.length (i + 1 + 2) + 1 - max 1 (i + 1 - 2) =
      min lines.length (i + 3) - (i - 2) := by omega
  unfold surrounding hitMargin
  simp only
  rw [count, first, slice_of_nonneg lines _ _ (by omega) (by omega), start, stop]
  exact map_strippedLine lines (i - 2) (min lines.length (i + 3)) (Nat.min_le_left _ _)

theorem mem_zip_range (lines : List (List Char)) (line : List Char) (i : Nat) :
    (line, i) ∈ lines.zip (List.range lines.length) ↔ lines[i]? = some line := by
  rw [List.range_eq_range', ← List.zipIdx_eq_zip_range', List.mem_zipIdx_iff_getElem?]

theorem lineHolds_iff (query : CodeText) (line : List Char) :
    lineHolds query line = true ↔
      query.lower.codes <:+: (Text.lowerFrom [] line).map Code.ofChar :=
  Text.occursIn_iff_infix _ _

/-- The hits in a file are those that are about one of its lines. -/
theorem mem_hitsIn (query : CodeText) (file : String) (lines : List (List Char)) (hit : LineHit) :
    hit ∈ hitsIn query file lines ↔ hit.file = file ∧ hit.Shows query lines := by
  unfold hitsIn
  rw [List.mem_filterMap]
  constructor
  · rintro ⟨⟨line, i⟩, member, taken⟩
    rw [mem_zip_range] at member
    obtain ⟨there, -⟩ := List.getElem?_eq_some_iff.mp member
    simp only [Option.ite_none_right_eq_some, Option.some.injEq] at taken
    obtain ⟨holds, rfl⟩ := taken
    refine ⟨rfl, ⟨by simp, there⟩, ⟨line, member, (lineHolds_iff query line).mp holds⟩, ?_,
      surrounding_eq lines i there⟩
    simp only [strippedLine, Nat.add_sub_cancel, member, Option.map_some]
  · obtain ⟨file', number, preview, context⟩ := hit
    rintro ⟨rfl, ⟨low, high⟩, ⟨line, member, holds⟩, preview', context'⟩
    simp only at low high member preview' context'
    obtain ⟨i, rfl⟩ : ∃ i, number = i + 1 := ⟨number - 1, by omega⟩
    rw [Nat.add_sub_cancel] at member
    refine ⟨(line, i), (mem_zip_range lines line i).mpr member, ?_⟩
    have sameContext : surrounding lines (i + 1) hitMargin = context := by
      have both := (surrounding_eq lines i (by omega)).trans context'.symm
      exact (List.map_inj_right fun a b same => Option.some.inj same).mp both
    simp only [strippedLine, Nat.add_sub_cancel, member, Option.map_some, Option.some.injEq]
      at preview'
    simp only [(lineHolds_iff query line).mpr holds, ↓reduceIte, preview', sameContext]

/-- In the context of a hit its own line comes after as many lines as there are before it, up to
two. -/
theorem LineHit.Shows.context_preview {hit : LineHit} {query : CodeText} {lines : List (List Char)}
    (shows : hit.Shows query lines) :
    hit.context[min (hit.line - 1) 2]? = some hit.preview := by
  obtain ⟨low, high⟩ := shows.inRange
  have place : min (hit.line - 1) 2 <
      min lines.length (hit.line + 2) + 1 - max 1 (hit.line - 2) := by omega
  have number : max 1 (hit.line - 2) + 1 * min (hit.line - 1) 2 = hit.line := by omega
  have shown := congrArg (fun context => context[min (hit.line - 1) 2]?) shows.context
  simp only [List.getElem?_map, List.getElem?_range' place, number, Option.map_some,
    shows.preview] at shown
  simpa using shown

/-- The hits in a file come in the order of its lines. -/
theorem ordered_hitsIn (query : CodeText) (file : String) (lines : List (List Char)) :
    (hitsIn query file lines).Pairwise fun h g => h.line < g.line := by
  have numbers : (lines.zip (List.range lines.length)).Pairwise fun p q => p.2 < q.2 := by
    refine List.pairwise_map.mp ?_
    rw [List.map_snd_zip (by simp)]
    exact List.pairwise_lt_range
  unfold hitsIn
  refine List.Pairwise.filterMap _ ?_ numbers
  rintro ⟨line, i⟩ ⟨other, j⟩ less h hTaken g gTaken
  simp only [Option.ite_none_right_eq_some, Option.some.injEq] at hTaken gTaken
  obtain ⟨-, rfl⟩ := hTaken
  obtain ⟨-, rfl⟩ := gTaken
  exact Nat.succ_lt_succ less

/-! ### Files that are searched -/

/-- How the names of a language's files end. -/
def endings : List (String × String) :=
  [("python", ".py"), ("javascript", ".js"), ("typescript", ".ts"), ("java", ".java")]

/-- Whether a name is one for files of a language; for a language without an ending, all names with
a dot are. -/
def FitsLanguage (language name : String) : Prop :=
  (∃ ending, (language, ending) ∈ endings ∧ ending.toList <:+ name.toList) ∨
    (∀ ending, (language, ending) ∉ endings) ∧ '.' ∈ name.toList

/-- A file of a workspace that is searched, with its bytes. Its path from the root of all files
holds none of the ignored names. -/
structure Searched (location : String) (root : Folder) (language file : String)
    (content : List UInt8) : Prop where
  present : Entry.at? (Text.splitOn '/' file) (.folder root) = some (.file content)
  named : ∃ front name, Text.splitOn '/' file = front ++ [name] ∧ FitsLanguage language name
  kept : ∀ ignored ∈ ignoredNames, ¬ ignored.toList <:+: (joinPath location file).toList

theorem isSearched_iff (language name : String) :
    isSearched (suffixOf? language) name = true ↔ FitsLanguage language name := by
  unfold suffixOf?
  split
  · simp [isSearched, FitsLanguage, endings]
  · simp [isSearched, FitsLanguage, endings]
  · simp [isSearched, FitsLanguage, endings]
  · simp [isSearched, FitsLanguage, endings]
  · next python javascript typescript java =>
    have unknown : ∀ ending, (language, ending) ∉ endings := by
      intro ending member
      simp only [endings, List.mem_cons, Prod.mk.injEq, List.not_mem_nil, or_false] at member
      rcases member with same | same | same | same
      · exact python same.1
      · exact javascript same.1
      · exact typescript same.1
      · exact java same.1
    simp [isSearched, FitsLanguage, unknown]

theorem isIgnored_eq_false_iff (path : String) :
    isIgnored path = false ↔ ∀ ignored ∈ ignoredNames, ¬ ignored.toList <:+: path.toList := by
  rw [isIgnored, holdsAny, List.any_eq_false]
  simp only [Text.contains, Text.occursIn_iff_infix]

theorem mem_hitsInFile (location : String) (query : CodeText) (place : List String) (e : Entry)
    (hit : LineHit) :
    hit ∈ hitsInFile location query (place, e) ↔
      hit.file = "/".intercalate place ∧ isIgnored (joinPath location hit.file) = false ∧
        ∃ content text, e = .file content ∧ textOf content = .ok text ∧
          hit.Shows query (linesOf text) := by
  unfold hitsInFile
  simp only
  constructor
  · intro found
    split at found
    · cases found
    · next searched =>
      split at found
      · cases found
      · next content =>
        split at found
        · cases found
        · next text decoded =>
          obtain ⟨file, shows⟩ := (mem_hitsIn query _ _ hit).mp found
          exact ⟨file, by simpa [file] using searched, content, text, rfl, decoded, shows⟩
  · rintro ⟨file, kept, content, text, rfl, decoded, shows⟩
    rw [file] at kept
    rw [if_neg (by simp [kept])]
    simp only [decoded]
    exact (mem_hitsIn query _ _ hit).mpr ⟨file, shows⟩

theorem ordered_hitsInFile (location : String) (query : CodeText) (found : List String × Entry) :
    (hitsInFile location query found).Pairwise fun h g => h.line < g.line := by
  unfold hitsInFile
  simp only
  split
  · exact List.Pairwise.nil
  · split
    · exact List.Pairwise.nil
    · split
      · exact List.Pairwise.nil
      · exact ordered_hitsIn query _ _

/-! ### The hits of a workspace -/

/-- A hit in a file that the walk comes to first, or on an earlier line of the same file. -/
def LineHit.Before (root : Folder) (h g : LineHit) : Prop :=
  WalkedBefore root (Text.splitOn '/' h.file) (Text.splitOn '/' g.file) ∨
    h.file = g.file ∧ h.line < g.line

theorem LineHit.Before.apart {root : Folder} {h g : LineHit} (before : h.Before root g)
    (well : root.WellFormed) : (h.file, h.line) ≠ (g.file, g.line) := by
  intro same
  obtain ⟨file, line⟩ := Prod.mk.inj same
  rcases before with walked | ⟨-, less⟩
  · exact walked.ne well (by rw [file])
  · omega

/-- All hits of a workspace, before any are cut off. -/
def allHits (location : String) (root : Folder) (query : CodeText) (language : String) :
    List LineHit :=
  (root.walk (isSearched (suffixOf? language))).flatMap (hitsInFile location query)

section Workspace

variable (location : String) (root : Folder) (query : CodeText) (language : String)
  (well : root.WellFormed)
include well

theorem ordered_allHits :
    (allHits location root query language).Pairwise (LineHit.Before root) := by
  rw [allHits, List.pairwise_flatMap]
  constructor
  · rintro ⟨place, e⟩ -
    have file : ∀ h ∈ hitsInFile location query (place, e), h.file = "/".intercalate place :=
      fun h found => ((mem_hitsInFile location query place e h).mp found).1
    refine (ordered_hitsInFile location query (place, e)).imp_of_mem fun {h g} hFound gFound less =>
      .inr ⟨?_, less⟩
    rw [file h hFound, file g gFound]
  · refine (Folder.ordered_walk _ root well).imp_of_mem ?_
    rintro ⟨place, e⟩ ⟨other, x⟩ first second before h hFound g gFound
    left
    rw [((mem_hitsInFile location query place e h).mp hFound).1,
      ((mem_hitsInFile location query other x g).mp gFound).1,
      root.splitOn_of_mem_walk _ well _ _ first, root.splitOn_of_mem_walk _ well _ _ second]
    exact before

/-- There is a hit for each line that holds the text, and for no other. -/
theorem mem_allHits (hit : LineHit) :
    hit ∈ allHits location root query language ↔
      ∃ content text, Searched location root language hit.file content ∧
        textOf content = .ok text ∧ hit.Shows query (linesOf text) := by
  rw [allHits, List.mem_flatMap]
  constructor
  · rintro ⟨⟨place, e⟩, walked, found⟩
    obtain ⟨file, kept, content, text, rfl, decoded, shows⟩ :=
      (mem_hitsInFile location query place e hit).mp found
    have parts := root.splitOn_of_mem_walk _ well _ _ walked
    obtain ⟨front, name, names, passes, lies⟩ := (Folder.mem_walk _ _ well _ _).mp walked
    rw [← file] at parts
    refine ⟨content, text, ⟨?_, ⟨front, name, ?_, ?_⟩, ?_⟩, decoded, shows⟩
    · rw [parts]
      exact lies
    · rw [parts, names]
    · exact (isSearched_iff language name).mp passes
    · exact (isIgnored_eq_false_iff _).mp kept
  · rintro ⟨content, text, searched, decoded, shows⟩
    obtain ⟨front, name, parts, fits⟩ := searched.named
    refine ⟨(Text.splitOn '/' hit.file, .file content), ?_, ?_⟩
    · refine (Folder.mem_walk _ _ well _ _).mpr ⟨front, name, parts, ?_, searched.present⟩
      exact (isSearched_iff language name).mpr fits
    · refine (mem_hitsInFile location query _ _ hit).mpr ⟨?_, ?_, content, text, rfl, decoded, shows⟩
      · rw [Text.intercalate_splitOn]
      · exact (isIgnored_eq_false_iff _).mpr searched.kept

end Workspace

/-- A search for a text returns the first fifty of the hits that it should: one for each line that
holds it, file by file as the folders list them and line by line, each with the lines around it. -/
theorem searchLines_exact (location : String) (root : Folder) (query : CodeText) (language : String)
    (well : root.WellFormed) :
    ∃ (suffix : Option String) (all : List LineHit), suffixFor (.str language) = .ok suffix ∧
      searchLines location root query suffix = all.take 50 ∧ all.Pairwise (LineHit.Before root) ∧
      (all.map fun hit => (hit.file, hit.line)).Nodup ∧
      (∀ hit, hit ∈ all ↔ ∃ content text, Searched location root language hit.file content ∧
        textOf content = .ok text ∧ hit.Shows query (linesOf text)) ∧
      (∀ hit ∈ all, hit.context[min (hit.line - 1) 2]? = some hit.preview) ∧
      ∀ text, CutInLines text (linesOf text) := by
  have ordered := ordered_allHits location root query language well
  have exactly := mem_allHits location root query language well
  have suffix : suffixFor (.str language) = .ok (suffixOf? language) := by
    rw [suffixFor, CodeText.shown_ofString]
  refine ⟨_, allHits location root query language, suffix, rfl, ordered, ?_, exactly, ?_,
    cutInLines_linesOf⟩
  · exact List.pairwise_map.mpr (ordered.imp fun before => before.apart well)
  · intro hit found
    obtain ⟨content, text, -, -, shows⟩ := (exactly hit).mp found
    exact shows.context_preview

/-- A file that is no text, one in a folder and one beside them, listed in no order of names. -/
def twoFolders : Folder :=
  [("b.py", .file [0xFF]), ("src", .folder [("c.py", .file (Text.encode "# top\n\n  X += 1"))]),
    ("a.py", .file (Text.encode "x=1\n"))]

theorem wellFormed_twoFolders : twoFolders.WellFormed := by
  have inner : Folder.WellFormed [("c.py", .file (Text.encode "# top\n\n  X += 1"))] :=
    ⟨by decide, by simp only [List.forall_mem_singleton]; decide, trivial, trivial⟩
  refine ⟨by decide, ?_, trivial, inner, trivial, trivial⟩
  simp only [twoFolders, List.forall_mem_cons]
  exact ⟨by decide, by decide, by decide, by simp⟩

theorem searchLines_exact_twoFolders :
    twoFolders.WellFormed ∧ ∃ all : List LineHit,
      searchLines "/ws" twoFolders "x" (some ".py") = all.take 50 ∧
      all.Pairwise (LineHit.Before twoFolders) ∧
      ⟨"src/c.py", 3, "X += 1", ["# top", "", "X += 1"]⟩ ∈ all ∧ ∀ hit ∈ all, hit.file ≠ "b.py" := by
  obtain ⟨suffix, all, known, first, ordered, -, exactly, -⟩ :=
    searchLines_exact "/ws" twoFolders "x" "python" wellFormed_twoFolders
  have python : some ".py" = suffix := Except.ok.inj known
  refine ⟨wellFormed_twoFolders, all, python ▸ first, ordered, ?_, ?_⟩
  · have kept := (isIgnored_eq_false_iff (joinPath "/ws" "src/c.py")).mp (by decide)
    refine (exactly _).mpr ⟨Text.encode "# top\n\n  X += 1", "# top\n\n  X += 1".toList,
      ⟨rfl, ⟨["src"], "c.py", by decide, (isSearched_iff _ _).mp (by decide)⟩, kept⟩, ?_,
      by decide, ⟨"  X += 1".toList, by decide, (lineHolds_iff _ _).mp (by decide)⟩, by decide,
      by decide⟩
    exact textOf_encode_plain _ (by decide)
  · intro hit found file
    obtain ⟨content, text, searched, decoded, -⟩ := (exactly hit).mp found
    have present := searched.present
    rw [file] at present
    have bytes : [0xFF] = content := Entry.file.inj (Option.some.inj present)
    rw [← bytes] at decoded
    cases decoded

end VoiceDebugger
