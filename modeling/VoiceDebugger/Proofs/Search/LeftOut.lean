import VoiceDebugger.Proofs.Index.Rebuild
import VoiceDebugger.Proofs.Search.Lines
import VoiceDebugger.Proofs.Symbol.Functions
import VoiceDebugger.Proofs.Text.Pieces

/-!
Which paths are left out.

The names of folders without source are looked for anywhere in a path. None of them holds a slash,
so a path is left out if one of its parts is such a name, but also if a part only has such a name
inside it. A source of the second kind is lost to both searches and to the index. The searches look
at the path from the root of all files, so the folders around a workspace count there; the index
looks at the path that it was given.
-/

namespace VoiceDebugger

open Source (Within)

/-! ### Parts of a path -/

/-- One of the parts of a path is one of some names. -/
def HasPart (names : List String) (path : String) : Prop :=
  ∃ part ∈ Text.splitOn '/' path, part ∈ names

/-- One of the parts of a path has one of some names inside it, and more than that. -/
def HoldsMore (names : List String) (path : String) : Prop :=
  ∃ part ∈ Text.splitOn '/' path, ∃ name ∈ names, name.toList <:+: part.toList ∧ name ≠ part

instance (names : List String) (path : String) : Decidable (HasPart names path) :=
  inferInstanceAs (Decidable (∃ part ∈ Text.splitOn '/' path, part ∈ names))

/-- Names without a slash are found in the parts of a path only. -/
theorem holdsAny_iff {names : List String} (solid : ∀ name ∈ names, '/' ∉ name.toList)
    (path : String) :
    holdsAny names path = true ↔ HasPart names path ∨ HoldsMore names path := by
  rw [holdsAny, List.any_eq_true]
  constructor
  · rintro ⟨name, listed, inside⟩
    rw [Text.contains, Text.occursIn_iff_infix, Text.infix_iff_part (solid name listed)] at inside
    obtain ⟨part, member, inside⟩ := inside
    by_cases same : name = part
    · exact .inl ⟨part, member, same ▸ listed⟩
    · exact .inr ⟨part, member, name, listed, inside, same⟩
  · have found : ∀ name ∈ names, ∀ part ∈ Text.splitOn '/' path, name.toList <:+: part.toList →
        ∃ name ∈ names, Text.contains path name = true := by
      intro name listed part member inside
      refine ⟨name, listed, ?_⟩
      rw [Text.contains, Text.occursIn_iff_infix, Text.infix_iff_part (solid name listed)]
      exact ⟨part, member, inside⟩
    rintro (⟨part, member, listed⟩ | ⟨part, member, name, listed, inside, -⟩)
    · exact found part listed part member (List.infix_refl _)
    · exact found name listed part member inside

theorem isIgnored_iff (path : String) :
    isIgnored path = true ↔ HasPart ignoredNames path ∨ HoldsMore ignoredNames path :=
  holdsAny_iff (by decide) path

theorem Index.ignores_iff (path : String) :
    Index.ignores path = true ↔
      HasPart (ignoredNames ++ [Index.fileName]) path ∨
        HoldsMore (ignoredNames ++ [Index.fileName]) path :=
  holdsAny_iff (by decide) path

/-- A path without a part that is left out is kept just if it has no part that holds more. -/
theorem isIgnored_eq_false_iff_of_apart {path : String} (apart : ¬ HasPart ignoredNames path) :
    isIgnored path = false ↔ ¬ HoldsMore ignoredNames path := by
  rw [← Bool.not_eq_true, isIgnored_iff, not_or, and_iff_right apart]

/-! ### Sources -/

/-- A source file of a folder, with its bytes. -/
structure IsSource (f : Folder) (file : String) (content : List UInt8) : Prop where
  named : isSourceName file = true
  lies : Entry.at? (Text.splitOn '/' file) (.folder f) = some (.file content)

/-- A source is what a walk comes across. -/
theorem IsSource.walked {f : Folder} {file : String} {content : List UInt8}
    (source : IsSource f file content) (well : f.WellFormed) :
    (Text.splitOn '/' file, .file content) ∈ f.walk isSourceName := by
  have cut : Text.splitOn '/' file ≠ [] := by simp [Text.splitOn, Text.splitAtChar_ne_nil]
  obtain ⟨front, last, parts⟩ := List.eq_nil_or_concat _ |>.resolve_left cut
  rw [List.concat_eq_append] at parts
  have path := Text.intercalate_splitOn file
  rw [parts] at path
  have named : isSourceName last = true := by
    apply isSourceName_last front last
    rw [path]
    exact source.named
  exact (Folder.mem_walk _ _ well _ _).mpr ⟨front, last, parts, named, source.lies⟩

/-- Both searches go through a file if `kept` holds, and have nothing of it otherwise. -/
structure SearchedIf (kept : Prop) (location : String) (root : Folder) (file : String)
    (content : List UInt8) : Prop where
  first : ∀ query : CodeText, searchLines location root query (some ".py") =
    (allHits location root query "python").take hitLimit
  lines : ∀ (query : CodeText) (hit : LineHit), hit.file = file →
    (hit ∈ allHits location root query "python" ↔
      kept ∧ ∃ text, textOf content = .ok text ∧ hit.Shows query (linesOf text))
  definitions : ∀ (name : String) (hit : DefinitionHit), hit.file = file →
    (hit ∈ searchDefinitions location root name ↔
      kept ∧ ∃ body s, treeOfFile content = some body ∧ Within s body ∧
        hit ∈ definitionsOf name file s)

section Searched

variable {root : Folder} {file : String} {content : List UInt8} (location : String)
  (source : IsSource root file content) (well : root.WellFormed)

include source well

theorem lines_searched (query : CodeText) (hit : LineHit) (about : hit.file = file) :
    hit ∈ allHits location root query "python" ↔
      isIgnored (joinPath location file) = false ∧
        ∃ text, textOf content = .ok text ∧ hit.Shows query (linesOf text) := by
  rw [mem_allHits location root query "python" well, about]
  constructor
  · rintro ⟨other, text, searched, decoded, shows⟩
    have same := searched.present
    rw [source.lies] at same
    obtain rfl : content = other := Entry.file.inj (Option.some.inj same)
    exact ⟨(isIgnored_eq_false_iff _).mpr searched.kept, text, decoded, shows⟩
  · rintro ⟨kept, text, decoded, shows⟩
    obtain ⟨front, last, parts, named, -⟩ :=
      (Folder.mem_walk _ _ well _ _).mp (source.walked well)
    have fits : FitsLanguage "python" last := (isSearched_iff "python" last).mp named
    exact ⟨content, text, ⟨source.lies, ⟨front, last, parts, fits⟩,
      (isIgnored_eq_false_iff _).mp kept⟩, decoded, shows⟩

theorem definitions_searched (name : String) (hit : DefinitionHit) (about : hit.file = file) :
    hit ∈ searchDefinitions location root name ↔
      isIgnored (joinPath location file) = false ∧
        ∃ body s, treeOfFile content = some body ∧ Within s body ∧
          hit ∈ definitionsOf name file s := by
  constructor
  · intro found
    obtain ⟨⟨place, e⟩, walked, defined⟩ := List.mem_flatMap.mp found
    obtain ⟨kept, other, body, s, rfl, tree, within, own⟩ :=
      (mem_definitionsInFile_iff location name place e hit).mp defined
    have path : "/".intercalate place = file := by
      rw [← file_of_mem_definitionsOf name _ s hit own]
      exact about
    have parts := root.splitOn_of_mem_walk _ well _ _ walked
    obtain ⟨-, -, -, -, lies⟩ := (Folder.mem_walk _ _ well _ _).mp walked
    rw [path] at kept own parts
    rw [← parts, source.lies] at lies
    obtain rfl : content = other := Entry.file.inj (Option.some.inj lies)
    exact ⟨kept, body, s, tree, within, own⟩
  · rintro ⟨kept, body, s, tree, within, own⟩
    refine List.mem_flatMap.mpr ⟨_, source.walked well, ?_⟩
    rw [mem_definitionsInFile_iff, Text.intercalate_splitOn]
    exact ⟨kept, content, body, s, rfl, tree, within, own⟩

theorem searchedIf_kept (apart : ¬ HasPart ignoredNames (joinPath location file)) :
    SearchedIf (¬ HoldsMore ignoredNames (joinPath location file)) location root file content := by
  rw [← isIgnored_eq_false_iff_of_apart apart]
  exact ⟨fun _ => rfl, lines_searched location source well,
    definitions_searched location source well⟩

end Searched

/-! ### The index -/

namespace Index

/-- A build that can use its table of files takes a source in if `kept` holds, unless it is known
with its present digest and nothing is forced. -/
def TakenInIf (i : Index) (kept : Prop) (root : Folder) (table : List (CodeText × Json))
    (file : String) (content : List UInt8) : Prop :=
  ∀ (now : Timestamp) (force : Bool), ∃ taken,
    Extends i table taken (i.update root now force).1 (i.update root now force).2 ∧
      ((file, content) ∈ taken ↔
        kept ∧ (force = true ∨ knows? i.files file (Digest.ofBytes content) = some false))

theorem takenInIf_kept {root : Folder} {i : Index} {table : List (CodeText × Json)} {file : String}
    {content : List UInt8} (files : i.files = .obj table)
    (source : IsSource (listFolder root i.base) file content) (well : root.WellFormed)
    (apart : ¬ HasPart (ignoredNames ++ [fileName]) (joinPath i.base file)) :
    i.TakenInIf (¬ HoldsMore (ignoredNames ++ [fileName]) (joinPath i.base file)) root table file
      content := by
  intro now force
  refine ⟨_, update_extends root now force i table files well, ?_⟩
  have walked := source.walked (listFolder_wellFormed root i.base well)
  have kept : ignores (joinPath i.base file) = false ↔
      ¬ HoldsMore (ignoredNames ++ [fileName]) (joinPath i.base file) := by
    rw [← Bool.not_eq_true, ignores_iff, not_or, and_iff_right apart]
  rw [mem_dueFiles, ← kept, files, knows?, Option.some.injEq]
  constructor
  · rintro ⟨-, -, -, isDue⟩
    simpa [due] using isDue
  · intro isDue
    refine ⟨_, walked, Text.intercalate_splitOn file, ?_⟩
    simpa [due] using isDue

end Index

/-- Whatever the path, it is left out just if one of the names is a part of it or stands inside one.
So a source without such a part on its way is searched and indexed just if none of the names stands
inside a part. For the searches the way begins at the root of all files. -/
theorem left_out_iff (root : Folder) (well : root.WellFormed) (path : String) :
    (isIgnored path = true ↔ HasPart ignoredNames path ∨ HoldsMore ignoredNames path) ∧
    (Index.ignores path = true ↔
      HasPart (ignoredNames ++ [Index.fileName]) path ∨
        HoldsMore (ignoredNames ++ [Index.fileName]) path) ∧
    (∀ (location file : String) (content : List UInt8), IsSource root file content →
      path = joinPath location file → ¬ HasPart ignoredNames path →
      SearchedIf (¬ HoldsMore ignoredNames path) location root file content) ∧
    ∀ (i : Index) (table : List (CodeText × Json)) (file : String) (content : List UInt8),
      i.files = .obj table → IsSource (listFolder root i.base) file content →
      path = joinPath i.base file → ¬ HasPart (ignoredNames ++ [Index.fileName]) path →
      i.TakenInIf (¬ HoldsMore (ignoredNames ++ [Index.fileName]) path) root table file content := by
  refine ⟨isIgnored_iff path, Index.ignores_iff path, ?_, ?_⟩
  · rintro location file content source rfl apart
    exact searchedIf_kept location source well apart
  · rintro i table file content files source rfl apart
    exact Index.takenInIf_kept files source well apart

theorem left_out_iff_twoFolders :
    let content := Text.encode "# top\n\n  X += 1"
    twoFolders.WellFormed ∧ IsSource twoFolders "src/c.py" content ∧
      ¬ HasPart ignoredNames (joinPath "/ws" "src/c.py") ∧
      ¬ HasPart (ignoredNames ++ [Index.fileName]) (joinPath "." "src/c.py") ∧
      SearchedIf True "/ws" twoFolders "src/c.py" content ∧
      (Index.empty ".").TakenInIf True twoFolders [] "src/c.py" content := by
  intro content
  have source : IsSource twoFolders "src/c.py" content := ⟨by decide, rfl⟩
  have apart : ¬ HasPart ignoredNames (joinPath "/ws" "src/c.py") := by decide
  have apart' : ¬ HasPart (ignoredNames ++ [Index.fileName]) (joinPath "." "src/c.py") := by decide
  have kept : ¬ HoldsMore ignoredNames (joinPath "/ws" "src/c.py") :=
    (isIgnored_eq_false_iff_of_apart apart).mp (by decide)
  have kept' : ¬ HoldsMore (ignoredNames ++ [Index.fileName]) (joinPath "." "src/c.py") := by
    intro more
    have left := (Index.ignores_iff _).mpr (.inr more)
    revert left
    decide
  obtain ⟨-, -, searched, -⟩ :=
    left_out_iff twoFolders wellFormed_twoFolders (joinPath "/ws" "src/c.py")
  obtain ⟨-, -, -, taken⟩ :=
    left_out_iff twoFolders wellFormed_twoFolders (joinPath "." "src/c.py")
  refine ⟨wellFormed_twoFolders, source, apart, apart', ?_, ?_⟩
  · rw [← eq_true kept]
    exact searched "/ws" "src/c.py" content source rfl apart
  · rw [← eq_true kept']
    exact taken (Index.empty ".") [] "src/c.py" content rfl source rfl apart'

/-- A script whose name has the name of a folder inside it. -/
def rebuildScript : Folder :=
  [("rebuild.py", .file (Text.encode "x=1"))]

/-- No part of its path is to be left out, but it is. -/
theorem rebuildScript_left_out :
    IsSource rebuildScript "rebuild.py" (Text.encode "x=1") ∧
      ¬ HasPart (ignoredNames ++ [Index.fileName]) "rebuild.py" ∧
      ¬ HasPart ignoredNames "/ws/rebuild.py" ∧
      isIgnored "rebuild.py" = true ∧ Index.ignores "rebuild.py" = true ∧
      searchLines "/ws" rebuildScript "x" (some ".py") = [] ∧
      searchDefinitions "/ws" rebuildScript "x" = [] ∧
      ((Index.empty ".").update rebuildScript Index.someDay false).1 = { filesSkipped := 1 } := by
  exact ⟨⟨by decide, rfl⟩, by decide, by decide, by decide, by decide, rfl, rfl, rfl⟩

end VoiceDebugger
