import VoiceDebugger.Proofs.Index.Consistent

/-!
The source files that a build looks at.

Which files these are is said by paths alone: what a walk finds is what such a path reads. Saving an
index changes none of them.
-/

namespace VoiceDebugger

/-! ### Paths of names -/

theorem Text.mem_splitAtChar (sep c : Char) (cs : List Char) (differ : c ≠ sep) (member : c ∈ cs) :
    ∃ piece ∈ Text.splitAtChar sep cs, c ∈ piece := by
  induction cs with
  | nil => cases member
  | cons d rest ih =>
    rw [Text.splitAtChar]
    split
    · rename_i same
      rcases List.mem_cons.mp member with rfl | later
      · exact absurd (beq_iff_eq.mp same) differ
      · obtain ⟨piece, inside, holds⟩ := ih later
        exact ⟨piece, List.mem_cons_of_mem _ inside, holds⟩
    · obtain ⟨first, others, cut⟩ := List.exists_cons_of_ne_nil (Text.splitAtChar_ne_nil sep rest)
      rw [cut] at ih ⊢
      rcases List.mem_cons.mp member with rfl | later
      · exact ⟨c :: first, List.mem_cons_self, List.mem_cons_self⟩
      · obtain ⟨piece, inside, holds⟩ := ih later
        rcases List.mem_cons.mp inside with rfl | other
        · exact ⟨d :: piece, List.mem_cons_self, List.mem_cons_of_mem _ holds⟩
        · exact ⟨piece, List.mem_cons_of_mem _ other, holds⟩

theorem isRelative_of_names (path : String) (named : ∀ n ∈ Text.splitOn '/' path, IsName n) :
    isRelative path = true := by
  have pieces : ∀ piece ∈ Text.splitAtChar '/' path.toList, IsName (String.ofList piece) :=
    fun piece member => named _ (List.mem_map_of_mem member)
  rw [isRelative_iff]
  refine ⟨fun null => ?_, fun empty => ?_, fun slash => ?_⟩
  · obtain ⟨piece, member, holds⟩ := Text.mem_splitAtChar '/' '\x00' _ (by decide) null
    exact (pieces piece member).text (by simpa using holds)
  · rw [empty] at pieces
    exact (pieces [] (by simp [Text.splitAtChar])).nonempty rfl
  · obtain ⟨rest, letters⟩ : ∃ rest, path.toList = '/' :: rest := by
      cases letters : path.toList with
      | nil =>
        rw [letters] at slash
        cases slash
      | cons c rest =>
        rw [letters] at slash
        cases slash
        exact ⟨rest, rfl⟩
    rw [letters] at pieces
    exact (pieces [] (by simp [Text.splitAtChar])).nonempty rfl

theorem isSourceName_last (front : List String) (name : String)
    (source : isSourceName ("/".intercalate (front ++ [name])) = true) :
    isSourceName name = true := by
  rw [isSourceName, List.isSuffixOf_iff_suffix] at source ⊢
  by_cases alone : front = []
  · rw [alone, List.nil_append, String.intercalate_singleton] at source
    exact source
  · rw [String.intercalate_append_of_ne_nil alone (by simp), String.intercalate_singleton,
      String.toList_append, String.toList_append, List.append_assoc] at source
    have slash :
        ('/' :: name.toList) <:+ ("/".intercalate front).toList ++ ("/".toList ++ name.toList) :=
      List.suffix_append _ _
    rcases List.suffix_or_suffix_of_suffix source slash with inside | outside
    · rcases List.suffix_cons_iff.mp inside with whole | inner
      · cases whole
      · exact inner
    · exact absurd (outside.subset List.mem_cons_self) (by decide)

namespace Index

/-- The content of a source file of a workspace, given by its path from there: one that is written
as names, can be read and is not left out. -/
def sourceAt? (root : Folder) (base file : String) : Option (List UInt8) :=
  if (∀ n ∈ Text.splitOn '/' file, IsName n) ∧ isSourceName file = true ∧
      ignores (joinPath base file) = false then
    (readBytes root (joinPath base file)).toOption
  else none

theorem readBytes_ok_iff (root : Folder) (path : String) (c : List UInt8) :
    (readBytes root path).toOption = some c ↔ resolve root path = .ok (.file c) := by
  rw [readBytes]
  cases resolve root path with
  | error fault => simp [Except.toOption]
  | ok e => cases e <;> simp [Except.toOption]

/-- The content of a source file is what lies at its place. -/
theorem sourceAt?_eq_some (root : Folder) (base file : String) (c : List UInt8) :
    sourceAt? root base file = some c ↔
      ((∀ n ∈ Text.splitOn '/' file, IsName n) ∧ isSourceName file = true ∧
        ignores (joinPath base file) = false) ∧
      Entry.at? (Text.splitOn '/' file) (.folder (listFolder root base)) = some (.file c) := by
  rw [sourceAt?]
  split
  · rename_i source
    rw [readBytes_ok_iff,
      resolve_joinPath root base file _ (isRelative_of_names file source.1) source.1]
    exact ⟨fun lies => ⟨source, lies⟩, fun both => both.2⟩
  · rename_i other
    simp only [reduceCtorEq, false_iff, not_and]
    exact fun source => absurd source other

/-- The sources are the files that a walk finds and that are not left out. -/
theorem sourceAt?_iff_mem_walk (root : Folder) (base file : String) (c : List UInt8)
    (well : (listFolder root base).WellFormed) :
    sourceAt? root base file = some c ↔
      ∃ place, (place, .file c) ∈ (listFolder root base).walk isSourceName ∧
        "/".intercalate place = file ∧ ignores (joinPath base file) = false := by
  rw [sourceAt?_eq_some]
  constructor
  · rintro ⟨⟨named, source, kept⟩, lies⟩
    refine ⟨Text.splitOn '/' file, ?_, Text.intercalate_splitOn file, kept⟩
    rw [Folder.mem_walk isSourceName _ well]
    have cut : Text.splitOn '/' file ≠ [] := by simp [Text.splitOn, Text.splitAtChar_ne_nil]
    obtain ⟨front, name, parts⟩ := List.eq_nil_or_concat _ |>.resolve_left cut
    refine ⟨front, name, by simpa using parts, isSourceName_last front name ?_, lies⟩
    rw [← List.concat_eq_append, ← parts, Text.intercalate_splitOn]
    exact source
  · rintro ⟨place, found, rfl, kept⟩
    obtain ⟨front, name, rfl, passes, lies⟩ := (Folder.mem_walk isSourceName _ well _ _).mp found
    have named := Entry.wellFormed_at? _ _ _ well lies
    have cut := Text.splitOn_intercalate (front ++ [name]) (by simp) named
    rw [cut]
    exact ⟨⟨named, isSourceName_intercalate front name passes, kept⟩, lies⟩

/-! ### Saving leaves the sources alone -/

/-- What a save does to the folder that is indexed. -/
theorem listFolder_save (root : Folder) (i : Index) :
    i.save root = root ∨
      (∀ g, (listFolder root i.base).find? fileName ≠ some (.folder g)) ∧
        listFolder (i.save root) i.base =
          (listFolder root i.base).set fileName (.file i.savedBytes) := by
  rw [save]
  cases written : writeFile root i.savedAt i.savedBytes with
  | error fault => exact .inl rfl
  | ok root' =>
    obtain ⟨f, writable, rfl⟩ := writeFile_ok root root' i.base fileName _ isName_fileName written
    obtain ⟨before, after⟩ := resolve_put root f i.base fileName i.savedBytes writable
    refine .inr ⟨?_, ?_⟩
    · rw [listFolder, before]
      exact writable.free
    · rw [listFolder, after, listFolder, before]

theorem wellFormed_save (root : Folder) (i : Index) (well : (listFolder root i.base).WellFormed) :
    (listFolder (i.save root) i.base).WellFormed := by
  rcases listFolder_save root i with same | ⟨-, after⟩
  · rw [same]
    exact well
  · rw [after]
    exact Folder.wellFormed_set fileName _ _ well isName_fileName trivial

/-- A save changes nothing at the place of a source. -/
theorem at?_save (root : Folder) (i : Index) (place : List String)
    (source : isSourceName ("/".intercalate place) = true) :
    Entry.at? place (.folder (listFolder (i.save root) i.base)) =
      Entry.at? place (.folder (listFolder root i.base)) := by
  rcases listFolder_save root i with same | ⟨free, after⟩
  · rw [same]
  rw [after]
  cases place with
  | nil => exact absurd source (by decide)
  | cons first rest =>
    rw [Entry.at?, Entry.at?]
    by_cases own : first = fileName
    · -- The saved file is no source, and nothing lies below it.
      subst own
      cases rest with
      | nil =>
        rw [String.intercalate_singleton] at source
        exact absurd source (by decide)
      | cons next more =>
        rw [Folder.find?_set]
        cases entry : (listFolder root i.base).find? fileName with
        | none => simp [Entry.at?]
        | some e =>
          cases e with
          | file old => simp [Entry.at?]
          | folder g => exact absurd entry (free g)
    · rw [Folder.find?_set_other fileName first _ _ own]

/-- A save changes no source. -/
theorem sourceAt?_save (root : Folder) (i : Index) (file : String) :
    sourceAt? (i.save root) i.base file = sourceAt? root i.base file := by
  refine Option.ext fun c => ?_
  rw [sourceAt?_eq_some, sourceAt?_eq_some]
  refine and_congr_right fun ⟨_, source, _⟩ => ?_
  rw [at?_save root i _ (by rw [Text.intercalate_splitOn]; exact source)]

end Index

end VoiceDebugger
