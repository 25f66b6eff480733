import VoiceDebugger.Proofs.Index.Growth

/-!
Building an index a second time, while its sources stay as they are.

A first build leaves no file that is due: each one is left out, or known by the digest of its
content. So a second one that is not forced finds nothing to do, and saves what the first one saved.
-/

namespace VoiceDebugger

/-- The content of a file; a folder has none. -/
def Entry.content? : Entry → Option (List UInt8)
  | .file content => some content
  | .folder _ => none

namespace Index

/-! ### Sources that stay as they are -/

/-- What a path leads to, if to anything: a file with a content, or a folder. -/
def lying? (root : Folder) (path : String) : Option (Option (List UInt8)) :=
  (resolve root path).toOption.map Entry.content?

/-- Two workspaces in which the paths of sources lead to the same. -/
def SameSources (base : String) (root other : Folder) : Prop :=
  ∀ file : String, (∀ n ∈ Text.splitOn '/' file, IsName n) → isSourceName file = true →
    lying? other (joinPath base file) = lying? root (joinPath base file)

theorem SameSources.trans {base : String} {first second third : Folder}
    (one : SameSources base first second) (two : SameSources base second third) :
    SameSources base first third :=
  fun file named source => (two file named source).trans (one file named source)

theorem SameSources.symm {base : String} {root other : Folder} (same : SameSources base root other) :
    SameSources base other root :=
  fun file named source => (same file named source).symm

/-- What a path of names leads to lies at its place. -/
theorem lying?_eq (root : Folder) (base file : String)
    (named : ∀ n ∈ Text.splitOn '/' file, IsName n) :
    lying? root (joinPath base file) =
      (Entry.at? (Text.splitOn '/' file) (.folder (listFolder root base))).map Entry.content? := by
  have found := fun x =>
    resolve_joinPath root base file x (isRelative_of_names file named) named
  rw [lying?]
  congr 1
  refine Option.ext fun x => ?_
  rw [← found x]
  cases resolve root (joinPath base file) with
  | error fault => simp [Except.toOption]
  | ok e => simp [Except.toOption]

theorem sameSources_save (root : Folder) (i : Index) : SameSources i.base root (i.save root) := by
  intro file named source
  rw [lying?_eq _ _ _ named, lying?_eq _ _ _ named, at?_save root i]
  rw [Text.intercalate_splitOn]
  exact source

/-- What a walk shows of an entry: its path, and the content if it is a file. -/
def sight (e : List String × Entry) : String × Option (List UInt8) :=
  ("/".intercalate e.1, e.2.content?)

/-- A walk shows the paths of sources that lead anywhere, with what they lead to. -/
theorem mem_sights (root : Folder) (base : String) (well : (listFolder root base).WellFormed)
    (file : String) (shown : Option (List UInt8)) :
    (file, shown) ∈ ((listFolder root base).walk isSourceName).map sight ↔
      ((∀ n ∈ Text.splitOn '/' file, IsName n) ∧ isSourceName file = true) ∧
        lying? root (joinPath base file) = some shown := by
  constructor
  · intro member
    obtain ⟨⟨place, e⟩, found, same⟩ := List.mem_map.mp member
    obtain ⟨rfl, rfl⟩ := Prod.mk.inj same
    obtain ⟨front, name, rfl, passes, lies⟩ := (Folder.mem_walk isSourceName _ well _ _).mp found
    have named := Entry.wellFormed_at? _ _ _ well lies
    have cut := Text.splitOn_intercalate (front ++ [name]) (by simp) named
    rw [← cut] at named lies
    refine ⟨⟨named, isSourceName_intercalate front name passes⟩, ?_⟩
    rw [lying?_eq _ _ _ named, lies]
    rfl
  · rintro ⟨⟨named, source⟩, lies⟩
    rw [lying?_eq _ _ _ named, Option.map_eq_some_iff] at lies
    obtain ⟨e, lies, rfl⟩ := lies
    refine List.mem_map.mpr ⟨(Text.splitOn '/' file, e), ?_, ?_⟩
    · have cut : Text.splitOn '/' file ≠ [] := by simp [Text.splitOn, Text.splitAtChar_ne_nil]
      obtain ⟨front, name, parts⟩ := List.eq_nil_or_concat _ |>.resolve_left cut
      rw [Folder.mem_walk isSourceName _ well]
      refine ⟨front, name, by simpa using parts, isSourceName_last front name ?_, lies⟩
      rw [← List.concat_eq_append, ← parts, Text.intercalate_splitOn]
      exact source
    · rw [sight, Text.intercalate_splitOn]

theorem nodup_sights (f : Folder) (well : f.WellFormed) :
    ((f.walk isSourceName).map sight).Nodup := by
  refine List.Nodup.of_map Prod.fst ?_
  rw [List.map_map]
  exact nodup_walked f well

/-- Walks of workspaces with the same sources show the same. -/
theorem sights_perm (root other : Folder) (base : String) (well : (listFolder root base).WellFormed)
    (well' : (listFolder other base).WellFormed) (same : SameSources base root other) :
    (((listFolder other base).walk isSourceName).map sight).Perm
      (((listFolder root base).walk isSourceName).map sight) := by
  refine (List.perm_ext_iff_of_nodup (nodup_sights _ well') (nodup_sights _ well)).mpr ?_
  rintro ⟨file, shown⟩
  rw [mem_sights other base well', mem_sights root base well]
  refine and_congr_right fun ⟨named, source⟩ => ?_
  rw [same file named source]

theorem countP_blocks (base : String) (found : List (List String × Entry)) :
    found.countP (blocks base) =
      (found.map sight).countP fun shown => shown.2.isNone && !ignores (joinPath base shown.1) := by
  rw [List.countP_map]
  refine List.countP_congr fun e _ => ?_
  obtain ⟨place, entry⟩ := e
  cases entry <;> simp [blocks, sight, Entry.content?]

/-! ### Nothing is due again -/

theorem mem_dueFiles (force : Bool) (i : Index) (table : List (CodeText × Json))
    (found : List (List String × Entry)) (file : String) (content : List UInt8) :
    (file, content) ∈ dueFiles force i table found ↔
      ∃ place, (place, .file content) ∈ found ∧ "/".intercalate place = file ∧
        due force i table file content = true := by
  rw [dueFiles, List.mem_filterMap]
  constructor
  · rintro ⟨⟨place, entry⟩, member, taken⟩
    cases entry with
    | folder f => cases taken
    | file c =>
      dsimp only at taken
      split at taken
      · rename_i isDue
        cases taken
        exact ⟨place, member, rfl, isDue⟩
      · cases taken
  · rintro ⟨place, member, rfl, isDue⟩
    exact ⟨(place, .file content), member, by simp only [isDue, ↓reduceIte]⟩

/-- A file that a build has come across is not due behind it. -/
theorem not_due_again (force : Bool) (i j : Index) (table : List (CodeText × Json))
    (found : List (List String × Entry)) (base : j.base = i.base)
    (distinct : (found.map fun e => "/".intercalate e.1).Nodup) (place : List String)
    (content : List UInt8) (member : (place, .file content) ∈ found) :
    due false j (noteAll table (dueFiles force i table found)) ("/".intercalate place) content =
      false := by
  cases isDue : due force i table ("/".intercalate place) content with
  | true =>
    have taken := (mem_dueFiles force i table found _ content).mpr ⟨place, member, rfl, isDue⟩
    have paths := (dueFiles_sublist force i table found).nodup distinct
    rw [due, field?_noteAll table _ paths _ taken]
    simp [Json.same]
  | false =>
    -- No other file has this path, so the table says of it what it said before.
    have untouched : Json.field? ("/".intercalate place : String)
        (noteAll table (dueFiles force i table found)) =
          Json.field? ("/".intercalate place : String) table := by
      refine field?_noteAll_other _ _ _ fun f inside same => ?_
      rw [CodeText.ofString_inj] at same
      obtain ⟨other, member', named, isDue'⟩ := (mem_dueFiles force i table found _ _).mp inside
      have one := List.inj_on_of_nodup_map distinct member' member (named.trans same)
      obtain ⟨-, equal⟩ := Prod.mk.inj one
      rw [Entry.file.inj equal, same, isDue] at isDue'
      cases isDue'
    rw [due] at isDue ⊢
    rw [untouched, base]
    cases force with
    | false => exact isDue
    | true =>
      rw [Bool.true_or, Bool.and_true] at isDue
      rw [isDue, Bool.false_and]

theorem dueFiles_again (force : Bool) (i j : Index) (table : List (CodeText × Json))
    (found later : List (List String × Entry)) (base : j.base = i.base)
    (distinct : (found.map fun e => "/".intercalate e.1).Nodup)
    (same : (later.map sight).Perm (found.map sight)) :
    dueFiles false j (noteAll table (dueFiles force i table found)) later = [] := by
  refine List.eq_nil_iff_forall_not_mem.mpr fun f taken => ?_
  obtain ⟨place, member, named, isDue⟩ := (mem_dueFiles _ _ _ _ _ _).mp taken
  have shown : (f.1, some f.2) ∈ later.map sight :=
    List.mem_map.mpr ⟨_, member, by rw [← named]; rfl⟩
  obtain ⟨⟨other, entry⟩, before, equal⟩ := List.mem_map.mp (same.mem_iff.mp shown)
  obtain ⟨path, content⟩ := Prod.mk.inj equal
  cases entry with
  | folder g => cases content
  | file c =>
    obtain rfl : c = f.2 := Option.some.inj content
    have again := not_due_again force i j table found base distinct other _ before
    dsimp only at path
    rw [path, isDue] at again
    cases again

/-! ### Building twice -/

/-- The text of a saved index that was built at a time. -/
def savedText (now : Timestamp) (files symbols : Json) : List UInt8 :=
  Text.encode ((Json.obj [("last_indexed", .str now.text), ("files", files),
    ("symbols", symbols)]).indented 2 0)

/-- The records by name, as they are saved. -/
def savedSymbols (i : Index) : Json :=
  .obj (i.symbols.map fun (name, records) => (name, .arr (records.map Record.toJson)))

theorem savedBytes_eq (i : Index) (now : Timestamp) (time : i.builtAt = some now) :
    i.savedBytes = savedText now i.files i.savedSymbols := by
  rw [savedBytes, toJson, time]
  rfl

/-- Write a saved text; a place that cannot be written to is left as it is. -/
theorem save_eq (root : Folder) (i : Index) :
    i.save root = (writeFile root i.savedAt i.savedBytes).toOption.getD root := by
  rw [save]
  cases writeFile root i.savedAt i.savedBytes <;> rfl

/-- What a build of an index with a table of files comes to. -/
theorem build_takesIn (root : Folder) (now : Timestamp) (force : Bool) (i : Index)
    (table : List (CodeText × Json)) (files : i.files = .obj table)
    (well : (listFolder root i.base).WellFormed) :
    TakesIn ({}, { i with builtAt := some now })
      ((i.build root now force).1, (i.build root now force).2.1) table
      (dueFiles force i table (i.walk root)) ((i.walk root).countP (blocks i.base)) := by
  have takes := foldl_visit_takesIn force (i.walk root) {} i table files (nodup_walked _ well)
  rw [build_eq, update_fst, update_snd]
  generalize (i.walk root).foldl (visit force) ({}, i) = walked at takes
  refine ⟨?_, takes.indexed, takes.found, takes.errors⟩
  dsimp only
  rw [takes.index]

/-- A second build that is not forced, with the sources as the first one left them, takes nothing
in, fails where the first one failed and changes neither the records nor the table of files. What it
saves differs from what the first one saved in the time alone. -/
theorem rebuild_settled (root root' : Folder) (now now' : Timestamp) (force : Bool) (i : Index)
    (table : List (CodeText × Json)) (files : i.files = .obj table) (well : root.WellFormed)
    (well' : root'.WellFormed)
    (unchanged : SameSources i.base (i.build root now force).2.2 root') :
    let first := i.build root now force
    let second := first.2.1.build root' now' false
    second.1.filesIndexed = 0 ∧ second.1.symbolsFound = 0 ∧ second.1.errors = first.1.errors ∧
      second.2.1.files = first.2.1.files ∧ second.2.1.symbols = first.2.1.symbols ∧
      ∃ files symbols,
        first.2.2 = (writeFile root i.savedAt (savedText now files symbols)).toOption.getD root ∧
        second.2.2 =
          (writeFile root' i.savedAt (savedText now' files symbols)).toOption.getD root' := by
  intro first second
  have listed := listFolder_wellFormed root i.base well
  have listed' := listFolder_wellFormed root' i.base well'
  obtain ⟨index, -, -, errors⟩ :
      TakesIn ({}, { i with builtAt := some now }) (first.1, first.2.1) table _ _ :=
    build_takesIn root now force i table files listed
  have saved : first.2.2 = first.2.1.save root := by simp only [first, build_eq]
  have left : SameSources i.base first.2.2 root' := unchanged
  clear_value first
  dsimp only at index errors
  have base : first.2.1.base = i.base := by rw [index]
  have noted : first.2.1.files = .obj (noteAll table (dueFiles force i table (i.walk root))) := by
    rw [index]
  have time : first.2.1.builtAt = some now := by rw [index]
  -- Neither the first build nor what came behind it changed a source, so the walks show the same.
  have same : ((first.2.1.walk root').map sight).Perm ((i.walk root).map sight) := by
    rw [walk, walk, base]
    refine sights_perm root root' i.base listed listed' (SameSources.trans ?_ left)
    rw [saved, ← base]
    exact sameSources_save root first.2.1
  have nothing := dueFiles_again force i first.2.1 table (i.walk root) _ base
    (nodup_walked _ listed) same
  rw [← base] at listed'
  obtain ⟨index', indexed', found', errors'⟩ :
      TakesIn ({}, { first.2.1 with builtAt := some now' }) (second.1, second.2.1) _ _ _ :=
    build_takesIn root' now' false first.2.1 _ noted listed'
  have saved' : second.2.2 = second.2.1.save root' := by simp only [second, build_eq]
  clear_value second
  rw [nothing] at index' indexed' found'
  dsimp only at index' indexed' found' errors'
  have files' : second.2.1.files = first.2.1.files := by rw [index', noted]; rfl
  have symbols' : second.2.1.symbols = first.2.1.symbols := by rw [index']; rfl
  have base' : second.2.1.base = i.base := by rw [index']; exact base
  have time' : second.2.1.builtAt = some now' := by rw [index']
  refine ⟨indexed', found', ?_, files', symbols', first.2.1.files, first.2.1.savedSymbols, ?_, ?_⟩
  · rw [errors', errors, countP_blocks, countP_blocks, base, same.countP_eq]
  · rw [saved, save_eq, savedBytes_eq _ now time, savedAt, base, ← savedAt]
  · rw [saved', save_eq, savedBytes_eq _ now' time', savedAt, base', ← savedAt, files',
      savedSymbols, savedSymbols, symbols']

theorem rebuild_settled_oneVariable :
    (Index.empty ".").files = .obj [] ∧ oneVariable.WellFormed ∧
      SameSources "." ((Index.empty ".").build oneVariable someDay true).2.2 oneVariable ∧
      (let first := (Index.empty ".").build oneVariable someDay true
      let second := first.2.1.build oneVariable someDay false
      second.1.filesIndexed = 0 ∧ second.1.symbolsFound = 0 ∧ second.1.errors = first.1.errors ∧
        second.2.1.files = first.2.1.files ∧ second.2.1.symbols = first.2.1.symbols ∧
        ∃ files symbols,
          first.2.2 = (writeFile oneVariable (Index.empty ".").savedAt
            (savedText someDay files symbols)).toOption.getD oneVariable ∧
          second.2.2 = (writeFile oneVariable (Index.empty ".").savedAt
            (savedText someDay files symbols)).toOption.getD oneVariable) := by
  have unchanged : SameSources "." ((Index.empty ".").build oneVariable someDay true).2.2
      oneVariable := by
    obtain ⟨base, -⟩ := update_consistent oneVariable someDay true (Index.empty ".")
      ⟨by decide, by decide, rfl⟩ (consistent_empty ".")
    rw [build_eq]
    dsimp only
    have saved := sameSources_save oneVariable
      ((Index.empty ".").update oneVariable someDay true).2
    rw [base] at saved
    exact saved.symm
  exact ⟨rfl, wellFormed_oneVariable, unchanged, rebuild_settled oneVariable oneVariable someDay
    someDay true (Index.empty ".") [] rfl wellFormed_oneVariable wellFormed_oneVariable unchanged⟩

end Index

end VoiceDebugger
