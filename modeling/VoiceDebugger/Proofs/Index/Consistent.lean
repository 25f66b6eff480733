import VoiceDebugger.Proofs.Index.Records
import VoiceDebugger.Proofs.Index.Saved
import VoiceDebugger.Proofs.Workspace.Walk

/-!
The two tables of an index belong together, whatever is built, saved, loaded and changed in between.

A load replaces both tables by what was saved. That is harmless as what is saved is always the form
of an index that is consistent itself, and as it is either read back exactly or not at all.
-/

namespace VoiceDebugger

/-! ### Paths that an index keeps -/

theorem Text.occursIn_append (needle front back : List Char)
    (found : Text.occursIn needle back = true) : Text.occursIn needle (front ++ back) = true := by
  induction front with
  | nil => exact found
  | cons c rest ih =>
    rw [List.cons_append, Text.occursIn, ih, Bool.or_true]

theorem Text.contains_joinPath (base path needle : String)
    (found : Text.contains path needle = true) :
    Text.contains (joinPath base path) needle = true := by
  rw [joinPath]
  split
  · exact found
  · split
    · rw [Text.contains, String.toList_append]
      exact Text.occursIn_append _ _ _ found
    · rw [Text.contains, String.toList_append]
      exact Text.occursIn_append _ _ _ found

theorem isSourceName_intercalate (front : List String) (name : String)
    (source : isSourceName name = true) :
    isSourceName ("/".intercalate (front ++ [name])) = true := by
  rw [isSourceName, List.isSuffixOf_iff_suffix] at source ⊢
  by_cases alone : front = []
  · rw [alone, List.nil_append, String.intercalate_singleton]
    exact source
  · rw [String.intercalate_append_of_ne_nil alone (by simp), String.intercalate_singleton,
      String.toList_append]
    exact source.trans (List.suffix_append _ _)

/-- A path of a source file that holds none of the names that are left out. -/
def IsKept (path : String) : Prop :=
  isSourceName path = true ∧
    ∀ name ∈ ignoredNames ++ [Index.fileName], Text.contains path name = false

theorem isKept_of_found (base : String) (front : List String) (name : String)
    (source : isSourceName name = true)
    (kept : Index.ignores (joinPath base ("/".intercalate (front ++ [name]))) = false) :
    IsKept ("/".intercalate (front ++ [name])) := by
  refine ⟨isSourceName_intercalate front name source, fun left member => ?_⟩
  rw [Index.ignores, holdsAny, List.any_eq_false] at kept
  apply Bool.eq_false_iff.mpr
  intro holds
  exact kept left member (Text.contains_joinPath base _ left holds)

theorem Symbol.typed_record (s : Symbol) : s.record.Typed where
  name := CodeText.unpaired_ofString s.name
  kind := CodeText.unpaired_ofString s.kind.word
  file := CodeText.unpaired_ofString s.file
  line := trivial
  column := trivial
  endLine := by
    cases h : s.endLine with
    | none => exact .inr (by rw [Symbol.record, h]; rfl)
    | some n => exact .inl (by rw [Symbol.record, h]; trivial)
  scope := .inr rfl
  language := CodeText.unpaired_ofString "python"
  signature := by
    cases h : s.signature with
    | none => exact .inr (by rw [Symbol.record, h]; rfl)
    | some t => exact .inl (by rw [Symbol.record, h]; exact CodeText.unpaired_ofString t)
  documentation := by
    cases h : s.documentation with
    | none => exact .inr (by rw [Symbol.record, h]; rfl)
    | some t => exact .inl (by rw [Symbol.record, h]; exact CodeText.unpaired_ofString t)

namespace Index

/-! ### Consistent indexes -/

/-- Records by name: the names differ, each has a record, and its records have that name. -/
structure Grouped (groups : List (CodeText × List Record)) : Prop where
  distinct : (groups.map Prod.fst).Nodup
  named : ∀ g ∈ groups, g.2 ≠ [] ∧ ∀ r ∈ g.2, r.name = .str g.1

/-- A table of files that are kept, with a text for each. -/
structure Tabled (table : List (CodeText × Json)) : Prop where
  distinct : (table.map Prod.fst).Nodup
  kept : ∀ f ∈ table, IsText f.2 ∧ ∃ path : String, f.1 = path ∧ IsKept path

/-- An index whose records are those of symbols, grouped by name, of files that it knows. -/
structure Consistent (i : Index) : Prop where
  grouped : Grouped i.symbols
  files : ∃ table, i.files = .obj table ∧ Tabled table ∧
    ∀ r ∈ i.records, ∃ f ∈ table, r.file = .str f.1
  made : ∀ r ∈ i.records, ∃ s : Symbol, r = s.record
  time : ∀ t ∈ i.builtAt, t.IsLocal

theorem Consistent.typed {i : Index} (consistent : i.Consistent) : i.Typed where
  files := by
    obtain ⟨table, files, tabled, -⟩ := consistent.files
    refine ⟨table, files, tabled.distinct, fun f member => ?_⟩
    obtain ⟨text, path, key, -⟩ := tabled.kept f member
    exact ⟨key ▸ CodeText.unpaired_ofString path, text⟩
  names := consistent.grouped.distinct
  unpaired := by
    intro g member
    obtain ⟨some_, named⟩ := consistent.grouped.named g member
    obtain ⟨r, rest, records⟩ := List.exists_cons_of_ne_nil some_
    have inside : r ∈ g.2 := by simp [records]
    obtain ⟨s, rfl⟩ := consistent.made r ((i.mem_records r).mpr ⟨g, member, inside⟩)
    have name := named _ inside
    rw [Symbol.record, Json.str.injEq] at name
    exact name ▸ CodeText.unpaired_ofString s.name
  records := by
    intro r member
    obtain ⟨s, rfl⟩ := consistent.made r member
    exact s.typed_record
  time := consistent.time

theorem consistent_empty (p : String) : (Index.empty p).Consistent where
  grouped := ⟨List.nodup_nil, by simp [Index.empty]⟩
  files := ⟨[], rfl, ⟨List.nodup_nil, by simp⟩, by simp [Index.empty, records]⟩
  made := by simp [Index.empty, records]
  time := by simp [Index.empty]

/-! ### Looking at a file -/

theorem Grouped.add {groups : List (CodeText × List Record)} (grouped : Grouped groups)
    (s : Symbol) : Grouped (addUnder s.name s.record groups) where
  distinct := by
    rw [names_addUnder]
    exact nodup_grown _ _ grouped.distinct
  named := by
    have named := grouped.named
    clear grouped
    induction groups with
    | nil => simp [addUnder, Symbol.record]
    | cons g rest ih =>
      rw [List.forall_mem_cons] at named
      rw [addUnder]
      split
      · rename_i same
        rw [List.forall_mem_cons]
        refine ⟨⟨by simp, fun r member => ?_⟩, named.2⟩
        rcases List.mem_append.mp member with old | new
        · exact named.1.2 r old
        · rw [List.mem_singleton.mp new, beq_iff_eq.mp same]
          rfl
      · rw [List.forall_mem_cons]
        exact ⟨named.1, ih named.2⟩

theorem Grouped.addAll {groups : List (CodeText × List Record)} (grouped : Grouped groups)
    (new : List Symbol) :
    Grouped (new.foldl (fun groups s => addUnder s.name s.record groups) groups) := by
  induction new generalizing groups with
  | nil => exact grouped
  | cons s rest ih => exact ih (grouped.add s)

theorem Tabled.note {table : List (CodeText × Json)} (tabled : Tabled table) (path digest : String)
    (kept : IsKept path) : Tabled (Json.setField path (.str digest) table) where
  distinct := by
    rw [Json.names_setField]
    exact nodup_grown _ _ tabled.distinct
  kept := by
    intro f member
    rcases Json.mem_setField _ _ table f member with rfl | old
    · exact ⟨CodeText.unpaired_ofString digest, path, rfl, kept⟩
    · exact tabled.kept f old

theorem Consistent.take {i : Index} (consistent : i.Consistent) (table : List (CodeText × Json))
    (files : i.files = .obj table) (file : String) (content : List UInt8) (kept : IsKept file) :
    (i.indexed table file content).Consistent := by
  obtain ⟨table', files', tabled, filed⟩ := consistent.files
  rw [files, Json.obj.injEq] at files'
  subst files'
  have names := Json.names_setField file (.str (Digest.ofBytes content)) table
  have found : ∀ r ∈ (i.indexed table file content).records,
      r ∈ i.records ∨ ∃ s ∈ fileSymbols file content, r = s.record := by
    intro r member
    rcases List.mem_append.mp ((records_indexed i table file content).mem_iff.mp member) with
      old | new
    · exact .inl old
    · obtain ⟨s, inside, rfl⟩ := List.mem_map.mp new
      exact .inr ⟨s, inside, rfl⟩
  refine ⟨?_, ⟨_, rfl, tabled.note file _ kept, fun r member => ?_⟩, fun r member => ?_, ?_⟩
  · rw [indexed, foldl_add]
    exact consistent.grouped.addAll _
  · -- The key of an old record stays; that of a new one was set.
    have key : ∀ name ∈ (Json.setField file (.str (Digest.ofBytes content)) table).map Prod.fst,
        r.file = .str name →
        ∃ f ∈ Json.setField file (.str (Digest.ofBytes content)) table, r.file = .str f.1 := by
      intro name present same
      obtain ⟨f, member, rfl⟩ := List.mem_map.mp present
      exact ⟨f, member, same⟩
    rcases found r member with old | ⟨s, inside, rfl⟩
    · obtain ⟨f, present, same⟩ := filed r old
      refine key f.1 ?_ same
      rw [names]
      split
      · exact List.mem_map_of_mem present
      · exact List.mem_append_left _ (List.mem_map_of_mem present)
    · refine key file ?_ (by rw [Symbol.record, fileSymbols_file file content s inside])
      rw [names]
      split
      · assumption
      · simp
  · rcases found r member with old | ⟨s, -, rfl⟩
    · exact consistent.made r old
    · exact ⟨s, rfl⟩
  · rw [indexed, foldl_add]
    exact consistent.time

/-- One file of a walk keeps an index consistent. -/
theorem visit_consistent (force : Bool) (stats : BuildStats) (i : Index) (place : List String)
    (e : Entry) (consistent : i.Consistent)
    (source : ∃ front name, place = front ++ [name] ∧ isSourceName name = true) :
    (visit force (stats, i) (place, e)).2.base = i.base ∧
      (visit force (stats, i) (place, e)).2.Consistent := by
  cases e with
  | folder f =>
    rw [visit_folder]
    exact ⟨rfl, consistent⟩
  | file content =>
    obtain ⟨table, files, -⟩ := consistent.files
    obtain ⟨front, name, rfl, passes⟩ := source
    rw [visit_file force stats i _ content table files]
    split
    · rename_i isDue
      simp only [due, Bool.and_eq_true, Bool.not_eq_true'] at isDue
      exact ⟨base_indexed i table _ content,
        consistent.take table files _ content (isKept_of_found i.base front name passes isDue.1)⟩
    · exact ⟨rfl, consistent⟩

/-- A whole walk does. -/
theorem foldl_visit_consistent (force : Bool) (found : List (List String × Entry))
    (source : ∀ e ∈ found, ∃ front name, e.1 = front ++ [name] ∧ isSourceName name = true)
    (stats : BuildStats) (i : Index) (consistent : i.Consistent) :
    (found.foldl (visit force) (stats, i)).2.base = i.base ∧
      (found.foldl (visit force) (stats, i)).2.Consistent := by
  induction found generalizing stats i with
  | nil => exact ⟨rfl, consistent⟩
  | cons e rest ih =>
    rw [List.forall_mem_cons] at source
    obtain ⟨base, next⟩ := visit_consistent force stats i e.1 e.2 consistent source.1
    obtain ⟨base', last⟩ := ih source.2 (visit force (stats, i) e).1 (visit force (stats, i) e).2 next
    exact ⟨base'.trans base, last⟩

theorem walked_consistent (root : Folder) (force : Bool) (i : Index) (consistent : i.Consistent) :
    ((i.walk root).foldl (visit force) ({}, i)).2.base = i.base ∧
      ((i.walk root).foldl (visit force) ({}, i)).2.Consistent :=
  foldl_visit_consistent force (i.walk root)
    (fun e found => matchesBelow_last isSourceName [] e.1 e.2 _ found) {} i consistent

theorem update_consistent (root : Folder) (now : Timestamp) (force : Bool) (i : Index)
    (clock : now.IsLocal) (consistent : i.Consistent) :
    (i.update root now force).2.base = i.base ∧ (i.update root now force).2.Consistent := by
  obtain ⟨base, next⟩ := walked_consistent root force i consistent
  rw [update_snd]
  generalize ((i.walk root).foldl (visit force) ({}, i)).2 = walked at base next ⊢
  refine ⟨base, next.grouped, next.files, next.made, ?_⟩
  rintro t ⟨⟩
  exact clock

/-! ### Histories -/

/-- What can happen to a workspace and an index of it. A change to the workspace writes no saved
index; only a save does. -/
inductive Step (p : String) : Folder → Index → Folder → Index → Prop where
  | renew (root : Folder) (i : Index) : Step p root i root (Index.empty p)
  | edit (root root' : Folder) (i : Index)
      (unwritten : ∀ c, readBytes root' i.savedAt = .ok c → readBytes root i.savedAt = .ok c) :
      Step p root i root' i
  | build (root : Folder) (i : Index) (now : Timestamp) (force : Bool) (clock : now.IsLocal) :
      Step p root i (i.build root now force).2.2 (i.build root now force).2.1
  | save (root : Folder) (i : Index) : Step p root i (i.save root) i
  | load (root : Folder) (i : Index) : Step p root i root (i.load root).2

/-- The states that an index comes to. At first nothing is saved. -/
inductive Reached (p : String) : Folder → Index → Prop where
  | start (root : Folder) (unsaved : ∀ c, readBytes root (Index.empty p).savedAt ≠ .ok c) :
      Reached p root (Index.empty p)
  | step (root root' : Folder) (i i' : Index) (reached : Reached p root i)
      (next : Step p root i root' i') : Reached p root' i'

/-- What is saved is the form of a consistent index. -/
def SavedConsistent (root : Folder) (i : Index) : Prop :=
  ∀ v, i.readSaved root = some v → ∃ j : Index, j.Consistent ∧ v = j.toJson

theorem readSaved_of_bytes (root root' : Folder) (i j : Index)
    (unwritten : ∀ c, readBytes root' j.savedAt = .ok c → readBytes root i.savedAt = .ok c)
    (v : Json) (found : j.readSaved root' = some v) : i.readSaved root = some v := by
  rw [readSaved] at found ⊢
  cases bytes : readBytes root' j.savedAt with
  | error fault =>
    rw [bytes] at found
    cases found
  | ok c =>
    rw [bytes] at found
    rw [unwritten c bytes]
    exact found

theorem savedConsistent_base (root : Folder) (i j : Index) (same : j.base = i.base)
    (saved : SavedConsistent root i) : SavedConsistent root j := by
  intro v found
  refine saved v (readSaved_of_bytes root root i j (fun c bytes => ?_) v found)
  rw [savedAt, same] at bytes
  exact bytes

theorem savedConsistent_save (root : Folder) (i : Index) (consistent : i.Consistent)
    (saved : SavedConsistent root i) : SavedConsistent (i.save root) i := by
  rw [save]
  cases written : writeFile root i.savedAt i.savedBytes with
  | error fault => exact saved
  | ok root' =>
    intro v found
    rw [readSaved_written root root' i i rfl consistent.typed written] at found
    cases long : Json.overlong? i.toJson with
    | none =>
      rw [long] at found
      cases found
      exact ⟨i, consistent, rfl⟩
    | some digits =>
      rw [long] at found
      cases found

theorem load_consistent (root : Folder) (i : Index) (consistent : i.Consistent)
    (saved : SavedConsistent root i) :
    (i.load root).2.base = i.base ∧ (i.load root).2.Consistent := by
  rw [load]
  split
  · rename_i fields found
    obtain ⟨j, whole, form⟩ := saved _ found
    rw [toJson_eq, Json.obj.injEq] at form
    rw [form, takeOver_savedFields j i whole.typed]
    exact ⟨rfl, whole.grouped, whole.files, whole.made, whole.time⟩
  · exact ⟨rfl, consistent⟩

/-- What holds of every state. -/
structure Sound (p : String) (root : Folder) (i : Index) : Prop where
  base : i.base = tidyPath p
  consistent : i.Consistent
  saved : SavedConsistent root i

theorem sound_step (p : String) (root root' : Folder) (i i' : Index) (sound : Sound p root i)
    (next : Step p root i root' i') : Sound p root' i' := by
  cases next with
  | renew =>
    exact ⟨rfl, consistent_empty p, savedConsistent_base root i _ sound.base.symm sound.saved⟩
  | edit _ _ unwritten =>
    refine ⟨sound.base, sound.consistent, fun v found => ?_⟩
    exact sound.saved v (readSaved_of_bytes root root' i i unwritten v found)
  | build _ now force clock =>
    obtain ⟨base, consistent⟩ := update_consistent root now force i clock sound.consistent
    rw [build_eq]
    dsimp only
    exact ⟨base.trans sound.base, consistent, savedConsistent_save root _ consistent
      (savedConsistent_base root i _ base sound.saved)⟩
  | save =>
    exact ⟨sound.base, sound.consistent,
      savedConsistent_save root i sound.consistent sound.saved⟩
  | load =>
    obtain ⟨base, consistent⟩ := load_consistent root i sound.consistent sound.saved
    exact ⟨base.trans sound.base, consistent, savedConsistent_base root i _ base sound.saved⟩

theorem sound_of_reached (p : String) (root : Folder) (i : Index) (reached : Reached p root i) :
    Sound p root i := by
  induction reached with
  | start root unsaved =>
    refine ⟨rfl, consistent_empty p, fun v found => ?_⟩
    rw [readSaved] at found
    split at found
    · cases found
    · rename_i c bytes
      exact absurd bytes (unsaved c)
  | step root root' i i' reached next ih => exact sound_step p root root' i i' ih next

/-! ### Records by file -/

theorem same_text (r : Record) (name key : CodeText) (file : r.file = .str name) :
    r.file.same (.str key) = (name == key) := by
  rw [file, Json.same]

/-- Records that each belong to one of some different files are those of the files taken
together. -/
theorem flatMap_filter_perm (names : List CodeText) (distinct : names.Nodup) (rs : List Record)
    (filed : ∀ r ∈ rs, ∃ name ∈ names, r.file = .str name) :
    (names.flatMap fun name => rs.filter fun r => r.file.same (.str name)).Perm rs := by
  induction names generalizing rs with
  | nil =>
    cases rs with
    | nil => rfl
    | cons r rest =>
      obtain ⟨name, none_, -⟩ := filed r List.mem_cons_self
      cases none_
  | cons name names ih =>
    rw [List.nodup_cons] at distinct
    have others : (names.flatMap fun other => rs.filter fun r => r.file.same (.str other)) =
        names.flatMap fun other =>
          (rs.filter fun r => !r.file.same (.str name)).filter fun r => r.file.same (.str other) := by
      refine List.flatMap_congr fun other member => ?_
      rw [List.filter_filter]
      refine List.filter_congr fun r present => ?_
      obtain ⟨key, -, file⟩ := filed r present
      rw [same_text r key other file, same_text r key name file]
      by_cases equal : key = other
      · have differ : key ≠ name := by
          rintro rfl
          exact distinct.1 (equal ▸ member)
        rw [equal] at differ
        simp [equal, differ]
      · simp [equal]
    have rest := ih distinct.2 (rs.filter fun r => !r.file.same (.str name)) (by
      intro r present
      obtain ⟨inside, differ⟩ := List.mem_filter.mp present
      obtain ⟨key, member, file⟩ := filed r inside
      refine ⟨key, ?_, file⟩
      rcases List.mem_cons.mp member with rfl | later
      · rw [same_text r key key file] at differ
        simp at differ
      · exact later)
    rw [List.flatMap_cons, others]
    exact (rest.append_left _).trans (List.filter_append_perm _ rs)

/-- The records by name and a table of files belong together: the records under a name have that
name and are not none, their files are known, known files are sources that are not left out, and the
files together have each record once. -/
structure Coherent (i : Index) (table : List (CodeText × Json)) : Prop where
  files : i.files = .obj table
  named : ∀ g ∈ i.symbols, ∀ r ∈ g.2, r.name = .str g.1
  inhabited : ∀ g ∈ i.symbols, g.2 ≠ []
  filed : ∀ r ∈ i.records, ∃ f ∈ table, r.file = .str f.1
  kept : ∀ f ∈ table, ∃ path : String, f.1 = path ∧ isSourceName path = true ∧
    ∀ name ∈ ignoredNames ++ [fileName], Text.contains path name = false
  once : (table.flatMap fun f => i.inFile (.str f.1)).Perm i.records

/-- The tables of an index belong together in every state. -/
theorem reached_coherent (p : String) (root : Folder) (i : Index) (reached : Reached p root i) :
    ∃ table, Coherent i table := by
  have consistent := (sound_of_reached p root i reached).consistent
  obtain ⟨table, files, tabled, filed⟩ := consistent.files
  refine ⟨table, files, fun g member => (consistent.grouped.named g member).2,
    fun g member => (consistent.grouped.named g member).1, filed,
    fun f member => (tabled.kept f member).2, ?_⟩
  have together := flatMap_filter_perm (table.map Prod.fst) tabled.distinct i.records (by
    intro r member
    obtain ⟨f, present, same⟩ := filed r member
    exact ⟨f.1, List.mem_map_of_mem present, same⟩)
  rw [List.flatMap_map] at together
  exact together

/-- A workspace of one file that sets one variable. -/
def oneVariable : Folder :=
  [("a.py", .file (Text.encode "a=1"))]

/-- A moment to build at. -/
def someDay : Timestamp := { year := 2024, month := 2, day := 29 }

theorem unsaved_oneVariable (c : List UInt8) :
    readBytes oneVariable (Index.empty ".").savedAt ≠ .ok c := by
  have missing : readBytes oneVariable (Index.empty ".").savedAt =
    .error (.missing ".echodebug_index.json") := rfl
  rw [missing]
  exact fun found => by cases found

/-- The state after a first build and a load. -/
theorem reached_build_load (p : String) (root : Folder) (now : Timestamp) (force : Bool)
    (clock : now.IsLocal) (unsaved : ∀ c, readBytes root (Index.empty p).savedAt ≠ .ok c) :
    Reached p ((Index.empty p).build root now force).2.2
      (((Index.empty p).build root now force).2.1.load
        ((Index.empty p).build root now force).2.2).2 :=
  .step _ _ _ _ (.step _ _ _ _ (.start root unsaved) (.build root _ now force clock)) (.load _ _)

theorem reached_coherent_oneVariable :
    Reached "." ((Index.empty ".").build oneVariable someDay true).2.2
        (((Index.empty ".").build oneVariable someDay true).2.1.load
          ((Index.empty ".").build oneVariable someDay true).2.2).2 ∧
      ∃ table, Coherent (((Index.empty ".").build oneVariable someDay true).2.1.load
        ((Index.empty ".").build oneVariable someDay true).2.2).2 table := by
  have reached := reached_build_load "." oneVariable someDay true ⟨by decide, by decide, rfl⟩
    unsaved_oneVariable
  exact ⟨reached, reached_coherent "." _ _ reached⟩

end Index

end VoiceDebugger
