import Mathlib
import VoiceDebugger.Proofs.Index.Sources

/-!
How fresh an index is after any history of edits and builds.

The records that an index has of a file are those of all contents with which the file was ever
looked into: nothing is taken out again. So they are the ones of its present content only where the
earlier contents defined nothing.
-/

namespace VoiceDebugger

namespace Index

/-! ### The contents that were looked into -/

/-- The records of a file with a content. -/
def fileRecords (file : String) (content : List UInt8) : List Record :=
  (fileSymbols file content).map Symbol.record

/-- The contents of a file that were looked into, after a build that finds it with a content or does
not find it. An unforced build goes by the digest of the last one. -/
def lookInto (force : Bool) (now : Option (List UInt8)) (seen : List (List UInt8)) :
    List (List UInt8) :=
  match now with
  | none => seen
  | some c =>
    if !force && seen.getLast?.map Digest.ofBytes == some (Digest.ofBytes c) then seen
    else seen ++ [c]

/-- An index that knows each file by the last content looked into and has the records of all. -/
structure Tracks (i : Index) (seen : String → List (List UInt8)) : Prop where
  files : ∃ table, i.files = .obj table ∧ ∀ file : String,
    Json.field? file table = (seen file).getLast?.map fun c => .str (Digest.ofBytes c)
  records : ∀ file : String, (i.inFile (.str file)).Perm ((seen file).flatMap (fileRecords file))

theorem tracks_empty (p : String) : Tracks (Index.empty p) fun _ => [] :=
  ⟨⟨[], rfl, fun _ => rfl⟩, fun _ => .refl _⟩

/-! ### One file -/

theorem inFile_fileRecords (file other : String) (content : List UInt8) :
    ((fileRecords file content).filter fun r => r.file.same (.str other)) =
      if file = other then fileRecords file content else [] := by
  have named : ∀ r ∈ fileRecords file content, r.file.same (.str other) = decide (file = other) := by
    intro r member
    obtain ⟨s, inside, rfl⟩ := List.mem_map.mp member
    rw [same_text _ (CodeText.ofString file) _
      (by rw [Symbol.record, fileSymbols_file file content s inside])]
    simp [beq_eq_decide, CodeText.ofString_inj]
  split
  · rename_i same
    exact List.filter_eq_self.mpr fun r member => by simp [named r member, same]
  · rename_i differ
    exact List.filter_eq_nil_iff.mpr fun r member => by simp [named r member, differ]

/-- Taking a content in adds it to those of its file. -/
theorem Tracks.take {i : Index} {seen : String → List (List UInt8)} (tracks : Tracks i seen)
    (table : List (CodeText × Json)) (files : i.files = .obj table) (file : String)
    (content : List UInt8) :
    Tracks (i.indexed table file content)
      fun other => if file = other then seen other ++ [content] else seen other := by
  obtain ⟨table', files', known⟩ := tracks.files
  rw [files, Json.obj.injEq] at files'
  subst files'
  refine ⟨⟨_, rfl, fun other => ?_⟩, fun other => ?_⟩
  · rw [Json.field?_setField]
    by_cases same : file = other
    · simp [same]
    · simp [same, CodeText.ofString_inj, known other]
  · have grown := (records_indexed i table file content).filter fun r => r.file.same (.str other)
    rw [List.filter_append, show (fileSymbols file content).map Symbol.record =
      fileRecords file content from rfl, inFile_fileRecords] at grown
    refine grown.trans ?_
    by_cases same : file = other
    · subst same
      simp only [↓reduceIte, List.flatMap_append, List.flatMap_singleton]
      exact (tracks.records file).append_right _
    · simp only [same, ↓reduceIte, List.append_nil]
      exact tracks.records other

theorem known_digest (table : List (CodeText × Json)) (file : String) (seen : List (List UInt8))
    (content : List UInt8)
    (known : Json.field? file table = seen.getLast?.map fun c => .str (Digest.ofBytes c)) :
    ((Json.field? file table).any fun v => v.same (.str (Digest.ofBytes content))) =
      (seen.getLast?.map Digest.ofBytes == some (Digest.ofBytes content)) := by
  rw [known]
  cases seen.getLast? with
  | none => rfl
  | some last =>
    simp only [Option.map_some, Option.any_some, Json.same]
    rw [Bool.eq_iff_iff]
    simp [CodeText.ofString_inj]

/-- What a build that finds an entry looks into. -/
def look (force : Bool) (base : String) (seen : String → List (List UInt8))
    (found : List String × Entry) : String → List (List UInt8) := fun file =>
  match found.2 with
  | .folder _ => seen file
  | .file c =>
    if "/".intercalate found.1 = file ∧ ignores (joinPath base file) = false then
      lookInto force (some c) (seen file)
    else seen file

/-- A file is looked into where it is due. -/
theorem look_file (force : Bool) (i : Index) (seen : String → List (List UInt8))
    (place : List String) (content : List UInt8) (table : List (CodeText × Json))
    (known : ∀ file : String,
      Json.field? file table = (seen file).getLast?.map fun c => .str (Digest.ofBytes c)) :
    look force i.base seen (place, .file content) =
      if due force i table ("/".intercalate place) content then
        fun other => if "/".intercalate place = other then seen other ++ [content] else seen other
      else seen := by
  funext other
  rw [look]
  by_cases here : "/".intercalate place = other
  · rw [due, here, known_digest table other (seen other) content (known other)]
    simp only [lookInto, true_and]
    generalize ((seen other).getLast?.map Digest.ofBytes == some (Digest.ofBytes content)) = same
    cases ignores (joinPath i.base other) with
    | true => rfl
    | false => cases force <;> cases same <;> simp
  · simp only [here, false_and, ↓reduceIte]
    split
    · simp only [here, ↓reduceIte]
    · rfl

/-- One entry of a walk keeps track. -/
theorem tracks_visit (force : Bool) (stats : BuildStats) (i : Index) (found : List String × Entry)
    (seen : String → List (List UInt8)) (tracks : Tracks i seen) :
    (visit force (stats, i) found).2.base = i.base ∧
      Tracks (visit force (stats, i) found).2 (look force i.base seen found) := by
  obtain ⟨place, e⟩ := found
  cases e with
  | folder f =>
    rw [visit_folder]
    exact ⟨rfl, tracks⟩
  | file content =>
    obtain ⟨table, files, known⟩ := tracks.files
    rw [visit_file force stats i place content table files,
      look_file force i seen place content table known]
    split
    · exact ⟨base_indexed i table _ content, tracks.take table files _ content⟩
    · exact ⟨rfl, tracks⟩

/-! ### A whole build -/

theorem tracks_foldl_visit (force : Bool) (found : List (List String × Entry)) (stats : BuildStats)
    (i : Index) (seen : String → List (List UInt8)) (tracks : Tracks i seen) :
    (found.foldl (visit force) (stats, i)).2.base = i.base ∧
      Tracks (found.foldl (visit force) (stats, i)).2 (found.foldl (look force i.base) seen) := by
  induction found generalizing stats i seen with
  | nil => exact ⟨rfl, tracks⟩
  | cons e rest ih =>
    obtain ⟨base, next⟩ := tracks_visit force stats i e seen tracks
    have last := ih (visit force (stats, i) e).1 (visit force (stats, i) e).2 _ next
    rw [base] at last
    exact last

theorem look_other (force : Bool) (base : String) (seen : String → List (List UInt8))
    (found : List String × Entry) (file : String) (apart : "/".intercalate found.1 ≠ file) :
    look force base seen found file = seen file := by
  rw [look]
  split
  · rfl
  · simp only [apart, false_and, ↓reduceIte]

theorem foldl_look_other (force : Bool) (base : String) (found : List (List String × Entry))
    (seen : String → List (List UInt8)) (file : String)
    (apart : ∀ e ∈ found, "/".intercalate e.1 ≠ file) :
    found.foldl (look force base) seen file = seen file := by
  induction found generalizing seen with
  | nil => rfl
  | cons e rest ih =>
    rw [List.forall_mem_cons] at apart
    rw [List.foldl_cons, ih _ apart.2, look_other force base seen e file apart.1]

/-- A walk that finds each file once looks into it once. -/
theorem foldl_look (force : Bool) (base : String) (found : List (List String × Entry))
    (seen : String → List (List UInt8)) (file : String) (now : Option (List UInt8))
    (distinct : (found.map fun e => "/".intercalate e.1).Nodup)
    (present : ∀ c, now = some c ↔ ∃ place, (place, .file c) ∈ found ∧
      "/".intercalate place = file ∧ ignores (joinPath base file) = false) :
    found.foldl (look force base) seen file = lookInto force now (seen file) := by
  induction found generalizing seen with
  | nil =>
    have absent : now = none := Option.eq_none_iff_forall_ne_some.mpr fun c same => by
      obtain ⟨place, member, -⟩ := (present c).mp same
      cases member
    rw [absent]
    rfl
  | cons e rest ih =>
    obtain ⟨place, entry⟩ := e
    rw [List.map_cons, List.nodup_cons] at distinct
    rw [List.foldl_cons]
    by_cases here : "/".intercalate place = file
    · -- The file is this entry, and no later one.
      have later : ∀ e ∈ rest, "/".intercalate e.1 ≠ file := fun e member same =>
        distinct.1 (List.mem_map.mpr ⟨e, member, same.trans here.symm⟩)
      rw [foldl_look_other force base rest _ file later, look]
      have only : ∀ c, now = some c ↔ entry = .file c ∧ ignores (joinPath base file) = false := by
        intro c
        rw [present c]
        constructor
        · rintro ⟨other, member, same, kept⟩
          rcases List.mem_cons.mp member with equal | member
          · cases equal
            exact ⟨rfl, kept⟩
          · exact absurd same (later _ member)
        · rintro ⟨rfl, kept⟩
          exact ⟨place, List.mem_cons_self, here, kept⟩
      cases entry with
      | folder f =>
        have absent : now = none := Option.eq_none_iff_forall_ne_some.mpr fun c same => by
          cases ((only c).mp same).1
        rw [absent]
        rfl
      | file c =>
        cases kept : ignores (joinPath base file) with
        | false =>
          rw [(only c).mpr ⟨rfl, kept⟩]
          simp only [here, and_self, ↓reduceIte]
        | true =>
          have absent : now = none := Option.eq_none_iff_forall_ne_some.mpr fun c same => by
            have contrary := ((only c).mp same).2
            rw [kept] at contrary
            cases contrary
          rw [absent]
          simp only [Bool.true_eq_false, and_false, ↓reduceIte, lookInto]
    · rw [ih _ distinct.2, look_other force base seen _ file here]
      intro c
      rw [present c]
      constructor
      · rintro ⟨other, member, same, kept⟩
        rcases List.mem_cons.mp member with equal | member
        · cases equal
          exact absurd same here
        · exact ⟨other, member, same, kept⟩
      · rintro ⟨other, member, same, kept⟩
        exact ⟨other, List.mem_cons_of_mem _ member, same, kept⟩

theorem nodup_walked (f : Folder) (well : f.WellFormed) :
    ((f.walk isSourceName).map fun e => "/".intercalate e.1).Nodup := by
  have names : ∀ place ∈ (f.walk isSourceName).map Prod.fst,
      Text.splitOn '/' ("/".intercalate place) = place := by
    intro place member
    obtain ⟨⟨place, e⟩, found, rfl⟩ := List.mem_map.mp member
    exact f.splitOn_of_mem_walk isSourceName well place e found
  have split : ((f.walk isSourceName).map fun e => "/".intercalate e.1) =
      ((f.walk isSourceName).map Prod.fst).map fun place => "/".intercalate place := by
    rw [List.map_map]
    rfl
  rw [split]
  refine (Folder.nodup_walk isSourceName f well).map_on fun a first b second same => ?_
  rw [← names a first, same, names b second]

/-- A build looks into the sources that it finds, as it should. -/
theorem tracks_update (root : Folder) (now : Timestamp) (force : Bool) (i : Index)
    (seen : String → List (List UInt8)) (well : (listFolder root i.base).WellFormed)
    (tracks : Tracks i seen) :
    (i.update root now force).2.base = i.base ∧
      Tracks (i.update root now force).2
        fun file => lookInto force (sourceAt? root i.base file) (seen file) := by
  have looked : (i.walk root).foldl (look force i.base) seen =
      fun file => lookInto force (sourceAt? root i.base file) (seen file) := by
    funext file
    refine foldl_look force i.base _ seen file _ (nodup_walked _ well) fun c => ?_
    exact sourceAt?_iff_mem_walk root i.base file c well
  obtain ⟨base, next⟩ := tracks_foldl_visit force (i.walk root) {} i seen tracks
  rw [update_snd]
  rw [looked] at next
  generalize ((i.walk root).foldl (visit force) ({}, i)).2 = walked at base next ⊢
  exact ⟨base, next.files, next.records⟩

/-! ### Histories -/

/-- What happens in a history: the workspace becomes another one, or the index is built. -/
inductive Event where
  | edit (root : Folder)
  | build (now : Timestamp) (force : Bool)

/-- What an event does to a workspace and its index. -/
def Event.run (state : Folder × Index) : Event → Folder × Index
  | .edit root => (root, state.2)
  | .build now force =>
    let built := state.2.build state.1 now force
    (built.2.2, built.2.1)

/-- What an event means for the contents that are looked into. -/
def Event.watch (base : String) (state : Folder × (String → List (List UInt8))) :
    Event → Folder × (String → List (List UInt8))
  | .edit root => (root, state.2)
  | .build _ force =>
    (state.1, fun file => lookInto force (sourceAt? state.1 base file) (state.2 file))

/-- The workspace and the index after a history that starts with an empty index. -/
def after (p : String) (root : Folder) (events : List Event) : Folder × Index :=
  events.foldl Event.run (root, Index.empty p)

/-- The contents of each file that a history has the index look into, in order. -/
def lookedInto (p : String) (root : Folder) (events : List Event) : String → List (List UInt8) :=
  (events.foldl (Event.watch (tidyPath p)) (root, fun _ => [])).2

/-- A state that has the same sources as the workspace that was edited last and keeps track. -/
structure Follows (base : String) (state : Folder × Index)
    (watched : Folder × (String → List (List UInt8))) : Prop where
  rooted : state.2.base = base
  well : (listFolder state.1 base).WellFormed
  same : ∀ file, sourceAt? state.1 base file = sourceAt? watched.1 base file
  tracks : Tracks state.2 watched.2

theorem follows_step (base : String) (state : Folder × Index)
    (watched : Folder × (String → List (List UInt8))) (event : Event)
    (well : ∀ root, event = .edit root → root.WellFormed) (follows : Follows base state watched) :
    Follows base (event.run state) (event.watch base watched) := by
  obtain ⟨root, i⟩ := state
  cases event with
  | edit root' =>
    exact ⟨follows.rooted, listFolder_wellFormed root' base (well root' rfl), fun _ => rfl,
      follows.tracks⟩
  | build now force =>
    obtain ⟨rfl, wellFormed, same, tracks⟩ := follows
    dsimp only at wellFormed same tracks
    obtain ⟨base, next⟩ := tracks_update root now force i _ wellFormed tracks
    simp only [Event.run, Event.watch, build_eq]
    generalize (i.update root now force).2 = updated at base next
    rw [← base] at wellFormed same next ⊢
    refine ⟨rfl, wellFormed_save root updated wellFormed, fun file => ?_, ?_⟩
    · rw [sourceAt?_save]
      exact same file
    · simp only [← same]
      exact next

theorem follows_foldl (base : String) (events : List Event) (state : Folder × Index)
    (watched : Folder × (String → List (List UInt8)))
    (edits : ∀ root, .edit root ∈ events → root.WellFormed) (follows : Follows base state watched) :
    Follows base (events.foldl Event.run state) (events.foldl (Event.watch base) watched) := by
  induction events generalizing state watched with
  | nil => exact follows
  | cons event rest ih =>
    have next := follows_step base state watched event
      (fun root same => edits root (same ▸ List.mem_cons_self)) follows
    exact ih _ _ (fun root member => edits root (List.mem_cons_of_mem _ member)) next

/-- Whatever happens, an index keeps track of the contents that it looked into. -/
theorem follows_run (p : String) (root : Folder) (events : List Event) (well : root.WellFormed)
    (edits : ∀ root', .edit root' ∈ events → root'.WellFormed) :
    Follows (tidyPath p) (after p root events)
      (events.foldl (Event.watch (tidyPath p)) (root, fun _ => [])) :=
  follows_foldl _ events _ _ edits
    ⟨rfl, listFolder_wellFormed root _ well, fun _ => rfl, tracks_empty p⟩

/-! ### Freshness -/

/-- An index that has of each source exactly the records of its content, and none of a path that
leads nowhere. -/
structure Fresh (root : Folder) (i : Index) : Prop where
  present : ∀ file content, sourceAt? root i.base file = some content →
    (i.inFile (.str file)).Perm (fileRecords file content)
  absent : ∀ file, pathExists root (joinPath i.base file) = false → i.inFile (.str file) = []

theorem lookInto_some (force : Bool) (c : List UInt8) (seen : List (List UInt8)) :
    ∃ earlier last, lookInto force (some c) seen = earlier ++ [last] ∧
      Digest.ofBytes last = Digest.ofBytes c := by
  rw [lookInto]
  split
  · rename_i known
    simp only [Bool.and_eq_true, beq_iff_eq, Option.map_eq_some_iff] at known
    obtain ⟨last, ends, same⟩ := known.2
    obtain ⟨earlier, rfl⟩ := List.getLast?_eq_some_iff.mp ends
    exact ⟨earlier, last, rfl, same⟩
  · exact ⟨seen, c, rfl, rfl⟩

theorem fileRecords_eq_nil (file : String) (c : List UInt8) :
    fileRecords file c = [] ↔ fileSymbols file c = [] :=
  List.map_eq_nil_iff

/-- Records of contents behind others are those of the last one only if the others have none. -/
theorem flatMap_concat_perm (file : String) (earlier : List (List UInt8)) (c : List UInt8) :
    ((earlier ++ [c]).flatMap (fileRecords file)).Perm (fileRecords file c) ↔
      ∀ d ∈ earlier, fileSymbols file d = [] := by
  rw [List.flatMap_append, List.flatMap_singleton]
  constructor
  · intro perm d member
    have lengths := perm.length_eq
    rw [List.length_append] at lengths
    have none_ : earlier.flatMap (fileRecords file) = [] :=
      List.length_eq_zero_iff.mp (by omega)
    exact (fileRecords_eq_nil file d).mp (List.flatMap_eq_nil_iff.mp none_ d member)
  · intro none_
    rw [List.flatMap_eq_nil_iff.mpr fun d member => (fileRecords_eq_nil file d).mpr (none_ d member)]
    rfl

/-- What a build at the end of a history looks into. -/
theorem lookedInto_build (p : String) (root : Folder) (events : List Event) (now : Timestamp)
    (force : Bool) (well : root.WellFormed)
    (edits : ∀ root', .edit root' ∈ events → root'.WellFormed) (file : String) :
    lookedInto p root (events ++ [.build now force]) file =
      lookInto force (sourceAt? (after p root (events ++ [.build now force])).1 (tidyPath p) file)
        (lookedInto p root events file) := by
  have follows := follows_run p root (events ++ [.build now force]) well (by simpa using edits)
  rw [follows.same file]
  simp only [lookedInto, List.foldl_append, List.foldl_cons, List.foldl_nil, Event.watch]

/-- Each source was looked into last with its present content and before that only with contents
that define nothing, and what is gone never defined anything. A content that merely has the digest
of the present one takes its place if the records come to the same. -/
def Settled (root : Folder) (base : String) (seen : String → List (List UInt8)) : Prop :=
  (∀ file content, sourceAt? root base file = some content →
    ∃ earlier last, seen file = earlier ++ [last] ∧ Digest.ofBytes last = Digest.ofBytes content ∧
      (last = content → ∀ d ∈ earlier, fileSymbols file d = []) ∧
      (last ≠ content →
        ((earlier ++ [last]).flatMap (fileRecords file)).Perm (fileRecords file content))) ∧
  (∀ file, pathExists root (joinPath base file) = false → ∀ d ∈ seen file, fileSymbols file d = [])

/-- After a build that ends a history an index is fresh exactly if its sources are settled. -/
theorem fresh_after_build_iff (p : String) (root : Folder) (events : List Event) (now : Timestamp)
    (force : Bool) (well : root.WellFormed)
    (edits : ∀ root', .edit root' ∈ events → root'.WellFormed) :
    let state := after p root (events ++ [.build now force])
    Fresh state.1 state.2 ↔
      Settled state.1 state.2.base (lookedInto p root (events ++ [.build now force])) := by
  intro state
  have follows := follows_run p root (events ++ [.build now force]) well (by simpa using edits)
  have rooted : state.2.base = tidyPath p := follows.rooted
  have records : ∀ file : String, (state.2.inFile (.str file)).Perm
      ((lookedInto p root (events ++ [.build now force]) file).flatMap (fileRecords file)) :=
    follows.tracks.records
  constructor
  · intro fresh
    refine ⟨fun file content source => ?_, fun file gone d member => ?_⟩
    · obtain ⟨earlier, last, ends, same⟩ :=
        lookInto_some force content (lookedInto p root events file)
      have whole : lookedInto p root (events ++ [.build now force]) file = earlier ++ [last] := by
        rw [rooted] at source
        rw [← ends, ← source]
        exact lookedInto_build p root events now force well edits file
      have perm := (records file).symm.trans (fresh.present file content source)
      rw [whole] at perm
      refine ⟨earlier, last, whole, same, ?_, fun _ => perm⟩
      rintro rfl
      exact (flatMap_concat_perm file earlier last).mp perm
    · have perm := records file
      rw [fresh.absent file gone] at perm
      exact (fileRecords_eq_nil file d).mp (List.flatMap_eq_nil_iff.mp perm.symm.eq_nil d member)
  · rintro ⟨kept, never⟩
    refine ⟨fun file content source => ?_, fun file gone => ?_⟩
    · obtain ⟨earlier, last, whole, -, equal, other⟩ := kept file content source
      refine (records file).trans ?_
      rw [whole]
      by_cases same : last = content
      · rw [← same]
        exact (flatMap_concat_perm file earlier last).mpr (equal same)
      · exact other same
    · have perm := records file
      rw [List.flatMap_eq_nil_iff.mpr fun d member =>
        (fileRecords_eq_nil file d).mpr (never file gone d member)] at perm
      exact perm.eq_nil

theorem wellFormed_oneVariable : Folder.WellFormed oneVariable :=
  ⟨by decide, by simp only [oneVariable, List.forall_mem_singleton]; decide, trivial, trivial⟩

theorem fresh_after_build_oneVariable :
    Folder.WellFormed [] ∧ (∀ root', .edit root' ∈ [Event.edit oneVariable] → root'.WellFormed) ∧
      (let state := after "." [] ([.edit oneVariable] ++ [.build someDay false])
      Fresh state.1 state.2 ↔
        Settled state.1 state.2.base
          (lookedInto "." [] ([.edit oneVariable] ++ [.build someDay false]))) := by
  have well : Folder.WellFormed [] := ⟨by decide, by simp, trivial⟩
  have edits : ∀ root', .edit root' ∈ [Event.edit oneVariable] → root'.WellFormed := by
    intro root' member
    rw [List.mem_singleton, Event.edit.injEq] at member
    rw [member]
    exact wellFormed_oneVariable
  exact ⟨well, edits, fresh_after_build_iff "." [] [.edit oneVariable] someDay false well edits⟩

theorem treeOfFile_oneVariable :
    treeOfFile (Text.encode "a=1") =
      some [⟨⟨1, 0, 1, 3⟩,
        .assign [⟨⟨1, 0, 1, 1⟩, .name "a"⟩] ⟨⟨1, 2, 1, 3⟩, .constant (.int 1)⟩⟩] := by
  -- As for any parse, the equations that rewriting takes are spread over the whole library.
  cbv

theorem fileSymbols_oneVariable :
    fileSymbols "a.py" (Text.encode "a=1") =
      [{ name := "a", kind := .variableName, file := "a.py", line := 1, column := 0 }] := by
  rw [fileSymbols, treeOfFile_oneVariable]
  cbv

/-- A forced build of a workspace that did not change has its records twice. -/
theorem rebuilt_oneVariable_not_fresh :
    let state := after "." oneVariable [.build someDay false, .build someDay true]
    sourceAt? state.1 state.2.base "a.py" = some (Text.encode "a=1") ∧
      (fileRecords "a.py" (Text.encode "a=1")).length = 1 ∧
      (state.2.inFile (.str "a.py")).length = 2 ∧ ¬ Fresh state.1 state.2 := by
  intro state
  have here : tidyPath "." = "." := rfl
  have single : (fileRecords "a.py" (Text.encode "a=1")).length = 1 := by
    rw [fileRecords, fileSymbols_oneVariable]
    rfl
  have source : sourceAt? oneVariable "." "a.py" = some (Text.encode "a=1") := rfl
  have follows := follows_run "." oneVariable [.build someDay false, .build someDay true]
    wellFormed_oneVariable (by simp)
  have seen : lookedInto "." oneVariable [.build someDay false, .build someDay true] "a.py" =
      [Text.encode "a=1", Text.encode "a=1"] := by
    simp [lookedInto, Event.watch, lookInto, here, source]
  have perm : (state.2.inFile (.str "a.py")).Perm
      ((lookedInto "." oneVariable [.build someDay false, .build someDay true] "a.py").flatMap
        (fileRecords "a.py")) := follows.tracks.records "a.py"
  have twice : (state.2.inFile (.str "a.py")).length = 2 := by
    rw [perm.length_eq, seen]
    simp [single]
  have present : sourceAt? state.1 state.2.base "a.py" = some (Text.encode "a=1") := by
    have same := follows.same "a.py"
    rw [here] at same
    exact (congrArg (sourceAt? state.1 · "a.py") (follows.rooted.trans here)).trans
      (same.trans source)
  refine ⟨present, single, twice, fun fresh => ?_⟩
  have equal := (fresh.present "a.py" _ present).length_eq
  rw [twice, single] at equal
  cases equal

end Index

end VoiceDebugger
