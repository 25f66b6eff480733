import VoiceDebugger.Api.Endpoint
import VoiceDebugger.Proofs.Index.Coverage

/-!
What a build adds to an index, and how it accounts for it.

Whatever the table of files is, a build counts each entry of its walk once and each record that it
adds, and adds records behind those that were there. Where the table of files can be used, the
records are those of the files that are due, in the order of the walk, and just these files are
noted.
-/

namespace VoiceDebugger

open VoiceDebugger.Action

/-! ### Adding many records -/

/-- Records by name, with those of symbols added one after the other. -/
def addSymbolsUnder (groups : List (CodeText × List Record)) (new : List Symbol) :
    List (CodeText × List Record) :=
  new.foldl (fun groups s => addUnder s.name s.record groups) groups

theorem addSymbolsUnder_append (groups : List (CodeText × List Record)) (first second : List Symbol) :
    addSymbolsUnder groups (first ++ second) =
      addSymbolsUnder (addSymbolsUnder groups first) second :=
  List.foldl_append

theorem listUnder_addUnder {α : Type} (name other : CodeText) (a : α)
    (groups : List (CodeText × List α)) :
    listUnder other (addUnder name a groups) =
      listUnder other groups ++ if name = other then [a] else [] := by
  induction groups with
  | nil => simp [addUnder, listUnder]
  | cons g rest ih =>
    rw [addUnder]
    split
    · rename_i here
      rw [beq_iff_eq] at here
      simp only [listUnder, here, beq_iff_eq]
      split
      · rfl
      · rw [List.append_nil]
    · rename_i elsewhere
      rw [beq_iff_eq] at elsewhere
      simp only [listUnder, ih, beq_iff_eq]
      split
      · rename_i same
        rw [if_neg fun equal => elsewhere (same.trans equal.symm), List.append_nil]
      · rfl

/-- The list of a name gets the new records of that name, in order. -/
theorem listUnder_addSymbolsUnder (name : CodeText) (new : List Symbol)
    (groups : List (CodeText × List Record)) :
    listUnder name (addSymbolsUnder groups new) =
      listUnder name groups ++
        (new.filter fun s => (s.name : CodeText) == name).map Symbol.record := by
  induction new generalizing groups with
  | nil => simp [addSymbolsUnder]
  | cons s rest ih =>
    rw [addSymbolsUnder, List.foldl_cons, ← addSymbolsUnder, ih, listUnder_addUnder,
      List.append_assoc, List.filter_cons]
    by_cases here : (s.name : CodeText) = name
    · simp [here]
    · simp [here]

theorem names_addSymbolsUnder (new : List Symbol) (groups : List (CodeText × List Record)) :
    groups.map Prod.fst <+: (addSymbolsUnder groups new).map Prod.fst := by
  induction new generalizing groups with
  | nil => exact List.prefix_refl _
  | cons s rest ih =>
    refine List.IsPrefix.trans ?_ (ih (addUnder s.name s.record groups))
    rw [names_addUnder]
    split
    · exact List.prefix_refl _
    · exact List.prefix_append _ _

theorem length_addSymbolsUnder (new : List Symbol) (groups : List (CodeText × List Record)) :
    ((addSymbolsUnder groups new).flatMap Prod.snd).length =
      (groups.flatMap Prod.snd).length + new.length := by
  induction new generalizing groups with
  | nil => rfl
  | cons s rest ih =>
    rw [addSymbolsUnder, List.foldl_cons, ← addSymbolsUnder, ih,
      (addUnder_perm s.name s.record groups).length_eq, List.length_append, List.length_singleton,
      List.length_cons]
    omega

/-- How many entries of a walk were counted. -/
def BuildStats.entries (stats : BuildStats) : Nat :=
  stats.filesIndexed + stats.filesSkipped + stats.errors

namespace Index

/-! ### Whatever the table of files is -/

/-- From one state of a build to another, entries were counted and symbols were added and
counted. -/
structure Adds (before after : BuildStats × Index) (entries : Nat) (new : List Symbol) : Prop where
  entries : after.1.entries = before.1.entries + entries
  found : after.1.symbolsFound = before.1.symbolsFound + new.length
  symbols : after.2.symbols = addSymbolsUnder before.2.symbols new

theorem Adds.trans {first second third : BuildStats × Index} {m n : Nat} {new newer : List Symbol}
    (one : Adds first second m new) (two : Adds second third n newer) :
    Adds first third (m + n) (new ++ newer) where
  entries := by rw [two.entries, one.entries, Nat.add_assoc]
  found := by rw [two.found, one.found, List.length_append, Nat.add_assoc]
  symbols := by rw [two.symbols, one.symbols, addSymbolsUnder_append]

theorem symbols_foldl_add (new : List Symbol) (i : Index) :
    (new.foldl add i).symbols = addSymbolsUnder i.symbols new := by
  rw [foldl_add]
  rfl

theorem symbols_noteFile? {i noted : Index} {file digest : String}
    (done : i.noteFile? file digest = some noted) : noted.symbols = i.symbols := by
  rw [noteFile?] at done
  split at done
  · cases done
    rfl
  · cases done

/-- Each of the ways to deal with an entry counts it once and counts what it adds. -/
theorem visit_adds (force : Bool) (state : BuildStats × Index) (found : List String × Entry) :
    ∃ new, Adds state (visit force state found) 1 new := by
  obtain ⟨stats, i⟩ := state
  have skipped : Adds (stats, i) ({ stats with filesSkipped := stats.filesSkipped + 1 }, i) 1 [] :=
    ⟨by simp only [BuildStats.entries]; omega, rfl, rfl⟩
  have failed : Adds (stats, i) ({ stats with errors := stats.errors + 1 }, i) 1 [] :=
    ⟨by simp only [BuildStats.entries]; omega, rfl, rfl⟩
  rw [visit]
  dsimp only
  split
  · exact ⟨[], skipped⟩
  split
  · exact ⟨[], failed⟩
  split
  · exact ⟨[], failed⟩
  · exact ⟨[], skipped⟩
  split
  · rename_i noted done
    refine ⟨_, ?_, rfl, (symbols_noteFile? done).trans (symbols_foldl_add _ i)⟩
    simp only [BuildStats.entries]
    omega
  · refine ⟨_, ?_, rfl, symbols_foldl_add _ i⟩
    simp only [BuildStats.entries]
    omega

theorem foldl_visit_adds (force : Bool) (found : List (List String × Entry))
    (state : BuildStats × Index) :
    ∃ new, Adds state (found.foldl (visit force) state) found.length new := by
  induction found generalizing state with
  | nil => exact ⟨[], rfl, rfl, rfl⟩
  | cons e rest ih =>
    obtain ⟨new, one⟩ := visit_adds force state e
    obtain ⟨newer, others⟩ := ih (visit force state e)
    rw [List.length_cons, Nat.add_comm]
    exact ⟨new ++ newer, one.trans others⟩

/-- What a build reports fits with what it did: each entry of the walk is counted once, the records
that were found are the ones there are more, and these stand behind the old ones, under each name
and among the names. -/
structure Accounts (root : Folder) (i : Index) (stats : BuildStats) (after : Index) : Prop where
  entries : stats.filesIndexed + stats.filesSkipped + stats.errors = (i.walk root).length
  records : after.records.length = i.records.length + stats.symbolsFound
  names : i.symbols.map Prod.fst <+: after.symbols.map Prod.fst
  lists : ∀ name, listUnder name i.symbols <+: listUnder name after.symbols

theorem update_fst (root : Folder) (now : Timestamp) (force : Bool) (i : Index) :
    (i.update root now force).1 = ((i.walk root).foldl (visit force) ({}, i)).1 := by
  unfold update
  generalize (i.walk root).foldl (visit force) ({}, i) = walked
  rfl

theorem update_accounts (root : Folder) (now : Timestamp) (force : Bool) (i : Index) :
    Accounts root i (i.update root now force).1 (i.update root now force).2 := by
  obtain ⟨new, adds⟩ := foldl_visit_adds force (i.walk root) ({}, i)
  rw [update_fst, update_snd]
  generalize (i.walk root).foldl (visit force) ({}, i) = walked at adds
  have symbols : walked.2.symbols = addSymbolsUnder i.symbols new := adds.symbols
  have found : walked.1.symbolsFound = new.length := by
    rw [adds.found]
    exact Nat.zero_add _
  refine ⟨?_, ?_, ?_, fun name => ?_⟩
  · exact adds.entries.trans (Nat.zero_add _)
  · simp only [records]
    rw [symbols, found]
    exact length_addSymbolsUnder new i.symbols
  · dsimp only
    rw [symbols]
    exact names_addSymbolsUnder new i.symbols
  · dsimp only
    rw [symbols, listUnder_addSymbolsUnder]
    exact List.prefix_append _ _

/-! ### With a table of files -/

/-- The files among the entries of a walk that are due, with their contents. -/
def dueFiles (force : Bool) (i : Index) (table : List (CodeText × Json))
    (found : List (List String × Entry)) : List (String × List UInt8) :=
  found.filterMap fun e =>
    match e.2 with
    | .folder _ => none
    | .file content =>
      if due force i table ("/".intercalate e.1) content then
        some ("/".intercalate e.1, content)
      else none

theorem dueFiles_append (force : Bool) (i : Index) (table : List (CodeText × Json))
    (first second : List (List String × Entry)) :
    dueFiles force i table (first ++ second) =
      dueFiles force i table first ++ dueFiles force i table second :=
  List.filterMap_append

theorem dueFiles_file (force : Bool) (i : Index) (table : List (CodeText × Json))
    (place : List String) (content : List UInt8) :
    dueFiles force i table [(place, .file content)] =
      if due force i table ("/".intercalate place) content then
        [("/".intercalate place, content)]
      else [] := by
  cases isDue : due force i table ("/".intercalate place) content with
  | false => simp [dueFiles, isDue]
  | true => simp [dueFiles, isDue]

/-- A table of files, with the digests of contents noted one after the other. -/
def noteAll (table : List (CodeText × Json)) (taken : List (String × List UInt8)) :
    List (CodeText × Json) :=
  taken.foldl (fun table f => Json.setField f.1 (.str (Digest.ofBytes f.2)) table) table

/-- The symbols of files, file by file. -/
def symbolsOfAll (taken : List (String × List UInt8)) : List Symbol :=
  taken.flatMap fun f => fileSymbols f.1 f.2

theorem noteAll_append (table : List (CodeText × Json)) (first second : List (String × List UInt8)) :
    noteAll table (first ++ second) = noteAll (noteAll table first) second :=
  List.foldl_append

theorem symbolsOfAll_append (first second : List (String × List UInt8)) :
    symbolsOfAll (first ++ second) = symbolsOfAll first ++ symbolsOfAll second :=
  List.flatMap_append

/-- Whether an entry of a walk is a folder that is not left out. -/
def blocks (base : String) (e : List String × Entry) : Bool :=
  match e.2 with
  | .folder _ => !ignores (joinPath base ("/".intercalate e.1))
  | .file _ => false

/-- From one state of a build to another, files were taken in and folders were met. -/
structure TakesIn (before after : BuildStats × Index) (table : List (CodeText × Json))
    (taken : List (String × List UInt8)) (blocked : Nat) : Prop where
  index : after.2 = { before.2 with
    symbols := addSymbolsUnder before.2.symbols (symbolsOfAll taken)
    files := .obj (noteAll table taken) }
  indexed : after.1.filesIndexed = before.1.filesIndexed + taken.length
  found : after.1.symbolsFound = before.1.symbolsFound + (symbolsOfAll taken).length
  errors : after.1.errors = before.1.errors + blocked

theorem TakesIn.trans {first second third : BuildStats × Index} {table : List (CodeText × Json)}
    {taken later : List (String × List UInt8)} {m n : Nat} (one : TakesIn first second table taken m)
    (two : TakesIn second third (noteAll table taken) later n) :
    TakesIn first third table (taken ++ later) (m + n) where
  index := by
    rw [two.index, one.index, symbolsOfAll_append, addSymbolsUnder_append, noteAll_append]
  indexed := by rw [two.indexed, one.indexed, List.length_append, Nat.add_assoc]
  found := by rw [two.found, one.found, symbolsOfAll_append, List.length_append, Nat.add_assoc]
  errors := by rw [two.errors, one.errors, Nat.add_assoc]

/-- One entry of a walk. -/
theorem visit_takesIn (force : Bool) (stats : BuildStats) (i : Index)
    (table : List (CodeText × Json)) (files : i.files = .obj table) (e : List String × Entry) :
    TakesIn (stats, i) (visit force (stats, i) e) table (dueFiles force i table [e])
      ([e].countP (blocks i.base)) := by
  have same : i = { i with files := .obj table } := by rw [← files]
  obtain ⟨place, entry⟩ := e
  cases entry with
  | folder f =>
    rw [visit_at_folder]
    refine ⟨same, ?_, ?_, ?_⟩
    · split <;> rfl
    · split <;> rfl
    · rw [List.countP_singleton, blocks]
      dsimp only
      cases ignores (joinPath i.base ("/".intercalate place)) <;> rfl
  | file content =>
    rw [visit_at_file force stats i place content table files, dueFiles_file]
    split
    · have symbols : symbolsOfAll [("/".intercalate place, content)] =
          fileSymbols ("/".intercalate place) content :=
        List.flatMap_singleton _ _
      refine ⟨?_, rfl, by rw [symbols], rfl⟩
      rw [symbols, indexed, foldl_add]
      rfl
    · exact ⟨same, rfl, rfl, rfl⟩

theorem field?_noteAll_other (table : List (CodeText × Json)) (taken : List (String × List UInt8))
    (name : CodeText) (apart : ∀ f ∈ taken, (f.1 : CodeText) ≠ name) :
    Json.field? name (noteAll table taken) = Json.field? name table := by
  induction taken generalizing table with
  | nil => rfl
  | cons f rest ih =>
    rw [List.forall_mem_cons] at apart
    rw [noteAll, List.foldl_cons, ← noteAll, ih _ apart.2, Json.field?_setField, if_neg apart.1]

theorem field?_noteAll (table : List (CodeText × Json)) (taken : List (String × List UInt8))
    (distinct : (taken.map Prod.fst).Nodup) :
    ∀ f ∈ taken, Json.field? f.1 (noteAll table taken) = some (.str (Digest.ofBytes f.2)) := by
  induction taken generalizing table with
  | nil => simp
  | cons f rest ih =>
    rw [List.map_cons, List.nodup_cons] at distinct
    intro g member
    rw [noteAll, List.foldl_cons, ← noteAll]
    rcases List.mem_cons.mp member with rfl | later
    · rw [field?_noteAll_other, Json.field?_setField, if_pos rfl]
      intro h inside same
      rw [CodeText.ofString_inj] at same
      exact distinct.1 (same ▸ List.mem_map_of_mem inside)
    · exact ih _ distinct.2 g later

/-- The paths of the files that are due are some of those of the walk, in order. -/
theorem dueFiles_sublist (force : Bool) (i : Index) (table : List (CodeText × Json))
    (found : List (List String × Entry)) :
    ((dueFiles force i table found).map Prod.fst).Sublist
      (found.map fun e => "/".intercalate e.1) := by
  induction found with
  | nil => exact List.Sublist.refl _
  | cons e rest ih =>
    rw [← List.singleton_append, dueFiles_append, List.map_append, List.map_append]
    refine List.Sublist.append ?_ ih
    obtain ⟨place, entry⟩ := e
    cases entry with
    | folder f => exact List.nil_sublist _
    | file content =>
      rw [dueFiles_file]
      split
      · exact List.Sublist.refl _
      · exact List.nil_sublist _

/-- Which files are due is settled by what the table says of their own paths. -/
theorem dueFiles_congr (force : Bool) (i j : Index) (table other : List (CodeText × Json))
    (found : List (List String × Entry)) (base : j.base = i.base)
    (same : ∀ e ∈ found, Json.field? ("/".intercalate e.1 : String) other =
      Json.field? ("/".intercalate e.1 : String) table) :
    dueFiles force j other found = dueFiles force i table found := by
  refine List.filterMap_congr fun e member => ?_
  have equal : ∀ c, due force j other ("/".intercalate e.1) c =
      due force i table ("/".intercalate e.1) c := by
    intro c
    rw [due, due, base, same e member]
  simp only [equal]

/-- A walk over entries with different paths takes in the files that are due, and only these. -/
theorem foldl_visit_takesIn (force : Bool) (found : List (List String × Entry)) (stats : BuildStats)
    (i : Index) (table : List (CodeText × Json)) (files : i.files = .obj table)
    (distinct : (found.map fun e => "/".intercalate e.1).Nodup) :
    TakesIn (stats, i) (found.foldl (visit force) (stats, i)) table (dueFiles force i table found)
      (found.countP (blocks i.base)) := by
  induction found generalizing stats i table with
  | nil =>
    refine ⟨?_, rfl, rfl, rfl⟩
    change i = { i with files := .obj table }
    rw [← files]
  | cons e rest ih =>
    rw [List.map_cons, List.nodup_cons] at distinct
    have one := visit_takesIn force stats i table files e
    rw [List.foldl_cons, ← List.singleton_append, dueFiles_append, List.countP_append]
    generalize visit force (stats, i) e = next at one ⊢
    have base : next.2.base = i.base := by rw [one.index]
    have others := ih next.1 next.2 _ (by rw [one.index]) distinct.2
    rw [base, dueFiles_congr force i next.2 table _ rest base] at others
    · exact one.trans others
    · -- Taking this entry in says nothing about the path of a later one.
      intro later member
      refine field?_noteAll_other _ _ _ fun f inside same => ?_
      have here : f.1 ∈ [e].map fun e => "/".intercalate e.1 :=
        (dueFiles_sublist force i table [e]).subset (List.mem_map_of_mem inside)
      rw [List.map_singleton, List.mem_singleton, (CodeText.ofString_inj _ _).mp same] at here
      exact distinct.1 (here ▸ List.mem_map_of_mem member)

/-- What a build that can use its table of files does: it counts the files that it takes in, the
list of each name gets the symbols of that name from these files, and the table gets their digests
and stays as it was elsewhere. -/
structure Extends (i : Index) (table : List (CodeText × Json)) (taken : List (String × List UInt8))
    (stats : BuildStats) (after : Index) : Prop where
  indexed : stats.filesIndexed = taken.length
  lists : ∀ name, listUnder name after.symbols = listUnder name i.symbols ++
    ((taken.flatMap fun f => fileSymbols f.1 f.2).filter fun s =>
      (s.name : CodeText) == name).map Symbol.record
  files : ∃ table', after.files = .obj table' ∧
    (∀ f ∈ taken, Json.field? f.1 table' = some (.str (Digest.ofBytes f.2))) ∧
    ∀ name : CodeText, (∀ f ∈ taken, (f.1 : CodeText) ≠ name) →
      Json.field? name table' = Json.field? name table

theorem update_extends (root : Folder) (now : Timestamp) (force : Bool) (i : Index)
    (table : List (CodeText × Json)) (files : i.files = .obj table) (well : root.WellFormed) :
    Extends i table (dueFiles force i table (i.walk root)) (i.update root now force).1
      (i.update root now force).2 := by
  have distinct := nodup_walked _ (listFolder_wellFormed root i.base well)
  have takes := foldl_visit_takesIn force (i.walk root) {} i table files distinct
  have paths := (dueFiles_sublist force i table (i.walk root)).nodup distinct
  rw [update_fst, update_snd, takes.index]
  refine ⟨takes.indexed.trans (Nat.zero_add _),
    fun name => listUnder_addSymbolsUnder name _ i.symbols, _, rfl, ?_, ?_⟩
  · exact field?_noteAll table _ paths
  · exact field?_noteAll_other table _

end Index

/-! ### The numbers that a service gives -/

/-- The index that the requests of a session share. -/
def Session.shared (s : Session) : Index :=
  s.index.getD ((Index.empty ".").load s.root).2

theorem runIn_sharedIndex_eq (s : Session) :
    sharedIndex.runIn s = (.ok s.shared, { s with index := some s.shared }) := by
  rw [sharedIndex, runIn_bind_ok (runIn_get _), Session.shared]
  split
  · rename_i i known
    rw [known, Option.getD_some, ← known]
    rfl
  · rename_i fresh
    rw [fresh, Option.getD_none]
    generalize (Index.empty ".").load s.root = loaded
    rfl

theorem runIn_rebuildShared (s : Session) (force : Bool) :
    (rebuildShared force).runIn s =
      (.ok (s.shared.build s.root s.clock force).1,
        { s with
          index := some (s.shared.build s.root s.clock force).2.1
          root := (s.shared.build s.root s.clock force).2.2 }) := by
  rw [rebuildShared, runIn_bind_ok (runIn_sharedIndex_eq s), runIn_bind_ok (runIn_get _)]
  dsimp only
  generalize s.shared.build s.root s.clock force = built
  rfl

/-- What the service tells about an index. -/
def statsOf (i : Index) (files : Nat) : Json :=
  .obj [
    ("last_indexed", Json.ofString? (i.builtAt.map (·.text))),
    ("total_symbols", .int i.records.length),
    ("unique_symbols", .int i.symbols.length),
    ("files_indexed", .int files)]

theorem runIn_answer_stats (s : Session) (table : List (CodeText × Json))
    (files : s.shared.files = .obj table) :
    (Endpoint.stats.answer .null []).runIn s =
      (.ok (statsOf s.shared table.length), { s with index := some s.shared }) := by
  have asked : answerStats.runIn s =
      (.ok (statsOf s.shared table.length), { s with index := some s.shared }) := by
    rw [answerStats, runIn_bind_ok (runIn_sharedIndex_eq s)]
    generalize s.shared = i at files ⊢
    rw [files]
    rfl
  change (guarded answerStats).runIn s = _
  rw [guarded, runIn_bind_ok (runIn_attempt _ _), asked]
  rfl

theorem runIn_answer_build (s : Session) (force : Bool) :
    (Endpoint.build.answer .null [("force", .bool force)]).runIn s =
      (.ok (.obj [("status", .str "success"),
        ("stats", (s.shared.build s.root s.clock force).1.toJson)]),
        { s with
          index := some (s.shared.build s.root s.clock force).2.1
          root := (s.shared.build s.root s.clock force).2.2 }) := by
  have asked : (Endpoint.build.answer .null [("force", .bool force)]).runIn s =
      (guarded (answerBuild force)).runIn s := rfl
  rw [asked, guarded, runIn_bind_ok (runIn_attempt _ _), answerBuild,
    runIn_bind_ok (runIn_rebuildShared s force)]
  rfl

/-- A build accounts for every entry of its walk and every record that it adds, and takes nothing
away. If the index has a table of files, the build takes in just the files that are due, in the
order of the walk, and the number of records that the service tells grows by the number that the
build reports. -/
theorem build_accounts (root : Folder) (now : Timestamp) (force : Bool) (i : Index)
    (well : root.WellFormed) :
    let built := i.build root now force
    Index.Accounts root i built.1 built.2.1 ∧
      ∀ table, i.files = .obj table →
        Index.Extends i table (Index.dueFiles force i table (i.walk root)) built.1 built.2.1 ∧
        ∀ s : Session, s.shared = i → s.root = root → s.clock = now →
          ∃ before told after t u v,
            (Endpoint.stats.answer .null []).runIn s = (.ok before, t) ∧
            (Endpoint.build.answer .null [("force", .bool force)]).runIn t = (.ok told, u) ∧
            (Endpoint.stats.answer .null []).runIn u = (.ok after, v) ∧
            told.get? "stats" = some built.1.toJson ∧
            ∃ total : Nat, before.get? "total_symbols" = some (.int total) ∧
              after.get? "total_symbols" = some (.int (total + built.1.symbolsFound : Nat)) := by
  intro built
  have accounts : Index.Accounts root i built.1 built.2.1 := Index.update_accounts root now force i
  refine ⟨accounts, fun table files => ?_⟩
  have extends_ :
      Index.Extends i table (Index.dueFiles force i table (i.walk root)) built.1 built.2.1 :=
    Index.update_extends root now force i table files well
  refine ⟨extends_, ?_⟩
  rintro s rfl rfl rfl
  obtain ⟨table', files', -⟩ := extends_.files
  have first := runIn_answer_stats s table files
  have second := runIn_answer_build { s with index := some s.shared } force
  have third := runIn_answer_stats
    { s with index := some built.2.1, root := built.2.2 } table' files'
  refine ⟨_, _, _, _, _, _, first, second, third, rfl, s.shared.records.length, rfl, ?_⟩
  rw [← accounts.records]
  rfl

theorem shared_oneVariableSession : oneVariableSession.shared = Index.empty "." := by
  have loaded := Index.load_unsaved Index.oneVariable Index.unsaved_paths_oneVariable
  change ((Index.empty ".").load Index.oneVariable).2 = _
  rw [loaded]

theorem dueFiles_oneVariable :
    Index.dueFiles false (Index.empty ".") [] ((Index.empty ".").walk Index.oneVariable) =
      [("a.py", Text.encode "a=1")] := by
  have walked : (Index.empty ".").walk Index.oneVariable =
      [(["a.py"], .file (Text.encode "a=1"))] := rfl
  have isDue : Index.due false (Index.empty ".") [] ("/".intercalate ["a.py"])
      (Text.encode "a=1") = true := by
    decide
  rw [walked, Index.dueFiles_file, if_pos isDue, String.intercalate_singleton]

theorem build_accounts_oneVariable :
    Index.oneVariable.WellFormed ∧ (Index.empty ".").files = .obj [] ∧
      oneVariableSession.shared = Index.empty "." ∧
      (let built := (Index.empty ".").build Index.oneVariable Index.someDay false
      Index.Accounts Index.oneVariable (Index.empty ".") built.1 built.2.1 ∧
        Index.Extends (Index.empty ".") [] [("a.py", Text.encode "a=1")] built.1 built.2.1 ∧
        ∃ before told after t u v,
          (Endpoint.stats.answer .null []).runIn oneVariableSession = (.ok before, t) ∧
          (Endpoint.build.answer .null [("force", .bool false)]).runIn t = (.ok told, u) ∧
          (Endpoint.stats.answer .null []).runIn u = (.ok after, v) ∧
          told.get? "stats" = some built.1.toJson ∧
          ∃ total : Nat, before.get? "total_symbols" = some (.int total) ∧
            after.get? "total_symbols" = some (.int (total + built.1.symbolsFound : Nat))) := by
  have well : Index.oneVariable.WellFormed := Index.wellFormed_oneVariable
  obtain ⟨accounts, tabled⟩ :=
    build_accounts Index.oneVariable Index.someDay false (Index.empty ".") well
  obtain ⟨extends_, served⟩ := tabled [] rfl
  rw [dueFiles_oneVariable] at extends_
  exact ⟨well, rfl, shared_oneVariableSession, accounts, extends_,
    served oneVariableSession shared_oneVariableSession rfl rfl⟩

end VoiceDebugger
