import VoiceDebugger.Index.Shared
import VoiceDebugger.Proofs.Index.History
import VoiceDebugger.Proofs.Index.Lookup
import VoiceDebugger.Proofs.Session.Run

/-!
A search of the index finds what a search of the files finds.

Both go through the same statements: what defines a name as a hit is also a symbol, and symbols that
are left out are there already. After the first build each source has exactly the records of its
content, so a search that is not cut off meets all of them.
-/

namespace VoiceDebugger

open Source (Stmt)

/-! ### Definitions are symbols -/

/-- The kind of the symbol that a hit stands for. -/
def DefinitionHit.symbolKind (h : DefinitionHit) : String :=
  if h.kind = "assignment" then SymbolKind.variableName.word else h.kind

/-- A symbol that is what a hit shows. -/
structure Symbol.Shows (x : Symbol) (name : String) (hit : DefinitionHit) : Prop where
  name : x.name = name
  file : x.file = hit.file
  line : x.line = hit.line
  kind : x.kind.word = hit.symbolKind

theorem Source.Stmt.symbols_show (s : Stmt) (name file : String) (hit : DefinitionHit)
    (found : hit ∈ definitionsOf name file s) : ∃ x ∈ s.symbols file, x.Shows name hit := by
  unfold definitionsOf at found
  unfold Source.Stmt.symbols
  split at found
  · next n params body _ _ form =>
    split at found
    · next same =>
      obtain rfl := List.mem_singleton.mp found
      rw [form]
      exact ⟨_, List.mem_singleton_self _, beq_iff_eq.mp same, rfl, rfl, rfl⟩
    · cases found
  · next n bases _ body _ form =>
    split at found
    · next same =>
      obtain rfl := List.mem_singleton.mp found
      rw [form]
      exact ⟨_, List.mem_singleton_self _, beq_iff_eq.mp same, rfl, rfl, rfl⟩
    · cases found
  · next targets _ form =>
    obtain ⟨target, member, taken⟩ := List.mem_filterMap.mp found
    rw [form]
    split at taken
    · next id named =>
      split at taken
      · next same =>
        obtain rfl := Option.some.inj taken
        have plain : target.plainName? = some id := by rw [Source.Expr.plainName?, named]
        refine ⟨_, List.mem_map_of_mem (List.mem_filterMap.mpr ⟨target, member, plain⟩),
          beq_iff_eq.mp same, rfl, rfl, rfl⟩
      · cases taken
    · cases taken
  · cases found

/-- Every definition in a file is one of its symbols. -/
theorem fileSymbols_show (location name : String) (place : List String) (e : Entry)
    (hit : DefinitionHit) (found : hit ∈ definitionsInFile location name (place, e)) :
    ∃ content, e = .file content ∧ isIgnored (joinPath location ("/".intercalate place)) = false ∧
      ∃ x ∈ fileSymbols ("/".intercalate place) content, x.Shows name hit := by
  rw [definitionsInFile] at found
  split at found
  · cases found
  · next searched =>
    split at found
    · cases found
    · next content file =>
      split at found
      · cases found
      · next body tree =>
        obtain ⟨s, member, defines⟩ := List.mem_flatMap.mp found
        obtain ⟨x, own, shows⟩ := s.symbols_show name _ hit defines
        rw [Source.walkThrough_eq, Source.mem_breadthFirst_iff] at member
        exact ⟨content, file, by simpa using searched, x,
          (mem_fileSymbols _ content body tree x).mpr ⟨s, member, own⟩, shows⟩

theorem suffix_joinPath (base path : String) : path.toList <:+ (joinPath base path).toList := by
  rw [joinPath]
  split
  · exact List.suffix_refl _
  · split
    · rw [String.toList_append]
      exact List.suffix_append _ _
    · rw [String.toList_append]
      exact List.suffix_append _ _

/-- A path that is kept is kept in any workspace that it leads into. -/
theorem isIgnored_of_joinPath (location path : String)
    (kept : isIgnored (joinPath location path) = false) : isIgnored path = false := by
  rw [isIgnored, holdsAny, List.any_eq_false] at kept ⊢
  intro name listed inside
  refine kept name listed ?_
  rw [Text.contains, Text.occursIn_iff_infix] at inside ⊢
  exact inside.trans (suffix_joinPath location path).isInfix

/-! ### Searching records -/

theorem Text.contains_self (s : String) : Text.contains s s = true :=
  (Text.occursIn_iff_infix _ _).mpr (List.infix_refl _)

/-- Whether the name of a record holds a text, case left aside. -/
def Record.nameHolds (query : String) (r : Record) : Bool :=
  match r.name with
  | .str name => Index.nameHolds query name
  | _ => false

namespace Index

theorem nameHolds_self (name : CodeText) : nameHolds name name = true :=
  (Text.occursIn_iff_infix _ _).mpr (List.infix_refl _)

/-- A search goes by the names of groups, and so by the names of records. -/
theorem found_eq_filter (i : Index) (grouped : Grouped i.symbols) (query : String) :
    i.found query none = i.records.filter (Record.nameHolds query) := by
  have named := grouped.named
  rw [found, records]
  generalize i.symbols = groups at named
  induction groups with
  | nil => rfl
  | cons g rest ih =>
    rw [List.forall_mem_cons] at named
    have own : ∀ r ∈ g.2, Record.nameHolds query r = nameHolds query g.1 := by
      intro r member
      rw [Record.nameHolds, named.1.2 r member]
    rw [List.flatMap_cons, List.filter_append, ← ih named.2, List.filter_cons,
      List.filter_congr own]
    cases nameHolds query g.1 with
    | false => simp
    | true => simp [isOfKind]

/-- A search that is not cut off returns every record of the name. -/
theorem mem_search (i : Index) (grouped : Grouped i.symbols) (name : String) (r : Record)
    (few : (i.records.filter (Record.nameHolds name)).length ≤ 50) (member : r ∈ i.records)
    (named : r.name = .str name) : r ∈ i.search name none defaultLimit := by
  have limit : (max defaultLimit 1).toNat = 50 := rfl
  rw [search_eq_take, found_eq_filter i grouped, limit, List.take_of_length_le few]
  refine List.mem_filter.mpr ⟨member, ?_⟩
  rw [Record.nameHolds, named]
  exact nameHolds_self name

/-! ### The first build -/

/-- No path of a workspace holds the name of a saved index. -/
def Unsaved (root : Folder) : Prop :=
  ∀ place e, Entry.at? place (.folder root) = some e →
    Text.contains ("/".intercalate place) fileName = false

theorem listFolder_here (root : Folder) : listFolder root "." = root := rfl

/-- Where nothing is saved, a load leaves the index as it is. -/
theorem load_unsaved (root : Folder) (unsaved : Unsaved root) :
    (Index.empty ".").load root = (false, Index.empty ".") := by
  have absent : (Index.empty ".").readSaved root = none := by
    rw [readSaved]
    cases bytes : readBytes root (Index.empty ".").savedAt with
    | error fault => rfl
    | ok content =>
      have named : ∀ n ∈ Text.splitOn '/' fileName, IsName n := by decide
      have read := (readBytes_ok_iff root _ content).mp (congrArg Except.toOption bytes)
      have lies := (resolve_joinPath root "." fileName _ isName_fileName.relative named).mp read
      have apart := unsaved _ _ lies
      rw [Text.intercalate_splitOn, Text.contains_self] at apart
      cases apart
  rw [load, absent]

/-- The first build has of each source exactly the records of its content. -/
theorem inFile_first_build (root : Folder) (now : Timestamp) (force : Bool) (well : root.WellFormed)
    (file : String) (content : List UInt8) (source : sourceAt? root "." file = some content) :
    (((Index.empty ".").update root now force).2.inFile (.str file)).Perm
      (fileRecords file content) := by
  obtain ⟨-, tracks⟩ := tracks_update root now force (Index.empty ".") (fun _ => [])
    (listFolder_wellFormed root _ well) (tracks_empty ".")
  have here : sourceAt? root (Index.empty ".").base file = some content := source
  have looked : lookInto force (some content) [] = [content] := by cases force <;> rfl
  have records := tracks.records file
  rw [here, looked, List.flatMap_singleton] at records
  exact records

theorem grouped_first_build (root : Folder) (now : Timestamp) (force : Bool) :
    ((Index.empty ".").update root now force).2.base = "." ∧
      Grouped ((Index.empty ".").update root now force).2.symbols := by
  obtain ⟨base, consistent⟩ :=
    walked_consistent root force (Index.empty ".") (consistent_empty ".")
  rw [update_snd]
  exact ⟨base, consistent.grouped⟩

/-- A save in the workspace itself changes nothing that a walk over its sources finds. -/
theorem mem_walk_save (root : Folder) (i : Index) (here : i.base = ".") (well : root.WellFormed)
    (found : List String × Entry) :
    found ∈ (i.save root).walk isSourceName ↔ found ∈ root.walk isSourceName := by
  have saved := wellFormed_save root i (listFolder_wellFormed root _ well)
  have same := at?_save root i
  rw [here, listFolder_here] at saved
  simp only [here, listFolder_here] at same
  obtain ⟨place, e⟩ := found
  rw [Folder.mem_walk _ _ saved, Folder.mem_walk _ _ well]
  refine exists_congr fun front => exists_congr fun name => and_congr_right fun parts =>
    and_congr_right fun source => ?_
  rw [same place (by rw [parts]; exact isSourceName_intercalate front name source)]

/-- What a search of the files finds after the first build is among the records. -/
theorem record_of_definition (location : String) (root : Folder) (now : Timestamp) (force : Bool)
    (well : root.WellFormed) (unsaved : Unsaved root) (name : String) (hit : DefinitionHit)
    (found : hit ∈ searchDefinitions location
      (((Index.empty ".").update root now force).2.save root) name) :
    ∃ x : Symbol, x.Shows name hit ∧
      x.record ∈ ((Index.empty ".").update root now force).2.records := by
  obtain ⟨base, -⟩ := grouped_first_build root now force
  obtain ⟨⟨place, e⟩, walked, defined⟩ := List.mem_flatMap.mp found
  rw [mem_walk_save root _ base well] at walked
  obtain ⟨content, rfl, searched, x, own, shows⟩ :=
    fileSymbols_show location name place e hit defined
  have kept : ignores (joinPath "." ("/".intercalate place)) = false := by
    obtain ⟨-, -, -, -, lies⟩ := (Folder.mem_walk _ _ well _ _).mp walked
    have searched := isIgnored_of_joinPath location _ searched
    rw [isIgnored, holdsAny] at searched
    change holdsAny (ignoredNames ++ [fileName]) ("/".intercalate place) = false
    rw [holdsAny, List.any_append, searched, List.any_cons, unsaved place _ lies]
    rfl
  have source : sourceAt? root "." ("/".intercalate place) = some content :=
    (sourceAt?_iff_mem_walk root "." _ content (listFolder_wellFormed root _ well)).mpr
      ⟨place, walked, rfl, kept⟩
  have member := (inFile_first_build root now force well _ content source).mem_iff.mpr
    (List.mem_map_of_mem own)
  exact ⟨x, shows, (List.mem_filter.mp member).1⟩

end Index

/-! ### Sessions -/

open VoiceDebugger.Action

theorem runIn_sharedIndex (s : Session) (i : Index) (shared : s.index = some i) :
    sharedIndex.runIn s = (.ok i, s) := by
  rw [sharedIndex, runIn_bind_ok (runIn_get _), shared]
  rfl

theorem runIn_sharedIndex_unsaved (s : Session) (fresh : s.index = none)
    (unsaved : Index.Unsaved s.root) :
    sharedIndex.runIn s = (.ok (Index.empty "."), { s with index := some (Index.empty ".") }) := by
  rw [sharedIndex, runIn_bind_ok (runIn_get _), fresh, Index.load_unsaved s.root unsaved]
  rfl

/-- What the first build of a session comes to, where nothing was saved. -/
theorem runIn_rebuildShared_unsaved (s : Session) (force : Bool) (fresh : s.index = none)
    (unsaved : Index.Unsaved s.root) :
    (rebuildShared force).runIn s =
      (.ok ((Index.empty ".").update s.root s.clock force).1,
        { s with
          index := some ((Index.empty ".").update s.root s.clock force).2
          root := ((Index.empty ".").update s.root s.clock force).2.save s.root }) := by
  rw [rebuildShared, runIn_bind_ok (runIn_sharedIndex_unsaved s fresh unsaved),
    runIn_bind_ok (runIn_get _)]
  rfl

/-- Names are looked up in the shared index, and in the files only if that has none. -/
theorem runIn_findSymbols (t : Session) (i : Index) (name : String) (shared : t.index = some i) :
    (findSymbols name (.str "python") true).runIn t =
      (.ok (if (i.search name none Index.defaultLimit).isEmpty then
          .definitions (searchDefinitions t.location t.root name)
        else .records (i.search name none Index.defaultLimit)), t) := by
  have known : (knownRecords name true).runIn t =
      (.ok (i.search name none Index.defaultLimit), t) := by
    rw [knownRecords]
    simp only [↓reduceIte]
    rw [runIn_bind_ok (runIn_sharedIndex t i shared)]
    rfl
  have python : (Json.str "python").same (.str "python") = true := by decide
  rw [findSymbols, if_pos python, runIn_bind_ok known, CodeText.shown_ofString]
  split
  · rfl
  · rfl

/-- After the first build of a session, and while nothing changes, looking a name up finds each of
its definitions in the source files, as long as the index has no more records for the name than are
returned. -/
theorem definitions_found_by_index (s : Session) (force : Bool) (fresh : s.index = none)
    (well : s.root.WellFormed) (unsaved : Index.Unsaved s.root) :
    ∃ stats i s₁, (rebuildShared force).runIn s = (.ok stats, s₁) ∧ s₁.index = some i ∧
      ∀ (t : Session) (name : String), t.root = s₁.root → t.index = s₁.index →
        (i.records.filter (Record.nameHolds name)).length ≤ 50 →
        ∃ hits, (findSymbols name (.str "python") true).runIn t = (.ok hits, t) ∧
          ∀ hit ∈ searchDefinitions t.location t.root name, ∃ v ∈ hits.toJson,
            v.get? "file" = some (.str hit.file) ∧ v.get? "line" = some (.int hit.line) ∧
              v.get? "kind" = some (.str hit.symbolKind) := by
  refine ⟨_, _, _, runIn_rebuildShared_unsaved s force fresh unsaved, rfl, ?_⟩
  intro t name sameRoot sameIndex few
  dsimp only at sameRoot sameIndex
  refine ⟨_, runIn_findSymbols t _ name sameIndex, fun hit found => ?_⟩
  rw [sameRoot] at found
  obtain ⟨x, shows, member⟩ :=
    Index.record_of_definition t.location s.root s.clock force well unsaved name hit found
  have returned := Index.mem_search _ (Index.grouped_first_build s.root s.clock force).2 name
    x.record few member (by rw [Symbol.record, shows.name])
  rw [if_neg (by simpa using List.ne_nil_of_mem returned)]
  refine ⟨x.record.toJson, List.mem_map_of_mem returned, ?_, ?_, ?_⟩
  · rw [← shows.file]
    rfl
  · rw [← shows.line]
    rfl
  · rw [← shows.kind]
    rfl

/-! ### A workspace with one definition -/

namespace Index

theorem unsaved_paths_oneVariable : Unsaved oneVariable := by
  intro place e lies
  rcases place with _ | ⟨first, _ | ⟨next, more⟩⟩
  · decide
  · have named : first = "a.py" := by
      by_contra differ
      simp [oneVariable, Entry.at?, Folder.find?, Ne.symm differ] at lies
    subst named
    decide
  · simp only [oneVariable, Entry.at?, Folder.find?] at lies
    split at lies <;> simp [Entry.at?] at lies

theorem records_oneVariable :
    ((Index.empty ".").update oneVariable someDay false).2.records =
      [Symbol.record
        { name := "a", kind := .variableName, file := "a.py", line := 1, column := 0 }] := by
  have walked : (Index.empty ".").walk oneVariable = [(["a.py"], .file (Text.encode "a=1"))] := rfl
  have isDue :
      due false (Index.empty ".") [] ("/".intercalate ["a.py"]) (Text.encode "a=1") = true := by
    decide
  rw [update_snd, walked, List.foldl_cons, List.foldl_nil, visit_file false {} _ _ _ [] rfl, isDue,
    if_pos rfl, String.intercalate_singleton, indexed, fileSymbols_oneVariable]
  rfl

theorem definitionsInFile_oneVariable :
    definitionsInFile "/ws" "a" (["a.py"], .file (Text.encode "a=1")) =
      [⟨"a.py", 1, "assignment", "a = ..."⟩] := by
  have searched : isIgnored (joinPath "/ws" ("/".intercalate ["a.py"])) = false := by decide
  rw [definitionsInFile, searched]
  simp only [treeOfFile_oneVariable]
  cbv

theorem mem_searchDefinitions_oneVariable :
    ⟨"a.py", 1, "assignment", "a = ..."⟩ ∈ searchDefinitions "/ws"
      (((Index.empty ".").update oneVariable someDay false).2.save oneVariable) "a" := by
  obtain ⟨base, -⟩ := grouped_first_build oneVariable someDay false
  refine List.mem_flatMap.mpr ⟨(["a.py"], .file (Text.encode "a=1")), ?_, ?_⟩
  · rw [mem_walk_save _ _ base wellFormed_oneVariable]
    exact List.mem_singleton_self _
  · rw [definitionsInFile_oneVariable]
    exact List.mem_singleton_self _

end Index

/-- A session that has just begun in a workspace of one file. -/
def oneVariableSession : Session where
  root := Index.oneVariable
  clock := Index.someDay

theorem definitions_found_by_index_oneVariable :
    oneVariableSession.index = none ∧ oneVariableSession.root.WellFormed ∧
      Index.Unsaved oneVariableSession.root ∧
      ∃ stats s₁ hits, (rebuildShared false).runIn oneVariableSession = (.ok stats, s₁) ∧
        (findSymbols "a" (.str "python") true).runIn s₁ = (.ok hits, s₁) ∧
        ∃ v ∈ hits.toJson, v.get? "file" = some (.str "a.py") ∧ v.get? "line" = some (.int 1) ∧
          v.get? "kind" = some (.str "variable") := by
  have fresh : oneVariableSession.index = none := rfl
  have root : oneVariableSession.root = Index.oneVariable := rfl
  have clock : oneVariableSession.clock = Index.someDay := rfl
  have well : oneVariableSession.root.WellFormed := Index.wellFormed_oneVariable
  have unsaved : Index.Unsaved oneVariableSession.root := Index.unsaved_paths_oneVariable
  obtain ⟨stats, i, s₁, built, shared, covers⟩ :=
    definitions_found_by_index oneVariableSession false fresh well unsaved
  have first := runIn_rebuildShared_unsaved oneVariableSession false fresh unsaved
  rw [built, Prod.mk.injEq, root, clock] at first
  obtain ⟨-, after⟩ := first
  have few : (i.records.filter (Record.nameHolds "a")).length ≤ 50 := by
    rw [after] at shared
    have same : ((Index.empty ".").update Index.oneVariable Index.someDay false).2 = i :=
      Option.some.inj shared
    have one : i.records.length = 1 := by
      rw [← same, Index.records_oneVariable, List.length_singleton]
    have fewer := List.length_filter_le (Record.nameHolds "a") i.records
    omega
  have saved : s₁.root =
      ((Index.empty ".").update Index.oneVariable Index.someDay false).2.save Index.oneVariable := by
    rw [after]
  have place : s₁.location = "/ws" := by
    rw [after]
    rfl
  have defined : ⟨"a.py", 1, "assignment", "a = ..."⟩ ∈
      searchDefinitions s₁.location s₁.root "a" := by
    rw [saved, place]
    exact Index.mem_searchDefinitions_oneVariable
  obtain ⟨hits, looked, among⟩ := covers s₁ "a" rfl rfl few
  exact ⟨fresh, well, unsaved, stats, s₁, hits, built, looked, among _ defined⟩

end VoiceDebugger
