import VoiceDebugger.Proofs.Workspace.Place

/-!
What is written below a folder is read back there, and the folder is as before else.

A base path may be anything, also one that leads up and down again; a name below it is one part.
-/

namespace VoiceDebugger

/-! ### Names -/

/-- What an entry of a folder can be called. -/
structure IsName (name : String) : Prop where
  nonempty : name ≠ ""
  notHere : name ≠ "."
  notUp : name ≠ ".."
  whole : '/' ∉ name.toList
  text : '\x00' ∉ name.toList
  short : (Text.encode name).length ≤ maxNameBytes

instance : DecidablePred IsName := fun name =>
  decidable_of_iff
    (name ≠ "" ∧ name ≠ "." ∧ name ≠ ".." ∧ '/' ∉ name.toList ∧ '\x00' ∉ name.toList ∧
      (Text.encode name).length ≤ maxNameBytes)
    ⟨fun ⟨a, b, c, d, e, f⟩ => ⟨a, b, c, d, e, f⟩, fun ⟨a, b, c, d, e, f⟩ => ⟨a, b, c, d, e, f⟩⟩

theorem IsName.skipped {name : String} (named : IsName name) :
    (name == "" || name == ".") = false := by
  simp [named.nonempty, named.notHere]

theorem IsName.up {name : String} (named : IsName name) : (name == "..") = false := by
  simp [named.notUp]

theorem IsName.splitOn {name : String} (named : IsName name) : Text.splitOn '/' name = [name] :=
  Text.splitOn_whole name named.whole

/-- Names lead to the entry at the place that they spell. -/
theorem follow_names (path : String) (above : List Folder) (e x : Entry) (parts : List String)
    (named : ∀ n ∈ parts, IsName n) :
    follow path above e parts = .ok x ↔ Entry.at? parts e = some x := by
  induction parts generalizing above e with
  | nil =>
    rw [follow_nil, Entry.at?]
    simp
  | cons part rest ih =>
    have head : IsName part := named part List.mem_cons_self
    cases e with
    | file content =>
      rw [Entry.at?]
      exact ⟨fun h => (by cases h), fun h => (by cases h)⟩
    | folder f =>
      rw [follow_name path part above f rest head.skipped head.up,
        if_neg (Nat.not_lt.mpr head.short), Entry.at?]
      cases entry : Folder.find? part f with
      | none => simp
      | some y => exact ih (f :: above) y fun n member => named n (List.mem_cons_of_mem _ member)

theorem follow_path (path other : String) (above : List Folder) (e x : Entry) (parts : List String)
    (found : follow path above e parts = .ok x) : follow other above e parts = .ok x := by
  obtain ⟨above', goes⟩ := follow_append path other above e x parts found
  have last := goes []
  rw [List.append_nil, follow_nil] at last
  exact last

/-! ### Joined paths -/

/-- Whether a path starts from the current folder. -/
def isRelative (path : String) : Bool :=
  !path.toList.contains '\x00' && !(path.isEmpty || path.toList.head? == some '/')

theorem resolve_relative (root : Folder) (path : String) (relative : isRelative path = true) :
    resolve root path = follow path [] (.folder root) (Text.splitOn '/' path) := by
  simp only [isRelative, Bool.and_eq_true, Bool.not_eq_true'] at relative
  rw [resolve, relative.1, relative.2]
  rfl

theorem isRelative_of_resolve (root : Folder) (path : String) (x : Entry)
    (found : resolve root path = .ok x) : isRelative path = true := by
  rw [resolve] at found
  split at found
  · cases found
  split at found
  · cases found
  · rename_i text start
    simp only [isRelative, text, start, Bool.not_false, Bool.and_self]

theorem isRelative_iff (path : String) :
    isRelative path = true ↔
      '\x00' ∉ path.toList ∧ path.toList ≠ [] ∧ path.toList.head? ≠ some '/' := by
  simp [isRelative]

theorem isRelative_joinPath (base rest : String) (relative : isRelative rest = true) :
    isRelative (joinPath base rest) = isRelative base := by
  by_cases here : base = "."
  · subst here
    exact relative
  by_cases top : base = "/"
  · subst top
    simp [joinPath, isRelative]
  have joined : (joinPath base rest).toList = base.toList ++ '/' :: rest.toList := by
    simp [joinPath, here, top]
  rw [Bool.eq_iff_iff, isRelative_iff, isRelative_iff, joined]
  rw [isRelative_iff] at relative
  cases base.toList with
  | nil => simp
  | cons c cs => simp [relative.1]

/-- A joined path leads on from where its base leads. -/
theorem follow_joinPath (path : String) (f : Folder) (base rest : String) (below : base ≠ "/") :
    follow path [] (.folder f) (Text.splitOn '/' (joinPath base rest)) =
      follow path [] (.folder f) (Text.splitOn '/' base ++ Text.splitOn '/' rest) := by
  by_cases here : base = "."
  · subst here
    rfl
  · simp only [joinPath, beq_iff_eq, here, below, ↓reduceIte, Text.splitOn_append]

theorem ne_slash_of_isRelative (base : String) (relative : isRelative base = true) :
    base ≠ "/" := by
  rintro rfl
  cases relative

/-- What lies below the folder that a base leads to. -/
theorem resolve_joinPath (root : Folder) (base rest : String) (x : Entry)
    (relative : isRelative rest = true) (named : ∀ n ∈ Text.splitOn '/' rest, IsName n) :
    resolve root (joinPath base rest) = .ok x ↔
      Entry.at? (Text.splitOn '/' rest) (.folder (listFolder root base)) = some x := by
  have nothing : Entry.at? (Text.splitOn '/' rest) (.folder []) ≠ some x := by
    obtain ⟨first, more, parts⟩ := List.exists_cons_of_ne_nil
      (show Text.splitOn '/' rest ≠ [] by simp [Text.splitOn, Text.splitAtChar_ne_nil])
    rw [parts, Entry.at?]
    simp [Folder.find?]
  cases whole : isRelative base with
  | false =>
    have absent : ∀ y, resolve root base ≠ .ok y := by
      intro y found
      rw [isRelative_of_resolve root base y found] at whole
      cases whole
    have empty : listFolder root base = [] := by
      rw [listFolder]
      split
      · rename_i f found
        exact absurd found (absent _)
      · rfl
    rw [empty]
    refine ⟨fun found => ?_, fun found => absurd found nothing⟩
    rw [← isRelative_joinPath base rest relative] at whole
    rw [isRelative_of_resolve root _ x found] at whole
    cases whole
  | true =>
    have joined := isRelative_joinPath base rest relative
    rw [resolve_relative root _ (joined.trans whole),
      follow_joinPath _ root base rest (ne_slash_of_isRelative base whole), listFolder,
      resolve_relative root base whole]
    cases found : follow base [] (.folder root) (Text.splitOn '/' base) with
    | ok e =>
      obtain ⟨above, goes⟩ := follow_append base (joinPath base rest) [] _ e _ found
      rw [goes, follow_names _ above e x _ named]
      cases e with
      | folder f => rfl
      | file content =>
        refine ⟨fun there => ?_, fun there => absurd there nothing⟩
        obtain ⟨first, more, parts⟩ := List.exists_cons_of_ne_nil
          (show Text.splitOn '/' rest ≠ [] by simp [Text.splitOn, Text.splitAtChar_ne_nil])
        rw [parts] at there
        cases there
    | error fault =>
      refine ⟨fun there => ?_, fun there => absurd there nothing⟩
      cases first : follow (joinPath base rest) [] (.folder root) (Text.splitOn '/' base) with
      | ok e =>
        rw [follow_path _ base [] _ e _ first] at found
        cases found
      | error fault =>
        rw [follow_append_error _ [] _ fault _ _ first] at there
        cases there

/-! ### Writing below a base -/

/-- A folder that a base leads to, with a name in it that no folder has. -/
structure Writable (root : Folder) (base name : String) (f : Folder) : Prop where
  relative : isRelative base = true
  found : follow base [] (.folder root) (Text.splitOn '/' base) = .ok (.folder f)
  inside : leadsOut 0 ((Text.splitOn '/' base).filter isPlainPart) = false
  free : ∀ g, f.find? name ≠ some (.folder g)

theorem IsName.relative {name : String} (named : IsName name) : isRelative name = true := by
  rw [isRelative_iff]
  refine ⟨named.text, fun none_ => named.nonempty (by simpa using none_), fun slash => ?_⟩
  exact named.whole (List.mem_of_mem_head? slash)

theorem leadsOut_append_name (depth : Nat) (parts : List String) (name : String)
    (up : (name == "..") = false) : leadsOut depth (parts ++ [name]) = leadsOut depth parts := by
  induction parts generalizing depth with
  | nil => exact leadsOut_name depth name [] up
  | cons part rest ih =>
    rw [List.cons_append]
    by_cases higher : (part == "..") = true
    · rw [beq_iff_eq] at higher
      subst higher
      cases depth with
      | zero => rfl
      | succ depth => exact ih depth
    · rw [Bool.not_eq_true] at higher
      rw [leadsOut_name depth part _ higher, leadsOut_name depth part _ higher]
      exact ih (depth + 1)

theorem plainParts_joinPath (base name : String) (named : IsName name) (below : base ≠ "/") :
    plainParts (joinPath base name) = (Text.splitOn '/' base).filter isPlainPart ++ [name] := by
  have plain : isPlainPart name = true := by simp [isPlainPart_eq, named.skipped]
  rw [plainParts_eq]
  by_cases here : base = "."
  · subst here
    show (Text.splitOn '/' name).filter isPlainPart = [name]
    rw [named.splitOn, List.filter_cons_of_pos plain]
    rfl
  · simp only [joinPath, beq_iff_eq, here, below, ↓reduceIte, Text.splitOn_append, named.splitOn,
      List.filter_append, List.filter_cons_of_pos plain, List.filter_nil]

theorem placeOf_joinPath (base name : String) (named : IsName name) (below : base ≠ "/") :
    placeOf (joinPath base name) =
      placeFrom [] ((Text.splitOn '/' base).filter isPlainPart) ++ [name] := by
  rw [placeOf, plainParts_joinPath base name named below, List.foldl_append]
  simp only [List.foldl_cons, List.foldl_nil, named.up, Bool.false_eq_true, ↓reduceIte]
  rfl

/-- A name is found in the folder that its base leads to. -/
theorem follow_append_name (path name : String) (above : List Folder) (e x : Entry)
    (parts : List String) (named : IsName name)
    (found : follow path above e (parts ++ [name]) = .ok x) :
    ∃ f, follow path above e parts = .ok (.folder f) ∧ Folder.find? name f = some x := by
  cases first : follow path above e parts with
  | error fault =>
    rw [follow_append_error path above e fault parts [name] first] at found
    cases found
  | ok y =>
    obtain ⟨above', goes⟩ := follow_append path path above e y parts first
    rw [goes, follow_names path above' y x [name] (by simpa using named)] at found
    cases y with
    | file content => cases found
    | folder f =>
      refine ⟨f, rfl, ?_⟩
      rw [Entry.at?] at found
      obtain ⟨z, entry, same⟩ := Option.bind_eq_some_iff.mp found
      cases same
      exact entry

/-- The parts of a joined path: its name comes last. -/
theorem splitOn_joinPath (base name : String) (named : IsName name) (below : base ≠ "/") :
    ∃ parts, Text.splitOn '/' (joinPath base name) = parts ++ [name] ∧
      ∀ path root, follow path [] (.folder root) parts =
        follow path [] (.folder root) (Text.splitOn '/' base) := by
  by_cases here : base = "."
  · subst here
    exact ⟨[], named.splitOn, fun _ _ => rfl⟩
  · refine ⟨Text.splitOn '/' base, ?_, fun _ _ => rfl⟩
    simp only [joinPath, beq_iff_eq, here, below, ↓reduceIte, Text.splitOn_append, named.splitOn]

/-- Where a write below a base goes, if it works. -/
theorem writeFile_ok (root root' : Folder) (base name : String) (content : List UInt8)
    (named : IsName name) (written : writeFile root (joinPath base name) content = .ok root') :
    ∃ f, Writable root base name f ∧
      root' = root.put (.file content)
        (placeFrom [] ((Text.splitOn '/' base).filter isPlainPart) ++ [name]) := by
  have whole := isRelative_joinPath base name named.relative
  rw [writeFile] at written
  split at written
  · cases written
  · -- The file is there already.
    rename_i old there
    have relative : isRelative base = true :=
      whole.symm.trans (isRelative_of_resolve root _ _ there)
    have below := ne_slash_of_isRelative base relative
    rw [resolve_relative root _ (whole.trans relative), follow_joinPath _ root base name below,
      named.splitOn] at there
    obtain ⟨f, found, entry⟩ := follow_append_name _ name [] _ _ _ named there
    rw [placeOf_joinPath base name named below] at written
    refine ⟨f, ⟨relative, follow_path _ base _ _ _ _ found, ?_, ?_⟩, ?_⟩
    · cases out : leadsOut 0 ((Text.splitOn '/' base).filter isPlainPart) with
      | false => rfl
      | true =>
        have nowhere := follow_leadsOut _ root _ [] root [] _ .top out found
        cases nowhere
        cases entry
    · intro g isFolder
      rw [entry] at isFolder
      cases isFolder
    · cases written
      rfl
  · -- The name is free.
    rename_i fault missing
    simp only at written
    split at written
    · rename_i f first
      split at written
      · cases written
      · rename_i fine
        simp only [Bool.or_eq_true, beq_iff_eq, not_or, Bool.not_eq_true] at fine
        obtain ⟨⟨last, start⟩, inside⟩ := fine
        have complete : isRelative (joinPath base name) = true := by
          rw [isRelative_iff]
          refine ⟨fun null => ?_, fun none_ => ?_, start⟩
          · rw [resolve, if_pos (by simpa using null)] at missing
            cases missing
          · rw [String.toList_eq_nil_iff] at none_
            rw [none_] at last
            exact last rfl
        have relative : isRelative base = true := whole.symm.trans complete
        have below := ne_slash_of_isRelative base relative
        obtain ⟨parts, cut, same⟩ := splitOn_joinPath base name named below
        have found := first
        rw [cut, List.dropLast_concat, same] at found
        rw [plainParts_joinPath base name named below, leadsOut_append_name _ _ _ named.up] at inside
        rw [placeOf_joinPath base name named below] at written
        refine ⟨f, ⟨relative, follow_path _ base _ _ _ _ found, inside, ?_⟩, ?_⟩
        · intro g isFolder
          rw [resolve_relative root _ complete, follow_joinPath _ root base name below,
            named.splitOn] at missing
          obtain ⟨above, goes⟩ := follow_append _ (joinPath base name) _ _ _ _ found
          rw [goes, (follow_names _ above _ (.folder g) [name] (by simpa using named)).mpr] at missing
          · cases missing
          · rw [Entry.at?, isFolder]
            rfl
        · cases written
          rfl
    · cases written
    · cases written
  · cases written

/-- A write below a base works where it can. -/
theorem writeFile_of_writable (root f : Folder) (base name : String) (content : List UInt8)
    (named : IsName name) (writable : Writable root base name f) :
    writeFile root (joinPath base name) content =
      .ok (root.put (.file content)
        (placeFrom [] ((Text.splitOn '/' base).filter isPlainPart) ++ [name])) := by
  obtain ⟨relative, found, inside, free⟩ := writable
  have below := ne_slash_of_isRelative base relative
  have complete : isRelative (joinPath base name) = true :=
    (isRelative_joinPath base name named.relative).trans relative
  have start := ((isRelative_iff _).mp complete).2.2
  obtain ⟨parts, cut, first⟩ := splitOn_joinPath base name named below
  obtain ⟨above, goes⟩ := follow_append base (joinPath base name) _ _ _ _ found
  have ends : resolve root (joinPath base name) =
      (f.find? name).elim (.error (.missing (joinPath base name))) .ok := by
    rw [resolve_relative root _ complete, follow_joinPath _ root base name below, named.splitOn,
      goes, follow_name _ name above f [] named.skipped named.up, if_neg (Nat.not_lt.mpr named.short)]
    cases f.find? name with
    | none => rfl
    | some e => exact follow_nil _ _ e
  rw [writeFile, ends, placeOf_joinPath base name named below]
  cases entry : f.find? name with
  | some e =>
    cases e with
    | file old => rfl
    | folder g => exact absurd entry (free g)
  | none =>
    simp only [Option.elim_none, cut, List.dropLast_concat, List.getLast?_concat, first,
      follow_path base (joinPath base name) [] _ _ _ found,
      plainParts_joinPath base name named below, leadsOut_append_name _ _ _ named.up, inside,
      Bool.or_false]
    rw [if_neg]
    simp [named.nonempty, start]

/-- What is no folder in a folder is none in the tree. -/
theorem not_prefix_of_free (root f : Folder) (place other : List String) (name : String)
    (here : Entry.at? place (.folder root) = some (.folder f))
    (free : ∀ g, f.find? name ≠ some (.folder g)) (g : Folder)
    (there : Entry.at? other (.folder root) = some (.folder g)) : ¬ place ++ [name] <+: other := by
  rintro ⟨more, rfl⟩
  rw [List.append_assoc, Entry.at?_append, here, Option.bind_some, List.cons_append] at there
  obtain ⟨h, entry, -⟩ := Entry.at?_folder_cons name _ f g there
  exact free h entry

/-- A folder has what is written below its base, and is as before else. -/
theorem resolve_put (root f : Folder) (base name : String) (content : List UInt8)
    (writable : Writable root base name f) :
    resolve root base = .ok (.folder f) ∧
      resolve (root.put (.file content)
        (placeFrom [] ((Text.splitOn '/' base).filter isPlainPart) ++ [name])) base =
        .ok (.folder (f.set name (.file content))) := by
  obtain ⟨relative, found, inside, free⟩ := writable
  rw [resolve_relative _ base relative, resolve_relative _ base relative]
  refine ⟨found, ?_⟩
  obtain ⟨above, g, standing, goes⟩ := follow_kept base base root root (fun _ f here => ⟨f, here⟩)
    _ [] [] root root f [] .top .top inside found
  have last := goes []
  rw [List.append_nil, found, follow_nil] at last
  cases last
  have here := standing.at?
  have kept := fun other g there => Folder.at?_put_other (.file content) _ other root g (by simp)
    (not_prefix_of_free root f _ other name here free g there) there
  obtain ⟨above', g', standing', goes'⟩ := follow_kept base base root _ kept
    _ [] [] root _ f [] .top .top inside found
  have last := goes' []
  rw [List.append_nil, follow_nil] at last
  have there := standing'.at?
  rw [Folder.at?_put _ name _ root f here] at there
  cases there
  exact last

/-- What a write below a base does to the folder that the base leads to. -/
theorem resolve_writeFile (root root' : Folder) (base name : String) (content : List UInt8)
    (named : IsName name) (written : writeFile root (joinPath base name) content = .ok root') :
    ∃ f : Folder, resolve root base = .ok (.folder f) ∧
      resolve root' base = .ok (.folder (f.set name (.file content))) := by
  obtain ⟨f, writable, rfl⟩ := writeFile_ok root root' base name content named written
  exact ⟨f, resolve_put root f base name content writable⟩

/-- What is written is read back. -/
theorem readBytes_writeFile (root root' : Folder) (base name : String) (content : List UInt8)
    (named : IsName name) (written : writeFile root (joinPath base name) content = .ok root') :
    readBytes root' (joinPath base name) = .ok content := by
  obtain ⟨f, -, after⟩ := resolve_writeFile root root' base name content named written
  have there : resolve root' (joinPath base name) = .ok (.file content) := by
    rw [resolve_joinPath root' base name _ named.relative (by simpa [named.splitOn] using named),
      named.splitOn, listFolder, after]
    simp only [Entry.at?, Folder.find?_set, Option.bind_some]
  rw [readBytes, there]

end VoiceDebugger
