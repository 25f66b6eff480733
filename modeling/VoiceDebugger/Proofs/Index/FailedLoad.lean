import VoiceDebugger.Proofs.Index.Saved

/-!
What a load that fails leaves behind.

A saved object is taken over part by part: the table of files, then the time, then the records name
by name. The first part that is malformed ends the load, and what came before it stays.
-/

namespace VoiceDebugger.Index

/-- A saved object that is taken over as a whole. -/
def Intact (fields : List (CodeText × Json)) : Prop :=
  (timeIn? fields).isSome ∧
    ∃ groups, groupsIn? fields = some groups ∧ ∀ g ∈ groups, (recordsIn? g.2).isSome

/-- The names with their records, up to the first whose records are malformed. -/
def intactFront : List (CodeText × Json) → List (CodeText × List Record)
  | [] => []
  | (name, v) :: rest =>
    match recordsIn? v with
    | some records => (name, records) :: intactFront rest
    | none => []

/-- The records by name in a saved object, up to the first malformed ones. -/
def symbolsIn (fields : List (CodeText × Json)) : List (CodeText × List Record) :=
  (intactFront ((groupsIn? fields).getD [])).foldl (fun kept g => setUnder g.1 g.2 kept) []

theorem takeSymbols_snd (i : Index) (groups : List (CodeText × Json)) :
    (i.takeSymbols groups).2 =
      { i with
        symbols := (intactFront groups).foldl (fun kept g => setUnder g.1 g.2 kept) i.symbols } := by
  induction groups generalizing i with
  | nil => rfl
  | cons group rest ih =>
    obtain ⟨name, v⟩ := group
    rw [takeSymbols, intactFront]
    cases recordsIn? v with
    | none => rfl
    | some records => exact ih _

theorem takeSymbols_fst (i : Index) (groups : List (CodeText × Json)) :
    (i.takeSymbols groups).1 = true ↔ ∀ g ∈ groups, (recordsIn? g.2).isSome := by
  induction groups generalizing i with
  | nil => simp [takeSymbols]
  | cons group rest ih =>
    obtain ⟨name, v⟩ := group
    rw [takeSymbols, List.forall_mem_cons]
    cases recordsIn? v with
    | none => simp
    | some records => simp [ih]

/-- What is taken over from a saved object. -/
theorem takeOver_snd (i : Index) (fields : List (CodeText × Json)) :
    (i.takeOver fields).2 =
      match timeIn? fields with
      | none => { i with files := filesIn fields }
      | some time =>
        { i with files := filesIn fields, builtAt := time, symbols := symbolsIn fields } := by
  rw [takeOver]
  cases timeIn? fields with
  | none => rfl
  | some time =>
    simp only [symbolsIn]
    cases groupsIn? fields with
    | none => rfl
    | some groups => exact takeSymbols_snd _ groups

theorem takeOver_fst (i : Index) (fields : List (CodeText × Json)) :
    (i.takeOver fields).1 = true ↔ Intact fields := by
  rw [takeOver, Intact]
  cases timeIn? fields with
  | none => simp
  | some time =>
    cases groupsIn? fields with
    | none => simp
    | some groups => simp [takeSymbols_fst]

/-- If a load fails it changes nothing: that is so exactly if each saved object that is not intact
holds, in whatever comes before the fault, what was there before. -/
theorem failed_load_unchanged_iff (root : Folder) (i : Index) :
    ((i.load root).1 = false →
        (i.load root).2.files = i.files ∧ (i.load root).2.symbols = i.symbols ∧
          (i.load root).2.builtAt = i.builtAt) ↔
      ∀ fields, i.readSaved root = some (.obj fields) → ¬ Intact fields →
        filesIn fields = i.files ∧
          ∀ time, timeIn? fields = some time → time = i.builtAt ∧ symbolsIn fields = i.symbols := by
  rw [load]
  split
  · rename_i fields saved
    have fails : (i.takeOver fields).1 = false ↔ ¬ Intact fields := by
      rw [← takeOver_fst i fields, Bool.not_eq_true]
    simp only [saved, Option.some.injEq, Json.obj.injEq, forall_eq', fails, takeOver_snd]
    refine imp_congr_right fun _ => ?_
    cases timeIn? fields with
    | none => simp
    | some time =>
      simp only [Option.some.injEq, forall_eq']
      exact and_congr_right fun _ => and_comm
  · rename_i other
    simp only [and_self, implies_true, true_iff]
    exact fun fields saved => absurd saved (other fields)

/-- A saved object that names a file with its digest and a time that is none. -/
def misdated : Json :=
  .obj [
    ("files", .obj [("a.py", .str (Digest.ofBytes []))]),
    ("last_indexed", .str "?")]

/-- A workspace of one empty source file where that object is saved. -/
def misdatedFolder : Folder :=
  [(fileName, .file (Text.encode (misdated.indented 2 0))), ("a.py", .file [])]

theorem load_misdated :
    (Index.empty ".").load misdatedFolder =
      (false, { base := ".", files := .obj [("a.py", .str (Digest.ofBytes []))] }) := by
  have legible : Json.Legible misdated := by
    refine ⟨by simp only [List.map_cons, List.map_nil]; decide, ?_⟩
    simp only [Json.LegibleFields, Json.Legible, CodeText.unpaired_ofString, and_true, true_and,
      List.map_cons, List.map_nil]
    decide
  have saved := readSaved_indented misdatedFolder (Index.empty ".") 2 misdated legible rfl
  have short : Json.overlong? misdated = none := rfl
  rw [short] at saved
  rw [load, saved]
  rfl

/-- A file that was never indexed is taken for known after a load that failed. -/
theorem failed_load_hides_file :
    let loaded := (Index.empty ".").load misdatedFolder
    loaded.1 = false ∧ loaded.2.files ≠ (Index.empty ".").files ∧ loaded.2.records = [] ∧
      (loaded.2.update misdatedFolder { year := 2024, month := 1, day := 1 } false).1 =
        { filesSkipped := 1 } := by
  rw [load_misdated]
  refine ⟨rfl, by simp [Index.empty], rfl, ?_⟩
  have walked : Index.walk misdatedFolder
      { base := ".", files := .obj [("a.py", .str (Digest.ofBytes []))] } =
      [(["a.py"], .file [])] := rfl
  have kept : ignores (joinPath "." ("/".intercalate ["a.py"])) = false := by decide
  have known : knows? (.obj [("a.py", .str (Digest.ofBytes []))]) ("/".intercalate ["a.py"])
      (Digest.ofBytes []) = some true := by
    simp [knows?, Json.field?, Json.same]
  rw [update, walked, List.foldl_cons, List.foldl_nil, visit]
  simp only [kept, Bool.false_eq_true, ↓reduceIte, known]

end VoiceDebugger.Index
