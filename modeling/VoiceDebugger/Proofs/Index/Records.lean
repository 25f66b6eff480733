import Mathlib.Data.List.Nodup
import VoiceDebugger.Index.Store
import VoiceDebugger.Proofs.Symbol.Exact

/-!
What looking at one file does to an index.

The records of a file's symbols are added, each under its own name, and its digest is noted. All
else stays.
-/

namespace VoiceDebugger

/-! ### The symbols of a file -/

theorem Source.Stmt.symbols_file (file : String) (s : Source.Stmt) :
    ∀ x ∈ s.symbols file, x.file = file := by
  intro x member
  rw [Source.Stmt.symbols] at member
  split at member
  · rw [List.mem_singleton.mp member]
    rfl
  · rw [List.mem_singleton.mp member]
    rfl
  · obtain ⟨a, -, rfl⟩ := List.mem_map.mp member
    rfl
  · obtain ⟨a, -, rfl⟩ := List.mem_map.mp member
    rfl
  · obtain ⟨a, -, rfl⟩ := List.mem_map.mp member
    rfl
  · cases member

/-- The symbols of a file name that file. -/
theorem fileSymbols_file (file : String) (content : List UInt8) :
    ∀ x ∈ fileSymbols file content, x.file = file := by
  intro x member
  cases tree : treeOfFile content with
  | none =>
    rw [fileSymbols, tree] at member
    cases member
  | some body =>
    obtain ⟨s, -, own⟩ := (mem_fileSymbols file content body tree x).mp member
    exact s.symbols_file file x own

/-! ### Tables by name -/

theorem Json.field?_setField (name other : CodeText) (v : Json) (fields : List (CodeText × Json)) :
    Json.field? other (Json.setField name v fields) =
      if name = other then some v else Json.field? other fields := by
  induction fields with
  | nil => simp [Json.setField, Json.field?]
  | cons f rest ih =>
    rw [Json.setField]
    split
    · rename_i equal
      rw [beq_iff_eq] at equal
      simp only [Json.field?, equal, beq_iff_eq]
      split <;> rfl
    · rename_i differ
      rw [beq_iff_eq] at differ
      simp only [Json.field?, ih, beq_iff_eq]
      split
      · rename_i here
        rw [if_neg]
        rintro rfl
        exact differ here
      · rfl

theorem Json.mem_setField (name : CodeText) (v : Json) (fields : List (CodeText × Json))
    (f : CodeText × Json) (member : f ∈ Json.setField name v fields) :
    f = (name, v) ∨ f ∈ fields := by
  induction fields with
  | nil => exact .inl (List.mem_singleton.mp member)
  | cons g rest ih =>
    rw [Json.setField] at member
    split at member
    · rename_i equal
      rcases List.mem_cons.mp member with rfl | later
      · exact .inl (by rw [beq_iff_eq.mp equal])
      · exact .inr (List.mem_cons_of_mem _ later)
    · rcases List.mem_cons.mp member with rfl | later
      · exact .inr List.mem_cons_self
      · exact (ih later).imp_right (List.mem_cons_of_mem _)

theorem Json.names_setField (name : CodeText) (v : Json) (fields : List (CodeText × Json)) :
    (Json.setField name v fields).map Prod.fst =
      if name ∈ fields.map Prod.fst then fields.map Prod.fst else fields.map Prod.fst ++ [name] := by
  induction fields with
  | nil => rfl
  | cons g rest ih =>
    rw [Json.setField]
    by_cases equal : g.1 = name
    · simp [equal]
    · have differ : ¬ name = g.1 := fun same => equal same.symm
      simp only [beq_iff_eq, equal, ↓reduceIte, List.map_cons, ih, List.mem_cons, differ, false_or]
      split <;> rfl

theorem names_addUnder {α : Type} (name : CodeText) (a : α) (groups : List (CodeText × List α)) :
    (addUnder name a groups).map Prod.fst =
      if name ∈ groups.map Prod.fst then groups.map Prod.fst else groups.map Prod.fst ++ [name] := by
  induction groups with
  | nil => rfl
  | cons g rest ih =>
    rw [addUnder]
    by_cases equal : g.1 = name
    · simp [equal]
    · have differ : ¬ name = g.1 := fun same => equal same.symm
      simp only [beq_iff_eq, equal, ↓reduceIte, List.map_cons, ih, List.mem_cons, differ, false_or]
      split <;> rfl

theorem addUnder_perm {α : Type} (name : CodeText) (a : α) (groups : List (CodeText × List α)) :
    ((addUnder name a groups).flatMap Prod.snd).Perm (groups.flatMap Prod.snd ++ [a]) := by
  induction groups with
  | nil => rfl
  | cons g rest ih =>
    rw [addUnder]
    split
    · simp only [List.flatMap_cons, List.append_assoc]
      exact List.perm_append_comm.append_left g.2
    · simp only [List.flatMap_cons, List.append_assoc]
      exact ih.append_left g.2

theorem nodup_grown (names : List CodeText) (name : CodeText) (distinct : names.Nodup) :
    (if name ∈ names then names else names ++ [name]).Nodup := by
  split
  · exact distinct
  · rename_i new
    rw [List.nodup_append]
    refine ⟨distinct, List.nodup_singleton name, ?_⟩
    rintro a old b last rfl
    rw [List.mem_singleton] at last
    exact new (last ▸ old)

namespace Index

/-! ### Adding records -/

theorem foldl_add (new : List Symbol) (i : Index) :
    new.foldl add i =
      { i with
        symbols := new.foldl (fun groups s => addUnder s.name s.record groups) i.symbols } := by
  induction new generalizing i with
  | nil => rfl
  | cons s rest ih => exact ih (i.add s)

theorem records_foldl_add (new : List Symbol) (i : Index) :
    (new.foldl add i).records.Perm (i.records ++ new.map Symbol.record) := by
  induction new generalizing i with
  | nil => simp
  | cons s rest ih =>
    refine (ih (i.add s)).trans ?_
    rw [List.map_cons, ← List.singleton_append, ← List.append_assoc]
    exact (addUnder_perm s.name s.record i.symbols).append_right _

/-- An index with a file's content taken in. -/
def indexed (i : Index) (table : List (CodeText × Json)) (file : String) (content : List UInt8) :
    Index :=
  { (fileSymbols file content).foldl add i with
    files := .obj (Json.setField file (.str (Digest.ofBytes content)) table) }

theorem records_indexed (i : Index) (table : List (CodeText × Json)) (file : String)
    (content : List UInt8) :
    (i.indexed table file content).records.Perm
      (i.records ++ (fileSymbols file content).map Symbol.record) :=
  records_foldl_add (fileSymbols file content) i

theorem base_indexed (i : Index) (table : List (CodeText × Json)) (file : String)
    (content : List UInt8) : (i.indexed table file content).base = i.base := by
  rw [indexed, foldl_add]

/-! ### Looking at one file -/

/-- Whether a file is looked into: it is not left out, and a look is forced or its digest is new. -/
def due (force : Bool) (i : Index) (table : List (CodeText × Json)) (file : String)
    (content : List UInt8) : Bool :=
  !ignores (joinPath i.base file) &&
    (force || !(Json.field? file table).any fun v => v.same (.str (Digest.ofBytes content)))

theorem visit_at_folder (force : Bool) (stats : BuildStats) (i : Index) (place : List String)
    (f : Folder) :
    visit force (stats, i) (place, .folder f) =
      (if ignores (joinPath i.base ("/".intercalate place)) then
        { stats with filesSkipped := stats.filesSkipped + 1 }
      else { stats with errors := stats.errors + 1 }, i) := by
  rw [visit]
  split <;> rfl

/-- A file is taken in if it is due and skipped otherwise. -/
theorem visit_at_file (force : Bool) (stats : BuildStats) (i : Index) (place : List String)
    (content : List UInt8) (table : List (CodeText × Json)) (files : i.files = .obj table) :
    visit force (stats, i) (place, .file content) =
      if due force i table ("/".intercalate place) content then
        ({ stats with
          filesIndexed := stats.filesIndexed + 1
          symbolsFound :=
            stats.symbolsFound + (fileSymbols ("/".intercalate place) content).length },
          i.indexed table ("/".intercalate place) content)
      else ({ stats with filesSkipped := stats.filesSkipped + 1 }, i) := by
  have noted : ∀ file, ((fileSymbols file content).foldl add i).noteFile? file
      (Digest.ofBytes content) = some (i.indexed table file content) := by
    intro file
    rw [indexed, noteFile?, foldl_add]
    simp only [files]
  rw [visit, due]
  cases ignores (joinPath i.base ("/".intercalate place)) with
  | true => rfl
  | false =>
    cases force with
    | true =>
      simp only [Bool.false_eq_true, ↓reduceIte, noted, Bool.not_false, Bool.true_or, Bool.and_self]
    | false =>
      simp only [files, knows?, Bool.false_eq_true, ↓reduceIte, Bool.not_false, Bool.false_or,
        Bool.true_and]
      cases known : (Json.field? ("/".intercalate place) table).any
          fun v => v.same (.str (Digest.ofBytes content)) with
      | true => rfl
      | false =>
        simp only [noted]
        rfl

theorem visit_folder (force : Bool) (stats : BuildStats) (i : Index) (place : List String)
    (f : Folder) : (visit force (stats, i) (place, .folder f)).2 = i := by
  rw [visit_at_folder]

theorem visit_file (force : Bool) (stats : BuildStats) (i : Index) (place : List String)
    (content : List UInt8) (table : List (CodeText × Json)) (files : i.files = .obj table) :
    (visit force (stats, i) (place, .file content)).2 =
      if due force i table ("/".intercalate place) content then
        i.indexed table ("/".intercalate place) content
      else i := by
  rw [visit_at_file force stats i place content table files]
  split <;> rfl

theorem update_snd (root : Folder) (now : Timestamp) (force : Bool) (i : Index) :
    (i.update root now force).2 =
      { ((i.walk root).foldl (visit force) ({}, i)).2 with builtAt := some now } := by
  unfold update
  generalize (i.walk root).foldl (visit force) ({}, i) = walked
  rfl

theorem build_eq (root : Folder) (now : Timestamp) (force : Bool) (i : Index) :
    i.build root now force =
      ((i.update root now force).1, (i.update root now force).2,
        (i.update root now force).2.save root) := by
  unfold build
  generalize i.update root now force = updated
  rfl

end Index

end VoiceDebugger
