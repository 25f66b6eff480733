import Mathlib
import VoiceDebugger.Proofs.Symbol.Exact
import VoiceDebugger.Proofs.Workspace.Walk
import VoiceDebugger.Search

/-!
Which functions are found.

The symbols of a file and the search for a name both look at every statement, however deep it lies,
and both know functions that are not asynchronous only. So an asynchronous function is found just
where another one of its name stands on its line.
-/

namespace VoiceDebugger

open Source (Stmt Within)

/-- A statement that defines a function of a name, asynchronous or not. -/
def Source.Stmt.DefinesFunction (s : Stmt) (isAsync : Bool) (name : String) : Prop :=
  ∃ params body decorators result, s.form = .functionDef isAsync name params body decorators result

/-- A function of a name on a line of a file, which is among the symbols of the file and is reported
by the search for its name. -/
structure FunctionFound (location : String) (root : Folder) (file : String) (content : List UInt8)
    (name : String) (line : Nat) : Prop where
  symbol : ∃ x ∈ fileSymbols file content, x.kind = .function ∧ x.name = name ∧ x.line = line
  reported : ∃ hit ∈ searchDefinitions location root name, hit.file = file ∧ hit.line = line

/-! ### Statements -/

/-- Only functions that are not asynchronous have symbols of functions. -/
theorem Source.Stmt.function_of_symbol (s : Stmt) (file : String) (x : Symbol)
    (own : x ∈ s.symbols file) (function : x.kind = .function) :
    s.DefinesFunction false x.name ∧ x.line = s.span.line := by
  obtain ⟨span, form⟩ := s
  cases form with
  | functionDef isAsync name params body decorators result =>
    cases isAsync with
    | false =>
      obtain rfl := List.mem_singleton.mp own
      exact ⟨⟨params, body, decorators, result, rfl⟩, rfl⟩
    | true => cases own
  | classDef name bases keywords body decorators =>
    obtain rfl := List.mem_singleton.mp own
    cases function
  | assign targets _ | imports names | importsFrom module_ names _ =>
    obtain ⟨a, -, rfl⟩ := List.mem_map.mp own
    cases function
  | _ => cases own

theorem Source.Stmt.DefinesFunction.symbol {s : Stmt} {name : String}
    (defines : s.DefinesFunction false name) (file : String) :
    ∃ x ∈ s.symbols file, x.kind = .function ∧ x.name = name ∧ x.line = s.span.line := by
  obtain ⟨params, body, decorators, result, form⟩ := defines
  unfold Source.Stmt.symbols
  rw [form]
  exact ⟨_, List.mem_singleton_self _, rfl, rfl, rfl⟩

theorem Source.Stmt.DefinesFunction.reported {s : Stmt} {name : String}
    (defines : s.DefinesFunction false name) (file : String) :
    ∃ hit ∈ definitionsOf name file s, hit.file = file ∧ hit.line = s.span.line := by
  obtain ⟨params, body, decorators, result, form⟩ := defines
  unfold definitionsOf
  simp only [form, beq_self_eq_true, ↓reduceIte]
  exact ⟨_, List.mem_singleton_self _, rfl, rfl⟩

theorem file_of_mem_definitionsOf (name file : String) (s : Stmt) (hit : DefinitionHit)
    (defined : hit ∈ definitionsOf name file s) : hit.file = file := by
  unfold definitionsOf at defined
  simp only at defined
  split at defined
  · split at defined
    · rw [List.mem_singleton.mp defined]
    · cases defined
  · split at defined
    · rw [List.mem_singleton.mp defined]
    · cases defined
  · obtain ⟨target, -, taken⟩ := List.mem_filterMap.mp defined
    split at taken
    · rw [Option.ite_none_right_eq_some] at taken
      rw [← Option.some.inj taken.2]
    · cases taken
  · cases defined

/-! ### Files -/

/-- The definitions in an entry of a walk are those of the statements of a module that is not left
out. -/
theorem mem_definitionsInFile_iff (location name : String) (place : List String) (e : Entry)
    (hit : DefinitionHit) :
    hit ∈ definitionsInFile location name (place, e) ↔
      isIgnored (joinPath location ("/".intercalate place)) = false ∧
        ∃ content body s, e = .file content ∧ treeOfFile content = some body ∧ Within s body ∧
          hit ∈ definitionsOf name ("/".intercalate place) s := by
  unfold definitionsInFile
  simp only
  constructor
  · intro defined
    split at defined
    · cases defined
    · next kept =>
      split at defined
      · cases defined
      · next content =>
        split at defined
        · cases defined
        · next body tree =>
          obtain ⟨s, member, own⟩ := List.mem_flatMap.mp defined
          rw [Source.walkThrough_eq, Source.mem_breadthFirst_iff] at member
          exact ⟨by simpa using kept, content, body, s, rfl, tree, member, own⟩
  · rintro ⟨kept, content, body, s, rfl, tree, within, own⟩
    rw [if_neg (by simp [kept])]
    simp only [tree]
    refine List.mem_flatMap.mpr ⟨s, ?_, own⟩
    rw [Source.walkThrough_eq, Source.mem_breadthFirst_iff]
    exact within

/-- The definitions of a file that is not left out are those of its statements. -/
theorem mem_definitionsInFile (location name : String) (place : List String) (content : List UInt8)
    (body : List Stmt) (kept : isIgnored (joinPath location ("/".intercalate place)) = false)
    (tree : treeOfFile content = some body) (hit : DefinitionHit) :
    hit ∈ definitionsInFile location name (place, .file content) ↔
      ∃ s, Within s body ∧ hit ∈ definitionsOf name ("/".intercalate place) s := by
  rw [mem_definitionsInFile_iff]
  constructor
  · rintro ⟨-, content', body', s, same, tree', within, own⟩
    cases same
    cases tree.symm.trans tree'
    exact ⟨s, within, own⟩
  · rintro ⟨s, within, own⟩
    exact ⟨kept, content, body, s, rfl, tree, within, own⟩

/-- A file whose path is left out has no definitions. -/
theorem isIgnored_of_mem_definitionsInFile (location name : String) (found : List String × Entry)
    (hit : DefinitionHit) (defined : hit ∈ definitionsInFile location name found) :
    isIgnored (joinPath location hit.file) = false := by
  obtain ⟨kept, -, -, s, -, -, -, own⟩ :=
    (mem_definitionsInFile_iff location name _ _ hit).mp defined
  rw [file_of_mem_definitionsOf name _ s hit own]
  exact kept

/-- Every function that is not asynchronous is found, at any depth. An asynchronous one is found
only where there is another on its line that is not. -/
theorem function_found_iff (location : String) (root : Folder) (front : List String)
    (last name : String) (content : List UInt8) (body : List Stmt) (s : Stmt) (isAsync : Bool)
    (well : root.WellFormed) (source : isSourceName last = true)
    (lies : Entry.at? (front ++ [last]) (.folder root) = some (.file content))
    (tree : treeOfFile content = some body) (within : Within s body)
    (defines : s.DefinesFunction isAsync name) :
    let file := "/".intercalate (front ++ [last])
    (isAsync = false → isIgnored (joinPath location file) = false →
        FunctionFound location root file content name s.span.line) ∧
      (FunctionFound location root file content name s.span.line ↔
        isIgnored (joinPath location file) = false ∧
          ∃ t, Within t body ∧ t.DefinesFunction false name ∧ t.span.line = s.span.line) := by
  intro file
  have found : isIgnored (joinPath location file) = false → ∀ t, Within t body →
      t.DefinesFunction false name →
      FunctionFound location root file content name t.span.line := by
    intro kept t inside plain
    obtain ⟨x, own, function, named, line⟩ := plain.symbol file
    obtain ⟨hit, defined, sameFile, sameLine⟩ := plain.reported file
    have walked : (front ++ [last], .file content) ∈ root.walk isSourceName :=
      (Folder.mem_walk _ _ well _ _).mpr ⟨front, last, rfl, source, lies⟩
    have inFile := (mem_definitionsInFile location name _ content body kept tree hit).mpr
      ⟨t, inside, defined⟩
    refine ⟨⟨x, ?_, function, named, line⟩, hit, ?_, sameFile, sameLine⟩
    · exact (mem_fileSymbols file content body tree x).mpr ⟨t, inside, own⟩
    · exact List.mem_flatMap.mpr ⟨_, walked, inFile⟩
  refine ⟨?_, ?_, ?_⟩
  · intro plain kept
    exact found kept s within (plain ▸ defines)
  · rintro ⟨⟨x, listed, function, named, line⟩, hit, reported, sameFile, -⟩
    obtain ⟨t, inside, own⟩ := (mem_fileSymbols file content body tree x).mp listed
    obtain ⟨plain, place⟩ := t.function_of_symbol file x own function
    obtain ⟨other, -, defined⟩ := List.mem_flatMap.mp reported
    refine ⟨?_, t, inside, named ▸ plain, place.symm.trans line⟩
    rw [← sameFile]
    exact isIgnored_of_mem_definitionsInFile location name other hit defined
  · rintro ⟨kept, t, inside, plain, line⟩
    rw [← line]
    exact found kept t inside plain

/-! ### A file with both kinds of function -/

/-- A file with an asynchronous function and one that is not. -/
def twoFunctions : List UInt8 :=
  Text.encode "async def f():0\ndef g():0"

/-- The function that is asynchronous. -/
def asyncFunction : Stmt :=
  ⟨⟨1, 0, 1, 15⟩, .functionDef true "f" ⟨[], [], none, [], [], none, []⟩
    [⟨⟨1, 14, 1, 15⟩, .expression ⟨⟨1, 14, 1, 15⟩, .constant (.int 0)⟩⟩] [] none⟩

/-- The function that is not. -/
def plainFunction : Stmt :=
  ⟨⟨2, 0, 2, 9⟩, .functionDef false "g" ⟨[], [], none, [], [], none, []⟩
    [⟨⟨2, 8, 2, 9⟩, .expression ⟨⟨2, 8, 2, 9⟩, .constant (.int 0)⟩⟩] [] none⟩

theorem treeOfFile_twoFunctions :
    treeOfFile twoFunctions = some [asyncFunction, plainFunction] := by
  -- The memory of the parser hides its buckets from the kernel, so the run is rewritten step by step.
  -- The equations of characters and bytes that this takes are spread over the whole library.
  cbv

theorem wellFormed_twoFunctions : Folder.WellFormed [("a.py", .file twoFunctions)] :=
  ⟨by decide, by simp only [List.forall_mem_singleton]; decide, trivial, trivial⟩

theorem function_found_iff_twoFunctions :
    Folder.WellFormed [("a.py", .file twoFunctions)] ∧ isSourceName "a.py" = true ∧
      Entry.at? ([] ++ ["a.py"]) (.folder [("a.py", .file twoFunctions)]) =
        some (.file twoFunctions) ∧
      treeOfFile twoFunctions = some [asyncFunction, plainFunction] ∧
      Within plainFunction [asyncFunction, plainFunction] ∧
      plainFunction.DefinesFunction false "g" ∧
      FunctionFound "/ws" [("a.py", .file twoFunctions)] "a.py" twoFunctions "g" 2 := by
  have source : isSourceName "a.py" = true := by decide
  have lies : Entry.at? ([] ++ ["a.py"]) (.folder [("a.py", .file twoFunctions)]) =
      some (.file twoFunctions) := rfl
  have within : Within plainFunction [asyncFunction, plainFunction] := .here (by simp)
  have defines : plainFunction.DefinesFunction false "g" := ⟨_, _, _, _, rfl⟩
  have kept : isIgnored (joinPath "/ws" ("/".intercalate ([] ++ ["a.py"]))) = false := by decide
  exact ⟨wellFormed_twoFunctions, source, lies, treeOfFile_twoFunctions, within, defines,
    (function_found_iff "/ws" _ [] "a.py" "g" twoFunctions _ plainFunction false
      wellFormed_twoFunctions source lies treeOfFile_twoFunctions within defines).1 rfl kept⟩

/-- The asynchronous function is neither a symbol of its file nor reported. -/
theorem async_function_missed :
    treeOfFile twoFunctions = some [asyncFunction, plainFunction] ∧
      Within asyncFunction [asyncFunction, plainFunction] ∧
      asyncFunction.DefinesFunction true "f" ∧ asyncFunction.span.line = 1 ∧
      (∀ x ∈ fileSymbols "a.py" twoFunctions, x.name ≠ "f") ∧
      searchDefinitions "/ws" [("a.py", .file twoFunctions)] "f" = [] := by
  refine ⟨treeOfFile_twoFunctions, .here (by simp), ⟨_, _, _, _, rfl⟩, rfl, ?_, ?_⟩
  · intro x listed
    have names : (symbolsOf "a.py" [asyncFunction, plainFunction]).map Symbol.name = ["g"] := by
      rw [symbolsOf, Source.walkThrough_eq]
      rfl
    rw [fileSymbols, treeOfFile_twoFunctions] at listed
    have named := List.mem_map_of_mem (f := Symbol.name) listed
    rw [names, List.mem_singleton] at named
    rw [named]
    decide
  · have walked : Folder.walk isSourceName [("a.py", .file twoFunctions)] =
        [(["a.py"], .file twoFunctions)] := rfl
    have kept : isIgnored (joinPath "/ws" ("/".intercalate ["a.py"])) = false := by decide
    rw [searchDefinitions, walked, List.flatMap_singleton, definitionsInFile]
    simp only [kept, treeOfFile_twoFunctions, Source.walkThrough_eq, Bool.false_eq_true, ↓reduceIte]
    rfl

end VoiceDebugger
