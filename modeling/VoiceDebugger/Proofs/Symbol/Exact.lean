import VoiceDebugger.Index.Build
import VoiceDebugger.Proofs.Source.Levels

/-!
The symbols of a module, statement by statement.

A visit lists some symbols at once and leaves one to a last test, which drops what is listed
already. Only functions and classes are left to the test. So where no two of them have the same
symbol, the symbols of a module are those of its statements side by side, breadth first.
-/

namespace VoiceDebugger

open Source (Expr Stmt Within breadthFirst walkThrough)

deriving instance ReflBEq, LawfulBEq for SymbolKind
deriving instance ReflBEq, LawfulBEq for Symbol

/-! ### One statement -/

/-- The symbols that a statement defines itself: one for a function that is not asynchronous, one
for a class, one for each target of an assignment that is a plain name, and one for each imported
name. -/
def Source.Stmt.symbols (file : String) (s : Stmt) : List Symbol :=
  match s.form with
  | .functionDef false name params body _ _ => [functionSymbol file s.span name params body]
  | .classDef name bases _ body _ => [classSymbol file s.span name bases body]
  | .assign targets _ => (targets.filterMap Expr.plainName?).map (variableSymbol file s.span)
  | .imports names => names.map (importSymbol file s.span "import ")
  | .importsFrom module_ names _ =>
    names.map (importSymbol file s.span ("from " ++ module_.getD "None" ++ " import "))
  | _ => []

/-- Whether a statement defines a function that is not asynchronous, or a class. -/
def Source.Stmt.isDefinition (s : Stmt) : Bool :=
  s.form matches .functionDef false .. | .classDef ..

namespace Listing

theorem foldl_push (xs : List Symbol) (l : Listing) :
    xs.foldl push l = ⟨l.symbols ++ xs, xs.getLast?.or l.last⟩ := by
  induction xs generalizing l with
  | nil => simp
  | cons x xs ih =>
    rw [List.foldl_cons, ih, push]
    simp [List.getLast?_cons]

theorem foldl_pushTarget (file : String) (at_ : Source.Span) (targets : List Expr) (l : Listing) :
    targets.foldl (pushTarget file at_) l =
      ((targets.filterMap Expr.plainName?).map (variableSymbol file at_)).foldl push l := by
  induction targets generalizing l with
  | nil => rfl
  | cons t rest ih =>
    rw [List.foldl_cons, ih, pushTarget, List.filterMap_cons]
    cases t.plainName? <;> rfl

/-- Symbols that were listed at once pass the last test unchanged. -/
theorem close_foldl_push (found xs : List Symbol) :
    (xs.foldl push { symbols := found }).close = found ++ xs := by
  rw [foldl_push, close, Option.or_none]
  cases last : xs.getLast? with
  | none => rfl
  | some x =>
    have listed : x ∈ found ++ xs := List.mem_append_right _ (List.mem_of_getLast? last)
    simp [listed]

end Listing

theorem Listing.close_make (found : List Symbol) (x : Symbol) :
    (make { symbols := found } x).close = found ++ [x].filter fun x => !found.contains x := by
  rw [make, close]
  by_cases listed : x ∈ found <;> simp [listed]

/-- What is added for a statement: a definition unless it is listed, and all else. -/
theorem addSymbols_eq (file : String) (found : List Symbol) (s : Stmt) :
    addSymbols file found s =
      if s.isDefinition then found ++ (s.symbols file).filter fun x => !found.contains x
      else found ++ s.symbols file := by
  obtain ⟨span, form⟩ := s
  rw [addSymbols]
  cases form with
  | functionDef isAsync name params body _ _ =>
    cases isAsync with
    | false => exact Listing.close_make found _
    | true => exact (List.append_nil found).symm
  | classDef name bases _ body _ => exact Listing.close_make found _
  | assign targets _ =>
    have pushed := Listing.foldl_pushTarget file span targets { symbols := found }
    have closed := Listing.close_foldl_push found
      ((targets.filterMap Expr.plainName?).map (variableSymbol file span))
    rw [← pushed] at closed
    exact closed
  | imports names =>
    have closed := Listing.close_foldl_push found (names.map (importSymbol file span "import "))
    rw [List.foldl_map] at closed
    exact closed
  | importsFrom module_ names _ =>
    have closed := Listing.close_foldl_push found
      (names.map (importSymbol file span ("from " ++ module_.getD "None" ++ " import ")))
    rw [List.foldl_map] at closed
    exact closed
  | _ => exact (List.append_nil found).symm

/-- No symbol is lost on the way, and none comes from elsewhere. -/
theorem mem_addSymbols (file : String) (found : List Symbol) (s : Stmt) (x : Symbol) :
    x ∈ addSymbols file found s ↔ x ∈ found ∨ x ∈ s.symbols file := by
  rw [addSymbols_eq]
  split
  · by_cases known : x ∈ found
    · simp [known]
    · simp [known]
  · exact List.mem_append

theorem mem_foldl_addSymbols (file : String) (ss : List Stmt) (found : List Symbol) (x : Symbol) :
    x ∈ ss.foldl (addSymbols file) found ↔ x ∈ found ∨ ∃ s ∈ ss, x ∈ s.symbols file := by
  induction ss generalizing found with
  | nil => simp
  | cons s ss ih =>
    rw [List.foldl_cons, ih, mem_addSymbols, or_assoc]
    simp only [List.mem_cons, exists_eq_or_imp]

/-- The symbols of a file are those of its statements, with or without repetitions. -/
theorem mem_fileSymbols (file : String) (content : List UInt8) (body : List Stmt)
    (tree : treeOfFile content = some body) (x : Symbol) :
    x ∈ fileSymbols file content ↔ ∃ s, Within s body ∧ x ∈ s.symbols file := by
  rw [fileSymbols, tree]
  simp only [symbolsOf, mem_foldl_addSymbols, List.not_mem_nil, false_or, Source.walkThrough_eq,
    Source.mem_breadthFirst_iff]

/-! ### A module -/

/-- A symbol that is left to the last test. -/
def Symbol.isTested (x : Symbol) : Bool :=
  x.kind == .function || x.kind == .classType

theorem Source.Stmt.symbols_definition (file : String) (s : Stmt) (defines : s.isDefinition = true) :
    ∃ x, s.symbols file = [x] ∧ x.isTested = true := by
  obtain ⟨span, form⟩ := s
  cases form with
  | functionDef isAsync name params body _ _ =>
    cases isAsync with
    | false => exact ⟨_, rfl, rfl⟩
    | true => cases defines
  | classDef name bases _ body _ => exact ⟨_, rfl, rfl⟩
  | _ => cases defines

theorem Source.Stmt.isDefinition_of_isTested (file : String) (s : Stmt) (x : Symbol)
    (own : x ∈ s.symbols file) (tested : x.isTested = true) : s.isDefinition = true := by
  obtain ⟨span, form⟩ := s
  cases form with
  | functionDef isAsync name params body _ _ =>
    cases isAsync with
    | false => rfl
    | true => cases own
  | classDef name bases _ body _ => rfl
  | assign targets _ | imports names | importsFrom module_ names _ =>
    obtain ⟨a, -, rfl⟩ := List.mem_map.mp own
    cases tested
  | _ => cases own

/-- No two functions or classes among statements have the same symbol. -/
def DefinitionsApart (file : String) (ss : List Stmt) : Prop :=
  ss.Pairwise fun s t => s.isDefinition → t.isDefinition → s.symbols file ≠ t.symbols file

instance (file : String) (ss : List Stmt) : Decidable (DefinitionsApart file ss) :=
  inferInstanceAs (Decidable (List.Pairwise _ _))

/-- A statement adds just its own symbols if no definition before it has the same one. -/
theorem addSymbols_apart (file : String) (before : List Stmt) (s : Stmt)
    (apart : ∀ t ∈ before, t.isDefinition → s.isDefinition → t.symbols file ≠ s.symbols file) :
    addSymbols file (before.flatMap (Stmt.symbols file)) s =
      before.flatMap (Stmt.symbols file) ++ s.symbols file := by
  rw [addSymbols_eq]
  split
  · rename_i defines
    obtain ⟨x, single, tested⟩ := s.symbols_definition file defines
    have fresh : x ∉ before.flatMap (Stmt.symbols file) := by
      intro listed
      obtain ⟨t, member, own⟩ := List.mem_flatMap.mp listed
      have other := t.isDefinition_of_isTested file x own tested
      obtain ⟨y, alone, -⟩ := t.symbols_definition file other
      rw [alone, List.mem_singleton] at own
      exact apart t member other defines (by rw [alone, single, own])
    rw [single, List.filter_cons_of_pos (by simpa using fresh), List.filter_nil]
  · rfl

theorem foldl_addSymbols (file : String) (before after : List Stmt)
    (apart : DefinitionsApart file (before ++ after)) :
    after.foldl (addSymbols file) (before.flatMap (Stmt.symbols file)) =
      (before ++ after).flatMap (Stmt.symbols file) := by
  induction after generalizing before with
  | nil => simp
  | cons s rest ih =>
    have earlier : ∀ t ∈ before, t.isDefinition → s.isDefinition →
        t.symbols file ≠ s.symbols file :=
      fun t member => (List.pairwise_append.mp apart).2.2 t member s List.mem_cons_self
    rw [← List.singleton_append, ← List.append_assoc] at apart
    have step := ih (before ++ [s]) apart
    rw [List.foldl_cons, addSymbols_apart file before s earlier]
    simpa using step

/-- The symbols of a module are those of its statements side by side, breadth first and at any
depth: the last test neither drops nor repeats one. -/
theorem symbols_breadth_first (file : String) (body : List Stmt)
    (apart : DefinitionsApart file (breadthFirst body)) :
    symbolsOf file body = (breadthFirst body).flatMap (Stmt.symbols file) ∧
      (∀ s, s ∈ breadthFirst body ↔ Within s body) ∧
      ∀ content, treeOfFile content = some body →
        fileSymbols file content = (breadthFirst body).flatMap (Stmt.symbols file) := by
  have listed : symbolsOf file body = (breadthFirst body).flatMap (Stmt.symbols file) := by
    rw [symbolsOf, Source.walkThrough_eq]
    exact foldl_addSymbols file [] (breadthFirst body) apart
  refine ⟨listed, fun s => Source.mem_breadthFirst_iff s body, fun content tree => ?_⟩
  rw [fileSymbols, tree]
  exact listed

/-- A module with a class in a handler, a method in that class, an assignment to one name twice, and
a function of the method's name. -/
def nestedModule : List Stmt :=
  let at_ (line : Nat) : Source.Span := ⟨line, 0, line, 1⟩
  let noParams : Source.Params := ⟨[], [], none, [], [], none, []⟩
  let function (line : Nat) : Stmt :=
    ⟨at_ line, .functionDef false "f" noParams [⟨at_ line, .pass⟩] [] none⟩
  [⟨at_ 1, .tryBlock false [⟨at_ 2, .imports [⟨at_ 2, "a.b", some "c"⟩]⟩]
      [⟨at_ 3, none, none, [⟨at_ 4, .classDef "K" [] [] [function 5] []⟩]⟩] [] []⟩,
    ⟨at_ 6, .assign [⟨at_ 6, .name "x"⟩, ⟨at_ 6, .name "x"⟩] ⟨at_ 6, .constant .none⟩⟩,
    function 7]

theorem symbols_breadth_first_nestedModule :
    DefinitionsApart "m.py" (breadthFirst nestedModule) ∧
      (symbolsOf "m.py" nestedModule).map (fun x => (x.kind.word, x.name, x.line)) =
        [("variable", "x", 6), ("variable", "x", 6), ("function", "f", 7), ("import", "c", 2),
          ("class", "K", 4), ("function", "f", 5)] := by
  have apart : DefinitionsApart "m.py" (breadthFirst nestedModule) := by decide
  refine ⟨apart, ?_⟩
  rw [(symbols_breadth_first "m.py" nestedModule apart).1]
  decide

end VoiceDebugger
