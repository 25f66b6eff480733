import VoiceDebugger.Source.Walk

/-!
The statements of a module level by level.

A statement's parts stand one level below it; the parts of a handler or of a case stand one level
below the handler or the case. A walk with a queue comes to the statements in this order, and so to
every statement, however deep it stands.
-/

namespace VoiceDebugger.Source

/-! ### Levels -/

/-- Join two lists of levels level by level. -/
def mergeLevels {α : Type} : List (List α) → List (List α) → List (List α)
  | [], ys => ys
  | xs, [] => xs
  | x :: xs, y :: ys => (x ++ y) :: mergeLevels xs ys

mutual

/-- The levels of a statement; it stands alone on the first one. -/
def Stmt.levels : Stmt → List (List Stmt)
  | ⟨span, form⟩ => [⟨span, form⟩] :: StmtForm.partLevels form

/-- The levels of the parts of a statement. -/
def StmtForm.partLevels : StmtForm → List (List Stmt)
  | .functionDef _ _ _ body _ _ => blockLevels body
  | .classDef _ _ _ body _ => blockLevels body
  | .forLoop _ _ _ body orelse => mergeLevels (blockLevels body) (blockLevels orelse)
  | .whileLoop _ body orelse => mergeLevels (blockLevels body) (blockLevels orelse)
  | .ifElse _ body orelse => mergeLevels (blockLevels body) (blockLevels orelse)
  | .withBlock _ _ body => blockLevels body
  | .matchOn _ cases => caseLevels cases
  | .tryBlock _ body handlers orelse final =>
    mergeLevels (blockLevels body)
      (mergeLevels (handlerLevels handlers)
        (mergeLevels (blockLevels orelse) (blockLevels final)))
  | _ => []

/-- The levels of statements side by side. -/
def blockLevels : List Stmt → List (List Stmt)
  | [] => []
  | s :: rest => mergeLevels (Stmt.levels s) (blockLevels rest)

/-- The levels of handlers side by side. -/
def handlerLevels : List Handler → List (List Stmt)
  | [] => []
  | ⟨_, _, _, body⟩ :: rest => mergeLevels ([] :: blockLevels body) (handlerLevels rest)

/-- The levels of cases side by side. -/
def caseLevels : List MatchCase → List (List Stmt)
  | [] => []
  | ⟨_, _, body⟩ :: rest => mergeLevels ([] :: blockLevels body) (caseLevels rest)

end

/-- All statements of a module, breadth first. -/
def breadthFirst (body : List Stmt) : List Stmt :=
  (blockLevels body).flatten

section Merge

variable {α : Type} (xs ys zs : List (List α))

theorem mergeLevels_nil : mergeLevels xs [] = xs := by
  cases xs <;> rfl

theorem mergeLevels_assoc :
    mergeLevels (mergeLevels xs ys) zs = mergeLevels xs (mergeLevels ys zs) := by
  induction xs generalizing ys zs with
  | nil => rfl
  | cons x xs ih =>
    cases ys with
    | nil => rfl
    | cons y ys =>
      cases zs with
      | nil => rfl
      | cons z zs => simp only [mergeLevels, List.append_assoc, ih]

theorem mem_flatten_mergeLevels (a : α) :
    a ∈ (mergeLevels xs ys).flatten ↔ a ∈ xs.flatten ∨ a ∈ ys.flatten := by
  induction xs generalizing ys with
  | nil => simp [mergeLevels]
  | cons x xs ih =>
    cases ys with
    | nil => simp [mergeLevels]
    | cons y ys =>
      simp only [mergeLevels, List.flatten_cons, List.mem_append, ih]
      exact or_or_or_comm

end Merge

/-! ### The levels of nodes -/

/-- The levels of a node. A handler and a case are no statements, so their first level is empty. -/
def Node.levels : Node → List (List Stmt)
  | .stmt s => s.levels
  | .handler h => [] :: blockLevels h.body
  | .matchCase c => [] :: blockLevels c.body

/-- The levels of nodes side by side. -/
def nodeLevels : List Node → List (List Stmt)
  | [] => []
  | n :: rest => mergeLevels n.levels (nodeLevels rest)

theorem nodeLevels_append (one two : List Node) :
    nodeLevels (one ++ two) = mergeLevels (nodeLevels one) (nodeLevels two) := by
  induction one with
  | nil => rfl
  | cons n rest ih => rw [List.cons_append, nodeLevels, nodeLevels, ih, mergeLevels_assoc]

theorem nodeLevels_stmts (body : List Stmt) : nodeLevels (body.map .stmt) = blockLevels body := by
  induction body with
  | nil => rw [List.map_nil, nodeLevels, blockLevels]
  | cons s rest ih => rw [List.map_cons, nodeLevels, blockLevels, ih, Node.levels]

theorem nodeLevels_handlers (hs : List Handler) :
    nodeLevels (hs.map .handler) = handlerLevels hs := by
  induction hs with
  | nil => rw [List.map_nil, nodeLevels, handlerLevels]
  | cons h rest ih =>
    obtain ⟨span, type, name, body⟩ := h
    rw [List.map_cons, nodeLevels, handlerLevels, ih, Node.levels]

theorem nodeLevels_cases (cs : List MatchCase) : nodeLevels (cs.map .matchCase) = caseLevels cs := by
  induction cs with
  | nil => rw [List.map_nil, nodeLevels, caseLevels]
  | cons c rest ih =>
    obtain ⟨pattern, guard, body⟩ := c
    rw [List.map_cons, nodeLevels, caseLevels, ih, Node.levels]

theorem StmtForm.partLevels_eq (form : StmtForm) : form.partLevels = nodeLevels form.children := by
  cases form <;>
    simp only [partLevels, children, nodeLevels, nodeLevels_append, nodeLevels_stmts,
      nodeLevels_handlers, nodeLevels_cases, mergeLevels_assoc]

/-- A node stands on the first of its levels, and its children's levels follow. -/
theorem Node.levels_eq (n : Node) : n.levels = n.stmt?.toList :: nodeLevels n.children := by
  cases n with
  | stmt s =>
    obtain ⟨span, form⟩ := s
    rw [levels, Stmt.levels, StmtForm.partLevels_eq, stmt?, children, Option.toList]
  | handler h => rw [levels, stmt?, children, nodeLevels_stmts, Option.toList]
  | matchCase c => rw [levels, stmt?, children, nodeLevels_stmts, Option.toList]

/-- Nodes side by side stand on the first of their levels, and the levels of all their children
follow. -/
theorem nodeLevels_eq (n : Node) (rest : List Node) :
    nodeLevels (n :: rest) =
      (n :: rest).filterMap Node.stmt? :: nodeLevels ((n :: rest).flatMap Node.children) := by
  induction rest generalizing n with
  | nil =>
    rw [nodeLevels, nodeLevels, mergeLevels_nil, n.levels_eq]
    cases own : n.stmt? <;> simp [own]
  | cons m rest ih =>
    rw [nodeLevels, ih m, n.levels_eq, mergeLevels, ← nodeLevels_append]
    cases own : n.stmt? <;> simp [own]

/-! ### The walk -/

/-- While the queue holds the rest of a level and what of the next one was found so far, the walk
comes to the rest of the level first, then to the next level and those below it. -/
theorem walk_levels : (front back : List Node) →
    (walk (front ++ back)).filterMap Node.stmt? =
      front.filterMap Node.stmt? ++ (nodeLevels (back ++ front.flatMap Node.children)).flatten
  | n :: front, back => by
    have step := walk_levels front (back ++ n.children)
    rw [List.cons_append, walk, List.append_assoc, List.filterMap_cons, step]
    cases own : n.stmt? <;> simp [own]
  | [], [] => by simp [walk, nodeLevels]
  | [], m :: back => by
    -- The level is over: what was found of the next one is the whole of it.
    have step := walk_levels back m.children
    rw [List.nil_append, walk, List.filterMap_cons, step, List.flatMap_nil, List.append_nil,
      nodeLevels_eq]
    cases own : m.stmt? <;> simp [own]
termination_by front back => totalSize (front ++ back)
decreasing_by
  · have below := n.totalSize_children
    simp only [List.cons_append, totalSize_cons, totalSize_append]
    omega
  · have below := m.totalSize_children
    simp only [List.nil_append, totalSize_cons, totalSize_append]
    omega

/-- A walk goes breadth first. -/
theorem walkThrough_eq (body : List Stmt) : walkThrough body = breadthFirst body := by
  have levels := walk_levels [] (body.map .stmt)
  simp only [List.nil_append, List.filterMap_nil, List.flatMap_nil, List.append_nil] at levels
  rw [walkThrough, levels, nodeLevels_stmts, breadthFirst]

/-! ### Statements at any depth -/

/-- The blocks right inside a statement. -/
def StmtForm.blocks : StmtForm → List (List Stmt)
  | .functionDef _ _ _ body _ _ => [body]
  | .classDef _ _ _ body _ => [body]
  | .forLoop _ _ _ body orelse => [body, orelse]
  | .whileLoop _ body orelse => [body, orelse]
  | .ifElse _ body orelse => [body, orelse]
  | .withBlock _ _ body => [body]
  | .matchOn _ cases => cases.map MatchCase.body
  | .tryBlock _ body handlers orelse final => body :: handlers.map Handler.body ++ [orelse, final]
  | _ => []

/-- A statement that stands in a block at any depth. -/
inductive Within (s : Stmt) : List Stmt → Prop where
  | here {block : List Stmt} (member : s ∈ block) : Within s block
  | inside {block inner : List Stmt} (t : Stmt) (member : t ∈ block) (part : inner ∈ t.form.blocks)
      (deeper : Within s inner) : Within s block

theorem StmtForm.sizeOf_blocks (form : StmtForm) (inner : List Stmt) (part : inner ∈ form.blocks) :
    sizeOf inner < sizeOf form := by
  cases form with
  | matchOn _ cases =>
    obtain ⟨⟨pattern, guard, body⟩, member, rfl⟩ := List.mem_map.mp part
    have smaller := List.sizeOf_lt_of_mem member
    simp only [MatchCase.mk.sizeOf_spec, matchOn.sizeOf_spec] at smaller ⊢
    omega
  | tryBlock _ body handlers orelse final =>
    simp only [blocks, List.cons_append, List.mem_cons, List.mem_append, List.not_mem_nil, or_false]
      at part
    simp only [tryBlock.sizeOf_spec]
    rcases part with rfl | handled | rfl | rfl
    · omega
    · obtain ⟨⟨span, type, name, body⟩, member, rfl⟩ := List.mem_map.mp handled
      have smaller := List.sizeOf_lt_of_mem member
      simp only [Handler.mk.sizeOf_spec] at smaller ⊢
      omega
    · omega
    · omega
  | functionDef _ _ _ body _ _ | classDef _ _ _ body _ | withBlock _ _ body =>
    obtain rfl := List.mem_singleton.mp part
    simp only [functionDef.sizeOf_spec, classDef.sizeOf_spec, withBlock.sizeOf_spec]
    omega
  | forLoop _ _ _ body orelse | whileLoop _ body orelse | ifElse _ body orelse =>
    simp only [blocks, List.mem_cons, List.not_mem_nil, or_false] at part
    simp only [forLoop.sizeOf_spec, whileLoop.sizeOf_spec, ifElse.sizeOf_spec]
    rcases part with rfl | rfl <;> omega
  | _ => cases part

theorem mem_handlerLevels (s : Stmt) (hs : List Handler) :
    s ∈ (handlerLevels hs).flatten ↔ ∃ inner ∈ hs.map Handler.body, s ∈ breadthFirst inner := by
  induction hs with
  | nil => simp [handlerLevels]
  | cons h rest ih =>
    obtain ⟨span, type, name, body⟩ := h
    rw [handlerLevels, mem_flatten_mergeLevels, ih, List.flatten_cons, List.nil_append]
    simp only [List.map_cons, List.mem_cons, exists_eq_or_imp, breadthFirst]

theorem mem_caseLevels (s : Stmt) (cs : List MatchCase) :
    s ∈ (caseLevels cs).flatten ↔ ∃ inner ∈ cs.map MatchCase.body, s ∈ breadthFirst inner := by
  induction cs with
  | nil => simp [caseLevels]
  | cons c rest ih =>
    obtain ⟨pattern, guard, body⟩ := c
    rw [caseLevels, mem_flatten_mergeLevels, ih, List.flatten_cons, List.nil_append]
    simp only [List.map_cons, List.mem_cons, exists_eq_or_imp, breadthFirst]

theorem StmtForm.mem_partLevels (s : Stmt) (form : StmtForm) :
    s ∈ form.partLevels.flatten ↔ ∃ inner ∈ form.blocks, s ∈ breadthFirst inner := by
  cases form <;>
    simp [partLevels, blocks, mem_flatten_mergeLevels, mem_handlerLevels, mem_caseLevels,
      breadthFirst, or_and_right, exists_or, -List.mem_flatten]

theorem mem_breadthFirst (s : Stmt) (block : List Stmt) :
    s ∈ breadthFirst block ↔
      ∃ t ∈ block, s = t ∨ ∃ inner ∈ t.form.blocks, s ∈ breadthFirst inner := by
  induction block with
  | nil => simp [breadthFirst, blockLevels]
  | cons t rest ih =>
    obtain ⟨span, form⟩ := t
    rw [breadthFirst] at ih
    rw [breadthFirst, blockLevels, mem_flatten_mergeLevels, ih, Stmt.levels, List.flatten_cons,
      List.mem_append, List.mem_singleton, StmtForm.mem_partLevels]
    simp only [List.mem_cons, exists_eq_or_imp]

/-- Breadth first, all statements of a module are listed, at any depth, and no others. -/
theorem mem_breadthFirst_iff (s : Stmt) (block : List Stmt) :
    s ∈ breadthFirst block ↔ Within s block := by
  constructor
  · intro member
    induction size : sizeOf block using Nat.strongRecOn generalizing block with
    | ind n ih =>
      obtain ⟨t, present, rfl | ⟨inner, part, below⟩⟩ := (mem_breadthFirst s block).mp member
      · exact .here present
      · have smaller := t.form.sizeOf_blocks inner part
        have whole := List.sizeOf_lt_of_mem present
        obtain ⟨span, form⟩ := t
        simp only [Stmt.mk.sizeOf_spec] at whole smaller
        exact .inside ⟨span, form⟩ present part (ih _ (by omega) inner below rfl)
  · intro within
    induction within with
    | here member => exact (mem_breadthFirst s _).mpr ⟨s, member, .inl rfl⟩
    | inside t member part _ ih => exact (mem_breadthFirst s _).mpr ⟨t, member, .inr ⟨_, part, ih⟩⟩

end VoiceDebugger.Source
