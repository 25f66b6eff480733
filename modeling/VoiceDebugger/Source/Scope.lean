import VoiceDebugger.Source.Scope.Block

/-!
The scope rules: every name that is declared nonlocal is bound in a function around.
-/

namespace VoiceDebugger.Source

/-- The names that are known while a block is looked at: those that functions around bind (none
around the module itself), those that are global, and those that the block binds. -/
structure Known where
  bound : Option (List String)
  globals : List String
  own : List String

def faultOfDeclared (declared : List (String × Span)) (name message : String) : Fault :=
  match declared.find? (·.1 == name) with
  | some (_, place) => place.fault message
  | none => { place := .exact 0 0, message := message }

def Known.resolve (k : Known) (declared : List (String × Span)) (name : String) (m : Marks) :
    Except Fault Known :=
  let refuse (message : String) : Except Fault Known :=
    .error (faultOfDeclared declared name message)
  if m.isGlobal then
    if m.isNonlocal then refuse s!"name '{name}' is nonlocal and global"
    else .ok { k with globals := name :: k.globals, bound := k.bound.map (·.filter (· != name)) }
  else if m.isNonlocal then
    match k.bound with
    | none => refuse "nonlocal declaration not allowed at module level"
    | some bound =>
      if bound.contains name then .ok k else refuse s!"no binding for nonlocal '{name}' found"
  else if m.isLocal || m.isParam || m.isImported then
    .ok { k with own := name :: k.own, globals := k.globals.filter (· != name) }
  else .ok k

/-- Look at the names of a block in order. -/
def Known.resolveAll (declared : List (String × Span)) :
    List (String × Marks) → Known → Except Fault Known
  | [], k => .ok k
  | (name, m) :: rest, k => do resolveAll declared rest (← k.resolve declared name m)

/-- What the blocks inside a block know. Names of a class are not seen from inside. -/
def Known.inside (kind : BlockKind) (before after : Known) : Known :=
  match kind with
  | .classBody _ => ⟨some ("__class__" :: before.bound.getD []), before.globals, []⟩
  | .module => ⟨some (after.bound.getD []), after.globals, []⟩
  | _ => ⟨some (after.own ++ after.bound.getD []), after.globals, []⟩

mutual

/-- The scope rules for a block, given what is known around it. -/
def Block.check (around : Known) : Block → Except Fault Unit
  | .mk kind names declared inner => do
    let after ← Known.resolveAll declared names around
    checkBlocks (Known.inside kind around after) inner

/-- The scope rules for blocks in order. -/
def checkBlocks (around : Known) : List Block → Except Fault Unit
  | [] => .ok ()
  | b :: rest => do
    Block.check around b
    checkBlocks around rest

end

/-- The scope rules for a module. -/
def checkScopes (late : Bool) (body : List Stmt) : Except Fault Unit := do
  let block ← buildBlocks (blockEvents late body)
  block.check ⟨none, [], []⟩

/-! ### Suspension -/

/-- Whether a block yields values and whether it can be suspended. -/
structure Duties where
  yields : Bool := false
  suspends : Bool := false
  deriving Repr, Inhabited

/-- What an event adds to the duties of the open blocks, innermost first. A comprehension that makes
a collection passes suspension on to the block around. -/
def ScopeEvent.duty (open_ : List (BlockKind × Duties)) : ScopeEvent → List (BlockKind × Duties)
  | .enter kind => (kind, {}) :: open_
  | .leave =>
    match open_ with
    | (kind, d) :: (outer, around) :: rest =>
      match kind with
      | .comprehension shape =>
        if shape != .generator && d.suspends then (outer, { around with suspends := true }) :: rest
        else (outer, around) :: rest
      | _ => (outer, around) :: rest
    | _ => open_
  | .yields _ =>
    match open_ with
    | (kind, d) :: rest => (kind, { d with yields := true }) :: rest
    | [] => []
  | .suspends =>
    match open_ with
    | (kind, d) :: rest => (kind, { d with suspends := true }) :: rest
    | [] => []
  | _ => open_

/-- The duties that events give to the block in which they happen. -/
def dutiesOf (events : List ScopeEvent) : Duties :=
  match events.foldl ScopeEvent.duty [(.function, {})] with
  | (_, d) :: _ => d
  | [] => {}

end VoiceDebugger.Source
