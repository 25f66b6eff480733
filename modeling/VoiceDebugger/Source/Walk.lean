import VoiceDebugger.Source.Tree

/-!
Walking through the statements of a module with a queue.

Handlers and cases are nodes of their own, between a statement and the statements in them.
Expressions hold no statements, so the walk leaves them out.
-/

namespace VoiceDebugger.Source

/-- A node of a module that is a statement or holds statements. -/
inductive Node where
  | stmt (s : Stmt)
  | handler (h : Handler)
  | matchCase (c : MatchCase)

def Node.stmt? : Node → Option Stmt
  | .stmt s => some s
  | .handler _ => none
  | .matchCase _ => none

/-- The nodes right below a statement, in the order of its parts. -/
def StmtForm.children : StmtForm → List Node
  | .functionDef _ _ _ body _ _ => body.map .stmt
  | .classDef _ _ _ body _ => body.map .stmt
  | .forLoop _ _ _ body orelse => body.map .stmt ++ orelse.map .stmt
  | .whileLoop _ body orelse => body.map .stmt ++ orelse.map .stmt
  | .ifElse _ body orelse => body.map .stmt ++ orelse.map .stmt
  | .withBlock _ _ body => body.map .stmt
  | .matchOn _ cases => cases.map .matchCase
  | .tryBlock _ body handlers orelse final =>
    body.map .stmt ++ handlers.map .handler ++ orelse.map .stmt ++ final.map .stmt
  | _ => []

/-- The nodes right below a node. -/
def Node.children : Node → List Node
  | .stmt s => s.form.children
  | .handler h => h.body.map .stmt
  | .matchCase c => c.body.map .stmt

/-- How much there is to walk through. -/
noncomputable def totalSize : List Node → Nat
  | [] => 0
  | n :: queue => sizeOf n + totalSize queue

@[simp] theorem totalSize_nil : totalSize [] = 0 := rfl

@[simp] theorem totalSize_cons (n : Node) (queue : List Node) :
    totalSize (n :: queue) = sizeOf n + totalSize queue := rfl

@[simp] theorem totalSize_append (one two : List Node) :
    totalSize (one ++ two) = totalSize one + totalSize two := by
  induction one with
  | nil => simp
  | cons n one ih =>
    rw [List.cons_append, totalSize_cons, totalSize_cons, ih]
    omega

theorem totalSize_map {α : Type} [SizeOf α] (f : α → Node) (size : ∀ a, sizeOf (f a) = 1 + sizeOf a)
    (as : List α) : totalSize (as.map f) < sizeOf as := by
  induction as with
  | nil => simp
  | cons a rest ih =>
    simp only [List.map_cons, totalSize_cons, size, List.cons.sizeOf_spec]
    omega

theorem totalSize_stmts (body : List Stmt) : totalSize (body.map .stmt) < sizeOf body :=
  totalSize_map .stmt Node.stmt.sizeOf_spec body

/-- What stands below a node is smaller than the node. -/
theorem Node.totalSize_children (n : Node) : totalSize n.children < sizeOf n := by
  cases n with
  | stmt s =>
    obtain ⟨span, form⟩ := s
    simp only [children, stmt.sizeOf_spec, Stmt.mk.sizeOf_spec]
    cases form with
    | functionDef _ _ _ body _ _ | classDef _ _ _ body _ | withBlock _ _ body =>
      have inner := totalSize_stmts body
      simp only [StmtForm.children, StmtForm.functionDef.sizeOf_spec,
        StmtForm.classDef.sizeOf_spec, StmtForm.withBlock.sizeOf_spec]
      omega
    | forLoop _ _ _ body orelse | whileLoop _ body orelse | ifElse _ body orelse =>
      have inner := totalSize_stmts body
      have other := totalSize_stmts orelse
      simp only [StmtForm.children, totalSize_append, StmtForm.forLoop.sizeOf_spec,
        StmtForm.whileLoop.sizeOf_spec, StmtForm.ifElse.sizeOf_spec]
      omega
    | matchOn _ cases =>
      have inner := totalSize_map .matchCase matchCase.sizeOf_spec cases
      simp only [StmtForm.children, StmtForm.matchOn.sizeOf_spec]
      omega
    | tryBlock _ body handlers orelse final =>
      have inner := totalSize_stmts body
      have handling := totalSize_map .handler handler.sizeOf_spec handlers
      have other := totalSize_stmts orelse
      have last := totalSize_stmts final
      simp only [StmtForm.children, totalSize_append, StmtForm.tryBlock.sizeOf_spec]
      omega
    | _ =>
      simp only [StmtForm.children, totalSize_nil]
      omega
  | handler h =>
    obtain ⟨span, type, name, body⟩ := h
    have inner := totalSize_stmts body
    simp only [children, handler.sizeOf_spec, Handler.mk.sizeOf_spec]
    omega
  | matchCase c =>
    obtain ⟨pattern, guard, body⟩ := c
    have inner := totalSize_stmts body
    simp only [children, matchCase.sizeOf_spec, MatchCase.mk.sizeOf_spec]
    omega

/-- Visit nodes in turn; what stands below a node joins the end of the queue. -/
def walk : List Node → List Node
  | [] => []
  | n :: queue => n :: walk (queue ++ n.children)
termination_by queue => totalSize queue
decreasing_by
  have below := n.totalSize_children
  simp only [totalSize_append, totalSize_cons]
  omega

/-- The statements of a module in the order in which a walk comes to them. -/
def walkThrough (body : List Stmt) : List Stmt :=
  (walk (body.map .stmt)).filterMap Node.stmt?

end VoiceDebugger.Source
