import NameResolution.Diagnostic.Description

/-!
# Errors, warnings and faults

The causes of every problem that name resolution finds. An error means that
the program must not run, a warning is advice, and a fault means that the tree
itself has a form that no program text gives.
-/

namespace NameResolution

/-- Problems that keep a program from running. None of them stops the walk. -/
inductive ResolutionError where
  /-- A name is declared again in a scope that binds it; `kept` is the first declaration. -/
  | duplicateDeclaration (name : String) (span kept : Span)
  /-- No open scope and no global binds the name. -/
  | notDeclared (name : String) (span : Span)
  /-- A variable is read while its own first value is computed. -/
  | selfReference (name : String) (span : Span)
  /-- A name marked as intentionally unused is read. -/
  | readOfDiscarded (name unusedPrefix : String) (span : Span)
  /-- An immutable binding is assigned. -/
  | reassignImmutable (name : String) (span declared : Span)
  /-- A member is assigned through an immutable binding. -/
  | mutateThroughImmutable (name : String) (span declared : Span)
  /-- An immutable variable has no first value and can never get one. -/
  | uninitializedImmutable (name : String) (span : Span)
  /-- There is no function to return from. -/
  | topLevelReturn (span : Span)
  /-- An initializer returns a value. -/
  | initializerReturnValue (span : Span)
  | thisOutsideClass (span : Span)
  | superOutsideClass (span : Span)
  | superWithoutSuperclass (span : Span)
  /-- A class names itself as its superclass. -/
  | selfInheritance (name : String) (span : Span)
  /-- A loop over a range or a collection has no statements. -/
  | emptyLoopBody (span : Span)
  /-- The runtime does not back a foreign function. -/
  | unregisteredForeignFunction (name : String) (span : Span)
  /-- The runtime does not back a foreign variable. -/
  | unregisteredForeignVariable (name : String) (span : Span)
deriving DecidableEq, Inhabited

namespace ResolutionError

/-- The place an error is about. -/
def span : ResolutionError → Span
  | .duplicateDeclaration _ span _ => span
  | .notDeclared _ span => span
  | .selfReference _ span => span
  | .readOfDiscarded _ _ span => span
  | .reassignImmutable _ span _ => span
  | .mutateThroughImmutable _ span _ => span
  | .uninitializedImmutable _ span => span
  | .topLevelReturn span => span
  | .initializerReturnValue span => span
  | .thisOutsideClass span => span
  | .superOutsideClass span => span
  | .superWithoutSuperclass span => span
  | .selfInheritance _ span => span
  | .emptyLoopBody span => span
  | .unregisteredForeignFunction _ span => span
  | .unregisteredForeignVariable _ span => span

/-- How an error is shown. -/
def describe : ResolutionError → Description
  | .duplicateDeclaration name span kept =>
    ⟨s!"Duplicate declaration: `{name}` is already declared in this scope",
      "duplicate_declaration", none,
      [⟨"declared again here", span⟩, ⟨"first declared here", kept⟩]⟩
  | .notDeclared name span =>
    ⟨s!"Name not found: `{name}` is not declared in this scope",
      "not_declared", some "declare it with `let` before using it",
      [⟨"referenced here", span⟩]⟩
  | .selfReference name span =>
    ⟨s!"Cannot read `{name}` within its own initializer",
      "self_reference", none, [⟨"read before it is defined", span⟩]⟩
  | .readOfDiscarded name unusedPrefix span =>
    ⟨s!"Cannot read `{name}`: names starting with `{unusedPrefix}` are discarded",
      "read_of_discarded", some "rename the binding if it is meant to be used",
      [⟨"read here", span⟩]⟩
  | .reassignImmutable name span declared =>
    ⟨s!"Cannot reassign non-mutable binding `{name}`",
      "reassign_immutable", some "declare it with `let mut` to allow reassignment",
      [⟨"assigned here", span⟩, ⟨"declared here", declared⟩]⟩
  | .mutateThroughImmutable name span declared =>
    ⟨s!"Cannot mutate a field through non-mutable binding `{name}`",
      "mutate_through_immutable", none,
      [⟨"field assigned here", span⟩, ⟨"declared here", declared⟩]⟩
  | .uninitializedImmutable name span =>
    ⟨s!"Non-mutable binding `{name}` must be initialized",
      "uninitialized_immutable", none, [⟨"declared without a value", span⟩]⟩
  | .topLevelReturn span =>
    ⟨"Cannot return from top-level code",
      "top_level_return", none, [⟨"return outside of a function", span⟩]⟩
  | .initializerReturnValue span =>
    ⟨"Cannot return a value from an initializer",
      "initializer_return_value", none, [⟨"value returned here", span⟩]⟩
  | .thisOutsideClass span =>
    ⟨"Cannot use `this` outside of a class",
      "this_outside_class", none, [⟨"used here", span⟩]⟩
  | .superOutsideClass span =>
    ⟨"Cannot use `super` outside of a class",
      "super_outside_class", none, [⟨"used here", span⟩]⟩
  | .superWithoutSuperclass span =>
    ⟨"Cannot use `super` in a class with no superclass",
      "super_without_superclass", none, [⟨"used here", span⟩]⟩
  | .selfInheritance name span =>
    ⟨s!"A class cannot inherit from itself: `{name}`",
      "self_inheritance", none, [⟨"inherits from itself here", span⟩]⟩
  | .emptyLoopBody span =>
    ⟨"Loop body cannot be empty",
      "empty_loop_body", none, [⟨"this loop has no statements", span⟩]⟩
  | .unregisteredForeignFunction name span =>
    ⟨s!"Foreign function `{name}` is not registered with the runtime",
      "unregistered_foreign_function", none, [⟨"declared `extern` here", span⟩]⟩
  | .unregisteredForeignVariable name span =>
    ⟨s!"Foreign variable `{name}` is not registered with the runtime",
      "unregistered_foreign_variable", none, [⟨"declared `extern` here", span⟩]⟩

end ResolutionError

/-- Advice on a program that may run all the same. -/
inductive Warning where
  /-- A binding was never read before its scope closed. -/
  | unusedLocalVariable (name : String) (span : Span)
  /-- A name is declared that an enclosing scope binds; `earlier` is the nearest such binding. -/
  | shadowedVariable (name : String) (earlier span : Span)
  /-- Statements follow the one at `span` in its list, which never hands control on. -/
  | unreachableCode (span : Span)
deriving DecidableEq, Inhabited

namespace Warning

/-- The place a warning is about. -/
def span : Warning → Span
  | .unusedLocalVariable _ span => span
  | .shadowedVariable _ _ span => span
  | .unreachableCode span => span

/-- How a warning is shown. -/
def describe : Warning → Description
  | .unusedLocalVariable name span =>
    ⟨s!"Unused variable: `{name}` is defined but never used",
      "unused_variable", some "prefix it with `_` if this is intentional",
      [⟨"unused variable", span⟩]⟩
  | .shadowedVariable name earlier span =>
    ⟨s!"Shadowed variable: `{name}` shadows a previous declaration",
      "shadowed_variable", none,
      [⟨"original declaration", earlier⟩, ⟨"shadowing declaration", span⟩]⟩
  | .unreachableCode span =>
    ⟨"Unreachable code", "unreachable_code", none,
      [⟨"any code following this statement is unreachable", span⟩]⟩

end Warning

/-- A member assignment whose object is neither a variable, a member, an
element nor `this`. It ends the walk. -/
structure Fault where
  /-- A few words for the form of the object. -/
  shape : String
  /-- Where the object is. -/
  span : Span
deriving DecidableEq, Inhabited

/-- How a fault is shown. -/
def Fault.describe (fault : Fault) : Description :=
  ⟨s!"Internal resolver error: member assignment on a {fault.shape}",
    "unexpected_set_target",
    some "this is a bug in the parser, not in the program being compiled",
    [⟨"unexpected assignment target", fault.span⟩]⟩

end NameResolution
