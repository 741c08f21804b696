import NameResolution.Syntax.Tree

/-!
# Equality of trees

Two trees are the same when they agree in form, names, numbers and spans.
Number literals are compared as floating-point values: a NaN is unequal even
to itself, and the two zeros are equal. So this is a Boolean test of its own
and no instance of propositional equality.
-/

namespace NameResolution

/-- Equality of literals, with number literals compared as values. -/
def Literal.same : Literal → Literal → Bool
  | .number left, .number right => left == right
  | .string left, .string right => left == right
  | .bool left, .bool right => left == right
  | .nil, .nil => true
  | _, _ => false

mutual

/-- Equality of type annotations. -/
def Ty.same : Ty → Ty → Bool
  | .any mutable span, other => match other with
    | .any mutable' span' => mutable == mutable' && span == span'
    | _ => false
  | .named name mutable span, other => match other with
    | .named name' mutable' span' => name == name' && mutable == mutable' && span == span'
    | _ => false
  | .array element mutable span, other => match other with
    | .array element' mutable' span' =>
      element.same element' && mutable == mutable' && span == span'
    | _ => false
  | .function params result mutable span, other => match other with
    | .function params' result' mutable' span' =>
      Ty.sameAll params params' && result.same result' && mutable == mutable' && span == span'
    | _ => false
  termination_by structural ty => ty

/-- Equality of lists of type annotations, place by place. -/
def Ty.sameAll : List Ty → List Ty → Bool
  | [], [] => true
  | ty :: rest, ty' :: rest' => ty.same ty' && Ty.sameAll rest rest'
  | _, _ => false
  termination_by structural tys => tys

end

/-- Equality of type annotations that may be missing. -/
def Ty.same? : Option Ty → Option Ty → Bool
  | none, none => true
  | some ty, some ty' => ty.same ty'
  | _, _ => false

/-- Equality of parameters. -/
def Param.same (left right : Param) : Bool :=
  left.name == right.name && left.ty.same right.ty

/-- Equality of parameter lists, place by place. -/
def Param.sameAll : List Param → List Param → Bool
  | [], [] => true
  | param :: rest, param' :: rest' => param.same param' && Param.sameAll rest rest'
  | _, _ => false

mutual

/-- Equality of expressions. -/
def Expr.same : Expr → Expr → Bool
  | .literal node value, other => match other with
    | .literal node' value' => node == node' && value.same value'
    | _ => false
  | .array node elements, other => match other with
    | .array node' elements' => node == node' && Expr.sameAll elements elements'
    | _ => false
  | .assign node name value, other => match other with
    | .assign node' name' value' => node == node' && name == name' && value.same value'
    | _ => false
  | .var node name, other => match other with
    | .var node' name' => node == node' && name == name'
    | _ => false
  | .mutArg node name, other => match other with
    | .mutArg node' name' => node == node' && name == name'
    | _ => false
  | .binary node left op right, other => match other with
    | .binary node' left' op' right' =>
      node == node' && left.same left' && op == op' && right.same right'
    | _ => false
  | .logical node left op right, other => match other with
    | .logical node' left' op' right' =>
      node == node' && left.same left' && op == op' && right.same right'
    | _ => false
  | .unary node op operand, other => match other with
    | .unary node' op' operand' => node == node' && op == op' && operand.same operand'
    | _ => false
  | .grouping node inner, other => match other with
    | .grouping node' inner' => node == node' && inner.same inner'
    | _ => false
  | .call node callee args, other => match other with
    | .call node' callee' args' =>
      node == node' && callee.same callee' && Expr.sameAll args args'
    | _ => false
  | .get node object name, other => match other with
    | .get node' object' name' => node == node' && object.same object' && name == name'
    | _ => false
  | .set node object name value, other => match other with
    | .set node' object' name' value' =>
      node == node' && object.same object' && name == name' && value.same value'
    | _ => false
  | .index node object index, other => match other with
    | .index node' object' index' =>
      node == node' && object.same object' && index.same index'
    | _ => false
  | .this node, other => match other with
    | .this node' => node == node'
    | _ => false
  | .super node method, other => match other with
    | .super node' method' => node == node' && method == method'
    | _ => false
  | .structInit node name fields, other => match other with
    | .structInit node' name' fields' =>
      node == node' && name == name' && FieldInit.sameAll fields fields'
    | _ => false
  | .lambda node decl, other => match other with
    | .lambda node' decl' => node == node' && decl.same decl'
    | _ => false
  termination_by structural expr => expr

/-- Equality of lists of expressions, place by place. -/
def Expr.sameAll : List Expr → List Expr → Bool
  | [], [] => true
  | expr :: rest, expr' :: rest' => expr.same expr' && Expr.sameAll rest rest'
  | _, _ => false
  termination_by structural exprs => exprs

/-- Equality of field initializers. -/
def FieldInit.same : FieldInit → FieldInit → Bool
  | ⟨name, value⟩, ⟨name', value'⟩ => name == name' && value.same value'
  termination_by structural field => field

/-- Equality of lists of field initializers, place by place. -/
def FieldInit.sameAll : List FieldInit → List FieldInit → Bool
  | [], [] => true
  | field :: rest, field' :: rest' => field.same field' && FieldInit.sameAll rest rest'
  | _, _ => false
  termination_by structural fields => fields

/-- Equality of function declarations. -/
def FunctionDecl.same : FunctionDecl → FunctionDecl → Bool
  | ⟨name, params, returnType, body, foreign, span⟩, other =>
    name == other.name && Param.sameAll params other.params &&
      Ty.same? returnType other.returnType && Stmt.sameAll body other.body &&
      foreign == other.foreign && span == other.span
  termination_by structural decl => decl

/-- Equality of lists of function declarations, place by place. -/
def FunctionDecl.sameAll : List FunctionDecl → List FunctionDecl → Bool
  | [], [] => true
  | decl :: rest, decl' :: rest' => decl.same decl' && FunctionDecl.sameAll rest rest'
  | _, _ => false
  termination_by structural decls => decls

/-- Equality of expressions that may be missing. -/
def Expr.same? : Option Expr → Option Expr → Bool
  | none, none => true
  | some expr, some expr' => expr.same expr'
  | _, _ => false
  termination_by structural expr => expr

/-- Equality of statements. -/
def Stmt.same : Stmt → Stmt → Bool
  | .block node body, other => match other with
    | .block node' body' => node == node' && Stmt.sameAll body body'
    | _ => false
  | .breakLoop node, other => match other with
    | .breakLoop node' => node == node'
    | _ => false
  | .continueLoop node, other => match other with
    | .continueLoop node' => node == node'
    | _ => false
  | .letDecl node name mutable ty initial foreign, other => match other with
    | .letDecl node' name' mutable' ty' initial' foreign' =>
      node == node' && name == name' && mutable == mutable' && Ty.same? ty ty' &&
        Expr.same? initial initial' && foreign == foreign'
    | _ => false
  | .forRange node counter lower upper body, other => match other with
    | .forRange node' counter' lower' upper' body' =>
      node == node' && counter == counter' && lower.same lower' && upper.same upper' &&
        Stmt.sameAll body body'
    | _ => false
  | .forEach node item collection body, other => match other with
    | .forEach node' item' collection' body' =>
      node == node' && item == item' && collection.same collection' &&
        Stmt.sameAll body body'
    | _ => false
  | .whileLoop node condition body, other => match other with
    | .whileLoop node' condition' body' =>
      node == node' && Expr.same? condition condition' && Stmt.sameAll body body'
    | _ => false
  | .function node decl, other => match other with
    | .function node' decl' => node == node' && decl.same decl'
    | _ => false
  | .expression node value, other => match other with
    | .expression node' value' => node == node' && value.same value'
    | _ => false
  | .print node value, other => match other with
    | .print node' value' => node == node' && value.same value'
    | _ => false
  | .ifElse node condition thenBranch elseBranch, other => match other with
    | .ifElse node' condition' thenBranch' elseBranch' =>
      node == node' && condition.same condition' && thenBranch.same thenBranch' &&
        Stmt.same? elseBranch elseBranch'
    | _ => false
  | .ret node value, other => match other with
    | .ret node' value' => node == node' && Expr.same? value value'
    | _ => false
  | .structDecl node name members, other => match other with
    | .structDecl node' name' members' =>
      node == node' && name == name' && Stmt.sameAll members members'
    | _ => false
  | .classDecl node name superclass methods, other => match other with
    | .classDecl node' name' superclass' methods' =>
      node == node' && name == name' && Expr.same? superclass superclass' &&
        FunctionDecl.sameAll methods methods'
    | _ => false
  termination_by structural stmt => stmt

/-- Equality of statements that may be missing. -/
def Stmt.same? : Option Stmt → Option Stmt → Bool
  | none, none => true
  | some stmt, some stmt' => stmt.same stmt'
  | _, _ => false
  termination_by structural stmt => stmt

/-- Equality of lists of statements, place by place. -/
def Stmt.sameAll : List Stmt → List Stmt → Bool
  | [], [] => true
  | stmt :: rest, stmt' :: rest' => stmt.same stmt' && Stmt.sameAll rest rest'
  | _, _ => false
  termination_by structural stmts => stmts

end

/-- Equality of programs. -/
def Program.same (left right : Program) : Bool :=
  Stmt.sameAll left right

end NameResolution
