import NameResolution.Syntax.Position

/-!
# Type annotations

Name resolution looks at nothing of a type but its mutable flag; the rest is
carried along.
-/

namespace NameResolution

/-- A type annotation. Every form carries its mutable flag and its span. -/
inductive Ty where
  | any (mutable : Bool) (span : Span)
  | named (name : Ident) (mutable : Bool) (span : Span)
  | array (element : Ty) (mutable : Bool) (span : Span)
  | function (params : List Ty) (result : Ty) (mutable : Bool) (span : Span)
deriving Inhabited

namespace Ty

/-- Whether the annotation says `mut`. -/
def mutable : Ty → Bool
  | .any mutable _ => mutable
  | .named _ mutable _ => mutable
  | .array _ mutable _ => mutable
  | .function _ _ mutable _ => mutable

/-- Where the annotation is written. -/
def span : Ty → Span
  | .any _ span => span
  | .named _ _ span => span
  | .array _ _ span => span
  | .function _ _ _ span => span

/-- The same annotation with its mutable flag set. -/
def asMutable : Ty → Ty
  | .any _ span => .any true span
  | .named name _ span => .named name true span
  | .array element _ span => .array element true span
  | .function params result _ span => .function params result true span

end Ty

/-- A parameter of a function. -/
structure Param where
  name : Ident
  ty : Ty
deriving Inhabited

/-- A parameter may be reassigned exactly when its type is mutable. -/
def Param.isMutable (param : Param) : Bool :=
  param.ty.mutable

end NameResolution
