import JavaChecker.Check.Policy
import JavaChecker.ClassTable.Basic
import JavaChecker.Diagnostic
import JavaChecker.Document.Decode

/-!
# JavaChecker.Codec.Model

How the types, classes and diagnostics of the model are written in documents. For each of them
there is an encoder, which writes the canonical form, and a decoder, which also reads the other
spellings: records by position, choices as one-entry tables, fields with defaults left out.
-/

namespace JavaChecker

/-! ## Types -/

namespace ClassId

/-- Read an id: an integer of 32 bits. -/
def decode : Decoder ClassId := fun d =>
  (Decoder.natural limit "u32" d).map fun n => ⟨UInt32.ofNat n⟩

/-- Write an id as its number. -/
def toDocument (id : ClassId) : Document := .natural id.index

end ClassId

namespace Primitive

/-- The primitive types by keyword. -/
def variants : List (Variant Primitive) := all.map fun p => .plain p.keyword p

/-- Read a primitive type. -/
def decode : Decoder Primitive := Variant.decode .json variants

/-- Write a primitive type as its keyword. -/
def toDocument (p : Primitive) : Document := .string p.keyword

end Primitive

namespace Ty

/-- The forms of a type. Those with content are written as a table with one key. -/
def variants : List (Variant Ty) := [
  .plain "Void" .void,
  ⟨"Primitive", .carries fun d => (Primitive.decode d).map .primitive⟩,
  .plain "Null" .null,
  ⟨"Class", .carries fun d => (ClassId.decode d).map .ofClass⟩]

/-- Read a type. -/
def decode : Decoder Ty := Variant.decode .json variants

/-- Write a type. -/
def toDocument : Ty → Document
  | .void => .string "Void"
  | .primitive p => .table [("Primitive", p.toDocument)]
  | .null => .string "Null"
  | .ofClass id => .table [("Class", id.toDocument)]

end Ty

/-! ## Classes -/

namespace ClassKind

/-- The kinds of class by word. -/
def variants : List (Variant ClassKind) :=
  [.concrete, .abstract, .interface].map fun k => .plain (word k) k

/-- Read a kind of class. -/
def decode : Decoder ClassKind := Variant.decode .json variants

/-- Write a kind of class as its word. -/
def toDocument (k : ClassKind) : Document := .string k.word

end ClassKind

namespace MethodDef

/-- The fields of a method; all of them are needed. -/
def record : Record MethodDef where
  name := "MethodDef"
  blank := { name := "", params := [], returnType := .void }
  fields := [
    .needed "name" .string fun v m => { m with name := v },
    .needed "params" (.list Ty.decode) fun v m => { m with params := v },
    .needed "return_type" Ty.decode fun v m => { m with returnType := v }]

/-- Read a method. -/
def decode : Decoder MethodDef := record.decode .json

/-- Write a method. -/
def toDocument (m : MethodDef) : Document := .table [
  ("name", .string m.name),
  ("params", .list (m.params.map Ty.toDocument)),
  ("return_type", m.returnType.toDocument)]

end MethodDef

namespace ConstructorDef

/-- The fields of a constructor. -/
def record : Record ConstructorDef where
  name := "ConstructorDef"
  blank := { params := [] }
  fields := [.needed "params" (.list Ty.decode) fun v c => { c with params := v }]

/-- Read a constructor. -/
def decode : Decoder ConstructorDef := record.decode .json

/-- Write a constructor. -/
def toDocument (c : ConstructorDef) : Document := .table [
  ("params", .list (c.params.map Ty.toDocument))]

end ConstructorDef

namespace ClassDef

/-- The fields of a class; all but the name and the kind may be left out. -/
def record : Record ClassDef where
  name := "ClassDef"
  blank := { name := "", kind := .concrete }
  fields := [
    .needed "name" .string fun v c => { c with name := v },
    .needed "kind" ClassKind.decode fun v c => { c with kind := v },
    .defaulted "supertypes" (.list ClassId.decode) fun v c => { c with supertypes := v },
    .defaulted "constructor" (.nullable ConstructorDef.decode)
      fun v c => { c with constructor? := v },
    .defaulted "methods" (.list MethodDef.decode) fun v c => { c with methods := v }]

/-- Read a class. -/
def decode : Decoder ClassDef := record.decode .json

/-- Write a class, with all its fields. -/
def toDocument (c : ClassDef) : Document := .table [
  ("name", .string c.name),
  ("kind", c.kind.toDocument),
  ("supertypes", .list (c.supertypes.map ClassId.toDocument)),
  ("constructor", c.constructor?.elim .null ConstructorDef.toDocument),
  ("methods", .list (c.methods.map MethodDef.toDocument))]

end ClassDef

namespace WellKnown

/-- The ids of the two classes that are always there. -/
def record : Record WellKnown where
  name := "WellKnownTypes"
  blank := { object := ⟨0⟩, string := ⟨0⟩ }
  fields := [
    .needed "object" ClassId.decode fun v w => { w with object := v },
    .needed "string" ClassId.decode fun v w => { w with string := v }]

/-- Read the well-known ids. -/
def decode : Decoder WellKnown := record.decode .json

/-- Write the well-known ids. -/
def toDocument (w : WellKnown) : Document := .table [
  ("object", w.object.toDocument),
  ("string", w.string.toDocument)]

end WellKnown

/-! ## Errors and diagnostics -/

namespace TypeErrorKind

/-- The kinds of type error by code. -/
def variants : List (Variant TypeErrorKind) :=
  [.typeMismatch, .argumentCount, .noSuchMethod, .illegalInstantiation].map
    fun k => .plain (code k) k

/-- Read a kind of type error. -/
def decode : Decoder TypeErrorKind := Variant.decode .json variants

/-- Write a kind of type error as its code. -/
def toDocument (k : TypeErrorKind) : Document := .string k.code

end TypeErrorKind

namespace Severity

/-- The severities by word. -/
def variants : List (Variant Severity) :=
  [.error, .warning, .info].map fun s => .plain (word s) s

/-- Read a severity. -/
def decode : Decoder Severity := Variant.decode .json variants

/-- Write a severity as its word. -/
def toDocument (s : Severity) : Document := .string s.word

end Severity

namespace Diagnostic

/-- The fields of a diagnostic; all of them are needed. -/
def record : Record Diagnostic where
  name := "Diagnostic"
  blank := { severity := .error, code := "", message := "" }
  fields := [
    .needed "severity" Severity.decode fun v x => { x with severity := v },
    .needed "code" .string fun v x => { x with code := v },
    .needed "message" .string fun v x => { x with message := v }]

/-- Read a diagnostic. -/
def decode : Decoder Diagnostic := record.decode .json

/-- Write a diagnostic. -/
def toDocument (x : Diagnostic) : Document := .table [
  ("severity", x.severity.toDocument),
  ("code", .string x.code),
  ("message", .string x.message)]

end Diagnostic

/-! ## Options of a check -/

namespace Policy

/-- The policies by word. -/
def variants : List (Variant Policy) :=
  [.uniform, .constructorArgsOnly].map fun p => .plain (word p) p

/-- Read a policy. -/
def decode (dialect : Dialect) : Decoder Policy := Variant.decode dialect variants

/-- Write a policy as its word. -/
def toDocument (p : Policy) : Document := .string p.word

end Policy

namespace CheckOptions

/-- The options of a check. No other keys are allowed. -/
def record (dialect : Dialect) : Record CheckOptions where
  name := "CheckOptions"
  blank := {}
  fields := [.defaulted "recursion" (Policy.decode dialect) fun v o => { o with recursion := v }]
  closed := true

/-- Read the options of a check. -/
def decode (dialect : Dialect) : Decoder CheckOptions := (record dialect).decode dialect

/-- Write the options of a check. -/
def toDocument (o : CheckOptions) : Document := .table [
  ("recursion", o.recursion.toDocument)]

end CheckOptions

end JavaChecker
