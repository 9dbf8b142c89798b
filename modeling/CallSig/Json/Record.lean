import CallSig.Json.Basic
import CallSig.Json.Decode
import CallSig.Parameter
import CallSig.Report

/-!
# Records as JSON

Every record has an `encode`, which leaves out what is absent, and a `decode`,
which takes an absent optional field, or a `null` in its place, for nothing.
Fields are written in the order of their declaration.
-/

namespace CallSig.Json

/-- A field with an optional text. -/
def textField (key : String) (text : Option String) : List (String × Json) :=
  field? key (text.map .string)

/-! ## Arguments -/

def encodeArgument (arg : Argument) : Json :=
  .object ([("name", .string arg.name)] ++ textField "type" arg.typeExpr ++
    textField "default" arg.defaultExpr ++
    (if arg.optional then [("optional", .bool true)] else []))

def argumentKind : RecordKind where
  title := "struct Argument"
  fields := [.of "name" true decodeString, .of "type" false (decodeOption decodeString),
    .of "default" false (decodeOption decodeString), .of "optional" false decodeBool]

def decodeArgument (node : Node) : Decoded Argument := do
  let found ← argumentKind.read node
  pure {
    name := ← found.required "name" decodeString
    typeExpr := ← found.optional "type" none (decodeOption decodeString)
    defaultExpr := ← found.optional "default" none (decodeOption decodeString)
    optional := ← found.optional "optional" false decodeBool }

def encodeArguments (args : List Argument) : Json :=
  .array (args.map encodeArgument)

/-! ## Signatures -/

def encodeSignature (signature : Signature) : Json :=
  .object [("args", encodeArguments signature.args), ("variadic", .bool signature.variadic)]

def signatureKind : RecordKind where
  title := "struct Signature"
  fields := [.of "args" true (decodeList decodeArgument), .of "variadic" true decodeBool]

def decodeSignature (node : Node) : Decoded Signature := do
  let found ← signatureKind.read node
  pure {
    args := ← found.required "args" (decodeList decodeArgument)
    variadic := ← found.required "variadic" decodeBool }

/-! ## Parameters -/

def encodeKind (kind : Parameter.Kind) : Json :=
  .string kind.label

def decodeKind (node : Node) : Decoded Parameter.Kind :=
  decodeVariant (Parameter.Kind.all.map (·.label)) Parameter.Kind.ofLabel? node

def encodeParameter (parameter : Parameter) : Json :=
  .object ([("name", .string parameter.name), ("kind", encodeKind parameter.kind)] ++
    textField "annotation" parameter.typeExpr ++ textField "default" parameter.defaultExpr ++
    [("optional", .bool parameter.optional)])

def parameterKind : RecordKind where
  title := "struct Parameter"
  fields := [.of "name" true decodeString, .of "kind" true decodeKind,
    .of "annotation" false (decodeOption decodeString),
    .of "default" false (decodeOption decodeString), .of "optional" false decodeBool]

def decodeParameter (node : Node) : Decoded Parameter := do
  let found ← parameterKind.read node
  pure {
    name := ← found.required "name" decodeString
    kind := ← found.required "kind" decodeKind
    typeExpr := ← found.optional "annotation" none (decodeOption decodeString)
    defaultExpr := ← found.optional "default" none (decodeOption decodeString)
    optional := ← found.optional "optional" false decodeBool }

/-! ## Shapes -/

def encodeShape (shape : CallShape) : Json :=
  .object [("positional", encodeArguments shape.positional), ("variadic", .bool shape.variadic)]

def shapeKind : RecordKind where
  title := "struct CallShape"
  fields := [.of "positional" true (decodeList decodeArgument), .of "variadic" true decodeBool]

def decodeShape (node : Node) : Decoded CallShape := do
  let found ← shapeKind.read node
  pure {
    positional := ← found.required "positional" (decodeList decodeArgument)
    variadic := ← found.required "variadic" decodeBool }

/-! ## Reports -/

def encodeReport (report : Report) : Json :=
  .object ([("signature", .string report.signature),
    ("arguments", encodeArguments report.arguments), ("variadic", .bool report.variadic)] ++
    field? "shape" (report.shape.map encodeShape))

def reportKind : RecordKind where
  title := "struct SignatureReport"
  fields := [.of "signature" true decodeString,
    .of "arguments" true (decodeList decodeArgument), .of "variadic" true decodeBool,
    .of "shape" false (decodeOption decodeShape)]

def decodeReport (node : Node) : Decoded Report := do
  let found ← reportKind.read node
  pure {
    signature := ← found.required "signature" decodeString
    arguments := ← found.required "arguments" (decodeList decodeArgument)
    variadic := ← found.required "variadic" decodeBool
    shape := ← found.optional "shape" none (decodeOption decodeShape) }

def encodeReports (reports : List Report) : Json :=
  .array (reports.map encodeReport)

end CallSig.Json
