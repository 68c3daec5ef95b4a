/-
  SuiteCompiler/Project/Loading.lean
  ==================================
  Reading suites, snippets and other documents from files of JSON text in UTF-8.
-/
import SuiteCompiler.Document.Reader
import SuiteCompiler.Project.Files
import SuiteCompiler.Suite.Snippets
import SuiteCompiler.Text.Utf8

namespace SuiteCompiler

/-- The text that reports bytes that are not UTF-8. -/
def utf8Message (fault : Text.Utf8Fault) : String :=
  let reason :=
    match fault.cause with
    | .invalidStart => "invalid start byte"
    | .invalidContinuation => "invalid continuation byte"
    | .unexpectedEnd => "unexpected end of data"
  let place :=
    if fault.more = 0 then
      let code := String.ofList (Text.hexDigits 2 fault.first.toNat)
      s!"byte 0x{code} in position {fault.offset}"
    else s!"bytes in position {fault.offset}-{fault.offset + fault.more}"
  s!"'utf-8' codec can't decode {place}: {reason}"

/-- Why a file is no document. -/
inductive LoadReason where
  | notFound
  | notUtf8 (fault : Text.Utf8Fault)
  | notJson (fault : JsonFault) (line column position : Nat)
  | notAnObject
  deriving DecidableEq, Repr

/-- The text that reports a reason. -/
def LoadReason.message : LoadReason → String
  | .notFound => "file not found"
  | .notUtf8 fault => s!"not valid UTF-8 ({utf8Message fault})"
  | .notJson fault line column position =>
    let text := (JsonError.malformed fault line column position).message
    s!"invalid JSON ({text})"
  | .notAnObject => "expected a JSON object"

/-- Why a document is not loaded. -/
inductive LoadFault where
  /-- The file at a path is no document. -/
  | unreadable (path : String) (reason : LoadReason)
  /-- The document at a path does not have the expected structure. -/
  | invalid (path : String) (fault : ModelFault)
  /-- The id of a target is a list or an object. -/
  | unhashable (kind : Kind)
  /-- A whole number has more digits than are read. -/
  | tooManyDigits (count : Nat)
  /-- A path is too long, or a name on its way is. -/
  | nameTooLong (path : String)
  deriving DecidableEq, Repr

/-- The text that reports the path of a file that is no document, and the reason. -/
def unreadableText (path reason : String) : String := s!"Failed to load {path}: {reason}"

/-- The text that reports a path that is too long. -/
def nameTooLongText (path : String) : String :=
  s!"[Errno 36] File name too long: {String.ofList (Text.quoted path)}"

/-- The text that reports a fault. -/
def LoadFault.message : LoadFault → String
  | .unreadable path reason => unreadableText path reason.message
  | .invalid path fault => s!"{path}: {fault.message}"
  | .unhashable kind => unhashableText kind
  | .tooManyDigits count => Number.tooManyDigitsText count
  | .nameTooLong path => nameTooLongText path

namespace Files

/-- The object that a content denotes, reported under a path. -/
def parseObject (path : String) (content : List UInt8) : Except LoadFault Fields :=
  match Text.decodeUtf8 content with
  | .error fault => .error (.unreadable path (.notUtf8 fault))
  | .ok chars =>
    match Value.parseChars (Text.normalizeNewlines chars) with
    | .error (.malformed fault line column position) =>
      .error (.unreadable path (.notJson fault line column position))
    | .error (.tooManyDigits count) => .error (.tooManyDigits count)
    | .ok (.object fields) => .ok fields
    | .ok _ => .error (.unreadable path .notAnObject)

/-- The object in a file. -/
def loadObject (files : Files) (path : String) : Except LoadFault Fields :=
  let p := Path.ofString path
  match files.read p with
  | .error .notFound => .error (.unreadable p.text .notFound)
  | .error .nameTooLong => .error (.nameTooLong p.text)
  | .ok content => parseObject p.text content

/-- Whether the document at a path has half of a pair in one of its texts. -/
def hasHalves (files : Files) (path : String) : Bool :=
  match files.read (Path.ofString path) with
  | .error _ => false
  | .ok content =>
    match Text.decodeUtf8 content with
    | .error _ => false
    | .ok chars => Json.hasHalves chars

/-- What a document denotes, its faults reported under a path. -/
def accept {α : Type} (path : String) : Except ModelFault α → Except LoadFault α
  | .ok a => .ok a
  | .error (.unhashableId kind) => .error (.unhashable kind)
  | .error fault => .error (.invalid path fault)

/-- The suite in a file. -/
def loadSuite (files : Files) (path : String) : Except LoadFault Suite := do
  let fields ← files.loadObject path
  accept path (Suite.ofValue (.object fields))

/-- The snippets in a file, none if there is no path. -/
def loadSnippets (files : Files) : Option String → Except LoadFault SnippetLibrary
  | none => .ok SnippetLibrary.empty
  | some path => do
    let fields ← files.loadObject path
    accept path (SnippetLibrary.ofValue (.object fields))

end Files

end SuiteCompiler
