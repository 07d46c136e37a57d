import RequestFlow.Value.Text
import RequestFlow.Numeral.Reading
import RequestFlow.Text.Utf8

/-!
# Faults

Everything that can go wrong is one constructor of `Fault`, named for its cause. The word for the
sort of a fault, its wording, and what a client is told of it are functions of the cause, so that no
part of the program composes an error text of its own.
-/

namespace RequestFlow

/-- A step from a document into one of its parts. -/
inductive PathStep
  | field (name : String)
  | index (position : Int)
  deriving DecidableEq, Repr

/-- What is wrong with a part of a document. -/
inductive ProblemCause
  | missing
  | notText
  | notList
  | notObject
  | notRecord (name : String)
  | keyNotText
  | duplicateNodes (controller : String) (ids : List String)
  deriving DecidableEq, Repr

/-- A part of a document that is refused, and why. -/
structure Problem where
  /-- The path to the part. -/
  path : List PathStep
  /-- Why it is refused. -/
  cause : ProblemCause
  deriving DecidableEq, Repr

namespace ProblemCause

/-- The code of a cause in reports. -/
def code : ProblemCause → String
  | .missing => "missing"
  | .notText => "string_type"
  | .notList => "list_type"
  | .notObject => "dict_type"
  | .notRecord _ => "model_type"
  | .keyNotText => "invalid_key"
  | .duplicateNodes _ _ => "value_error"

/-- The wording of a cause in reports. -/
def message : ProblemCause → String
  | .missing => "Field required"
  | .notText => "Input should be a valid string"
  | .notList => "Input should be a valid list"
  | .notObject => "Input should be a valid dictionary"
  | .notRecord name => "Input should be a valid dictionary or instance of " ++ name
  | .keyNotText => "Keys should be strings"
  | .duplicateNodes controller ids =>
    "Value error, Duplicate node ids in controller '" ++ controller ++ "': " ++
      (Value.texts ids).display

end ProblemCause

/-- Sorts of faults that host programs raise themselves. -/
inductive RaisedKind
  | runtime
  | value
  | key
  | type
  deriving DecidableEq, Repr

/-- What is wrong with the arguments of a message template. -/
inductive FormatFault
  | notReal (directive : Char) (kind : Kind)
  | notWhole (directive : Char) (kind : Kind)
  | notNumber (kind : Kind)
  | notMapping
  | missingKey (key : String)
  | surplusArguments
  | missingArguments
  | unsupported (directive : Char) (position : Nat)
  | incomplete
  | incompleteKey
  | starNotWhole
  | notCharacter
  | characterRange
  | widthTooBig
  | widthOutOfRange
  | precisionTooBig
  | precisionOutOfRange
  | infinityToInteger
  | nanToInteger
  | largeFloat
  deriving DecidableEq, Repr

/-- The wording of what is wrong with a malformed sequence of bytes. -/
def Text.Defect.message : Text.Defect → String
  | .noStart => "invalid start byte"
  | .noContinuation => "invalid continuation byte"
  | .cutOff => "unexpected end of data"

/-- The place of a malformed sequence: its only byte and where it is, or where its bytes are. -/
def Text.Flaw.place (flaw : Text.Flaw) : String :=
  let first := String.ofList (intText flaw.position)
  match flaw.bytes with
  | [byte] => "byte 0x" ++ String.ofList (Text.hexText 2 byte.toNat) ++ " in position " ++ first
  | bytes =>
    "bytes in position " ++ first ++ "-" ++
      String.ofList (intText (flaw.position + bytes.length - 1))

/-- A failure, by its cause. -/
inductive Fault
  | notInteger (content : String)
  | tooManyDigits (count : Nat)
  | noIntegerOf (kind : Kind)
  | nanToInteger
  | infinityToInteger
  | notNumber (content : String)
  | integerTooLarge
  | noMember (kind : Kind) (member : String)
  | notIterable (kind : Kind)
  | unhashable (kind : Kind)
  | notSliceable (kind : Kind)
  | keyNotJson (kind : Kind)
  | noPathFrom (kind : Kind)
  | memberNameNotText (kind : Kind)
  | unexpectedField (record field : String)
  | headersNotObject (node : String)
  | noVariableName (node : String)
  | unsupportedOutcome (kind : Kind)
  | noExecutor
  | documentNotObject
  | invalidFlowFile (path : String)
  | invalidDocument (problems : List Problem)
  | noControllerName
  | sealedEngine
  | fileMissing (path : String)
  | fileIsDirectory (path : String)
  | pathThroughFile (path : String)
  | nameTooLong (path : String)
  | nullInPath
  | undecodable (flaw : Text.Flaw)
  | notPath (kind : Kind)
  | unknownLevel (name : String)
  | levelNotText (kind : Kind)
  | badTemplate (fault : FormatFault)
  | codeTooLarge
  | repetitionTooLarge
  | conflictingAlphabets
  | raised (kind : RaisedKind) (message : String)
  | flow (message : String)
  | configuration (message : String)
  | controllerNotFound (controller : String)
  | endpointNotFound (controller method path : String)
  | startNodeNotFound (controller : String) (endpoint : Value)
  | handlerNotFound (typeTag node : String)
  | handler (message node typeTag : String)
  | inHandler (cause : Fault) (node typeTag : String)
  | tooDeep (node : String) (limit : Int)
  deriving Repr

namespace FormatFault

/-- The wording of a fault of a message template. -/
def message : FormatFault → String
  | .notReal directive kind =>
    "%" ++ directive.toString ++ " format: a real number is required, not " ++ kind.name
  | .notWhole directive kind =>
    "%" ++ directive.toString ++ " format: an integer is required, not " ++ kind.name
  | .notNumber kind => "must be real number, not " ++ kind.name
  | .notMapping => "format requires a mapping"
  | .missingKey key => quotedText key
  | .surplusArguments => "not all arguments converted during string formatting"
  | .missingArguments => "not enough arguments for format string"
  | .unsupported directive position =>
    "unsupported format character '" ++
      (if 31 ≤ directive.toNat ∧ directive.toNat < 127 then directive.toString else "?") ++
      "' (0x" ++ String.ofList (Text.hexText 1 directive.toNat) ++ ") at index " ++
      String.ofList (intText position)
  | .incomplete => "incomplete format"
  | .incompleteKey => "incomplete format key"
  | .starNotWhole => "* wants int"
  | .notCharacter => "%c requires int or char"
  | .characterRange => "%c arg not in range(0x110000)"
  | .widthTooBig => "width too big"
  | .widthOutOfRange => "Python int too large to convert to C ssize_t"
  | .precisionTooBig => "precision too big"
  | .precisionOutOfRange => "Python int too large to convert to C int"
  | .infinityToInteger => "cannot convert float infinity to integer"
  | .nanToInteger => "cannot convert float NaN to integer"
  | .largeFloat => "int too large to convert to float"

/-- The word for the sort of a fault of a message template. -/
def sort : FormatFault → String
  | .missingKey _ => "KeyError"
  | .unsupported _ _ | .incomplete | .incompleteKey | .widthTooBig | .precisionTooBig
  | .nanToInteger => "ValueError"
  | .characterRange | .infinityToInteger | .largeFloat | .widthOutOfRange | .precisionOutOfRange =>
    "OverflowError"
  | _ => "TypeError"

end FormatFault

namespace Fault

/-- The first characters of a quoted text. -/
def quotedStart (limit : Nat) (content : String) : String :=
  String.ofList ((Text.quoted content.toList).take limit)

/-- The word for the sort of a fault. -/
def sort : Fault → String
  | .notInteger _ | .tooManyDigits _ | .nanToInteger | .notNumber _ | .conflictingAlphabets
  | .nullInPath => "ValueError"
  | .undecodable _ => "UnicodeDecodeError"
  | .infinityToInteger | .integerTooLarge | .codeTooLarge | .repetitionTooLarge =>
    "OverflowError"
  | .noIntegerOf _ | .notIterable _ | .unhashable _ | .notSliceable _ | .keyNotJson _
  | .noPathFrom _ | .memberNameNotText _ | .unexpectedField _ _ | .unsupportedOutcome _
  | .notPath _ => "TypeError"
  | .noMember _ _ | .levelNotText _ => "AttributeError"
  | .headersNotObject _ | .noVariableName _ | .documentNotObject | .invalidFlowFile _
  | .noControllerName | .unknownLevel _ => "ValueError"
  | .noExecutor | .sealedEngine => "RuntimeError"
  | .invalidDocument _ => "ValidationError"
  | .fileMissing _ => "FileNotFoundError"
  | .fileIsDirectory _ => "IsADirectoryError"
  | .pathThroughFile _ => "NotADirectoryError"
  | .nameTooLong _ => "OSError"
  | .badTemplate fault => fault.sort
  | .raised .runtime _ => "RuntimeError"
  | .raised .value _ => "ValueError"
  | .raised .key _ => "KeyError"
  | .raised .type _ => "TypeError"
  | .flow _ => "FlowError"
  | .configuration _ => "ConfigurationError"
  | .controllerNotFound _ => "ControllerNotFoundError"
  | .endpointNotFound _ _ _ => "EndpointNotFoundError"
  | .startNodeNotFound _ _ => "StartNodeNotFoundError"
  | .handlerNotFound _ _ => "HandlerNotFoundError"
  | .handler _ _ _ | .inHandler _ _ _ => "HandlerError"
  | .tooDeep _ _ => "SubflowDepthError"

/-- The wording of a fault. -/
def message : Fault → String
  | .notInteger content => "invalid literal for int() with base 10: " ++ quotedStart 200 content
  | .tooManyDigits count =>
    "Exceeds the limit (4300 digits) for integer string conversion: value has " ++
      String.ofList (intText count) ++
      " digits; use sys.set_int_max_str_digits() to increase the limit"
  | .noIntegerOf kind =>
    "int() argument must be a string, a bytes-like object or a real number, not '" ++
      kind.name ++ "'"
  | .nanToInteger => "cannot convert float NaN to integer"
  | .infinityToInteger => "cannot convert float infinity to integer"
  | .notNumber content => "could not convert string to float: " ++ quotedText content
  | .integerTooLarge => "int too large to convert to float"
  | .noMember kind member => "'" ++ kind.name ++ "' object has no attribute '" ++ member ++ "'"
  | .notIterable kind => "'" ++ kind.name ++ "' object is not iterable"
  | .unhashable kind => "unhashable type: '" ++ kind.name ++ "'"
  | .notSliceable .object => "unhashable type: 'slice'"
  | .notSliceable kind => "'" ++ kind.name ++ "' object is not subscriptable"
  | .keyNotJson kind => "keys must be str, int, float, bool or None, not " ++ kind.name
  | .noPathFrom kind => "unsupported operand type(s) for /: 'PosixPath' and '" ++ kind.name ++ "'"
  | .memberNameNotText kind => "attribute name must be string, not '" ++ kind.name ++ "'"
  | .unexpectedField record field =>
    record ++ ".__init__() got an unexpected keyword argument " ++ "'" ++ field ++ "'"
  | .headersNotObject node => "Node '" ++ node ++ "' headers must be an object"
  | .noVariableName node => "Node '" ++ node ++ "' has no variableName"
  | .unsupportedOutcome kind => "Node handler returned unsupported outcome type " ++ kind.name
  | .noExecutor => "NodeContext has no executor; sub-traversals are unavailable"
  | .documentNotObject => "Flow document must be a JSON object"
  | .invalidFlowFile path => "Invalid JSON in flow file " ++ path
  | .invalidDocument problems => "; ".intercalate (problems.map (·.cause.message))
  | .noControllerName => "Controller name is required"
  | .sealedEngine => "Cannot register controllers after the engine is sealed"
  | .fileMissing path => "[Errno 2] No such file or directory: " ++ quotedText path
  | .fileIsDirectory path => "[Errno 21] Is a directory: " ++ quotedText path
  | .pathThroughFile path => "[Errno 20] Not a directory: " ++ quotedText path
  | .nameTooLong path => "[Errno 36] File name too long: " ++ quotedText path
  | .nullInPath => "embedded null byte"
  | .undecodable flaw =>
    "'utf-8' codec can't decode " ++ flaw.place ++ ": " ++ flaw.defect.message
  | .notPath kind => "expected str, bytes or os.PathLike object, not " ++ kind.name
  | .unknownLevel name => "Unknown level: " ++ quotedText name
  | .levelNotText kind => "'" ++ kind.name ++ "' object has no attribute 'upper'"
  | .badTemplate fault => fault.message
  | .codeTooLarge => "Python int too large to convert to C int"
  | .repetitionTooLarge => "the repetition number is too large"
  | .conflictingAlphabets => "ASCII and UNICODE flags are incompatible"
  | .raised .key message => quotedText message
  | .raised _ message => message
  | .flow message => message
  | .configuration message => message
  | .controllerNotFound controller => "Controller '" ++ controller ++ "' not found"
  | .endpointNotFound _ _ _ => "Endpoint not found"
  | .startNodeNotFound _ _ => "Start node not found for endpoint"
  | .handlerNotFound typeTag node =>
    "No handler registered for node type '" ++ typeTag ++ "' (node '" ++ node ++ "')"
  | .handler message _ _ => message
  | .inHandler cause _ _ => cause.message
  | .tooDeep node limit =>
    "Sub-traversal depth limit (" ++ String.ofList (intText limit) ++ ") exceeded at node '" ++
      node ++ "'"

/-- Whether a fault is one that the engine reports to a client. -/
def isReported : Fault → Bool
  | .flow _ | .configuration _ | .controllerNotFound _ | .endpointNotFound _ _ _
  | .startNodeNotFound _ _ | .handlerNotFound _ _ | .handler _ _ _ | .inHandler _ _ _
  | .tooDeep _ _ => true
  | _ => false

/-- The status of the response that reports a fault. -/
def status : Fault → Int
  | .controllerNotFound _ | .endpointNotFound _ _ _ => 404
  | _ => 500

/-- The number that identifies the sort of a reported fault. -/
def code : Fault → Int
  | .controllerNotFound _ | .endpointNotFound _ _ _ => 4004
  | .startNodeNotFound _ _ => 5007
  | .handlerNotFound _ _ => 5009
  | .handler _ _ _ | .inHandler _ _ _ | .tooDeep _ _ => 5008
  | _ => 5000

/-- Whether a fault was raised by a handler or on its behalf. -/
def isHandlerFault : Fault → Bool
  | .handler _ _ _ | .inHandler _ _ _ | .tooDeep _ _ => true
  | _ => false

/-- The node that a handler fault is attributed to. -/
def node : Fault → String
  | .handler _ node _ | .inHandler _ node _ | .tooDeep node _ => node
  | _ => ""

/-- The type tag of the node that a handler fault is attributed to. -/
def typeTag : Fault → String
  | .handler _ _ typeTag | .inHandler _ _ typeTag => typeTag
  | _ => ""

/-- The fault behind a handler fault, or the fault itself. -/
def origin : Fault → Fault
  | .inHandler cause _ _ => cause
  | fault => fault

/-- The body of the response that reports a fault. -/
def body (fault : Fault) : Value :=
  match fault with
  | .startNodeNotFound controller endpoint =>
    .record [("error", .text fault.message), ("endpoint", endpoint),
      ("controller", .text controller), ("code", .int fault.code)]
  | .handler _ _ _ | .inHandler _ _ _ | .tooDeep _ _ =>
    .record [("error", .text "Error executing flow"), ("message", .text fault.message),
      ("code", .int fault.code)]
  | _ => .record [("error", .text fault.message), ("code", .int fault.code)]

end Fault

/-- A fault of reading a whole number, with the text that was read. -/
def Fault.ofInteger (content : String) : Numeral.IntegerFault → Fault
  | .malformed => .notInteger content
  | .tooManyDigits count => .tooManyDigits count

namespace Value

/-- The whole number that a value is or denotes: a double is cut toward zero, a text is read. -/
def toInteger : Value → Except Fault Int
  | .bool flag => .ok (if flag then 1 else 0)
  | .int number => .ok number
  | .float .nan => .error .nanToInteger
  | .float (.infinite _) => .error .infinityToInteger
  | .float number => .ok (number.truncate?.getD 0)
  | .text content =>
    match Numeral.readInteger content.toList with
    | .ok number => .ok number
    | .error fault => .error (.ofInteger content fault)
  | value => .error (.noIntegerOf value.kind)

/-- The double nearest to a whole number, unless it is beyond all doubles. -/
def doubleOfInt (number : Int) : Except Fault Double :=
  match Double.ofInt number with
  | .infinite _ => .error .integerTooLarge
  | nearest => .ok nearest

/-- The double that a number or the text of a number denotes. -/
def toDouble : Value → Except Fault Double
  | .bool flag => .ok (.ofInt (if flag then 1 else 0))
  | .int number => doubleOfInt number
  | .float number => .ok number
  | .text content =>
    match Numeral.readDouble? content.toList with
    | some number => .ok number
    | none => .error (.notNumber content)
  | value => .error (.notNumber value.display)

end Value
end RequestFlow
