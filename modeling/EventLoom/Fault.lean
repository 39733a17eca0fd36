import EventLoom.Problem.Basic
import EventLoom.Stream.Group

/-!
# Faults

Every way in which an operation of this library can fail, one constructor for each cause, with
what is to be said of it. A fault is either a problem in the sense of `Problem`, which names its
family and carries details, or a plain refusal of a value or of a call, which has a message at
most.

A fault that turns a value down does so for what the value says or for what it is (`refusal?`). The
message of `wrongType` depends on what was being done with the value, and that of `undecodable` on
the bytes; these two have none here.
-/

namespace EventLoom

open Text Number

/-- What the system answers when it cannot do something. -/
inductive SystemFailure where
  | absent
  | exists
  | notDirectory
  | isDirectory
  | invalidArgument
  | nameTooLong
  | tooManyLinks
  deriving DecidableEq, Repr

namespace SystemFailure

/-- The number of the failure. -/
def number : SystemFailure → Int
  | .absent => 2
  | .exists => 17
  | .notDirectory => 20
  | .isDirectory => 21
  | .invalidArgument => 22
  | .nameTooLong => 36
  | .tooManyLinks => 40

/-- The failure in words. -/
def words : SystemFailure → Text
  | .absent => "No such file or directory".toList
  | .exists => "File exists".toList
  | .notDirectory => "Not a directory".toList
  | .isDirectory => "Is a directory".toList
  | .invalidArgument => "Invalid argument".toList
  | .nameTooLong => "File name too long".toList
  | .tooManyLinks => "Too many levels of symbolic links".toList

/-- The label of system failures that have none of their own. -/
def commonLabel : Text := "OSError".toList

/-- The labels that failures have of their own, by number. -/
def labels : List (Int × Text) := [
  (1, "PermissionError".toList), (2, "FileNotFoundError".toList),
  (3, "ProcessLookupError".toList), (4, "InterruptedError".toList),
  (10, "ChildProcessError".toList), (11, "BlockingIOError".toList),
  (13, "PermissionError".toList), (17, "FileExistsError".toList),
  (20, "NotADirectoryError".toList), (21, "IsADirectoryError".toList),
  (32, "BrokenPipeError".toList), (103, "ConnectionAbortedError".toList),
  (104, "ConnectionResetError".toList), (108, "BrokenPipeError".toList),
  (110, "TimeoutError".toList), (111, "ConnectionRefusedError".toList),
  (114, "BlockingIOError".toList), (115, "BlockingIOError".toList)]

/-- The label of a failure with a given number. -/
def labelOf (number : Int) : Text := (labels.lookup number).getD commonLabel

/-- The label of the failure. -/
def label (f : SystemFailure) : Text := labelOf f.number

/-- The failure with its label, its number and its words. -/
def describe (f : SystemFailure) : Text :=
  f.label ++ '(' :: intText f.number ++ ", ".toList ++ quoted f.words ++ [')']

/-- What is said of the failure. -/
def text (f : SystemFailure) : Text :=
  "[Errno ".toList ++ intText f.number ++ "] ".toList ++ f.words

/-- What is said of the failure with the quoted place where it happened. -/
def about (f : SystemFailure) (place : Text) : Text := f.text ++ ": ".toList ++ place

end SystemFailure

/-- On what ground a value is turned down: what it says, or what it is. -/
inductive Refusal where
  | ofValue
  | ofType
  deriving DecidableEq, Repr

namespace Refusal

/-- The label of the refusal. -/
def label : Refusal → Text
  | .ofValue => "ValueError".toList
  | .ofType => "TypeError".toList

/-- The refusal with its label and its reason. -/
def describe (r : Refusal) (reason : Value) : Text := r.label ++ '(' :: reason.quoted ++ [')']

end Refusal

/-- The ways to fail. -/
inductive Fault where
  -- templates
  /-- A placeholder opens at `position` and is not closed. -/
  | malformedTemplate (position : Nat)
  /-- A template is to begin and to end with a literal. -/
  | evenSegmentCount (count : Nat)
  /-- Literals and placeholders are to alternate. -/
  | misplacedSegment (index : Nat)
  /-- The stream does not have the key. -/
  | unknownKey (key : Text) (streamId : Value)
  -- rendering
  /-- The event is empty, and empty events are not accepted. -/
  | emptyEvent (key : Text)
  /-- The key has no position. -/
  | unboundKey (key : Text)
  /-- The event ends before the position of the key. -/
  | shortEvent (length : Nat) (key : Text) (position : Value)
  -- streams
  | namelessStream
  /-- The attribute says of itself that it belongs to another group. -/
  | misplacedAttribute (name : Text) (declared listed : Group) (streamId : Text)
  | namelessAttribute (streamId : Text)
  /-- The name cannot be a placeholder's key. -/
  | unsafeAttribute (name : Value) (streamId : Text)
  | repeatedAttribute (name streamId : Text)
  /-- Two attributes answer to the key. -/
  | ambiguousKey (key streamId : Text)
  /-- There is no group of this name. -/
  | unknownGroup (name : Value)
  -- mappings and their sources
  /-- A mapping does not come about, for a reason of its maker's own. -/
  | mappingFailed (reason : Value)
  | badFlag (value : Value)
  | unsupportedType (type : Value)
  | twoSources
  | missingSource
  | blankSource
  | noCustomSource
  | noResolver (path : Text)
  | missingResource (path : Text)
  | blankResource
  | outsideRoot (path root : Text)
  | unreadable (path : Text) (failure : SystemFailure)
  /-- Nothing can be put where the quoted `place` says. -/
  | uncreatable (place : Text) (failure : SystemFailure)
  /-- The links on the way to `path` lead back to themselves. -/
  | linkLoop (path : Text)
  | embeddedNul
  /-- The bytes of the file are no text. -/
  | undecodable
  -- settings
  | missingSetting (name : Text)
  /-- The name cannot be one of the system's variables. -/
  | illegalVariable
  /-- The system does not do what it is asked. -/
  | systemFailed (failure : SystemFailure)
  /-- The default of the field is of a kind that the settings of a class would share. -/
  | sharedDefault (kind name : Text)
  /-- The name is that of a constant, so no field can have it. -/
  | constantName (name : Text)
  /-- There is no type of this name. -/
  | unknownType (name : Text)
  /-- The text is not how types are written. -/
  | unreadableType
  | invalidSetting (name : Text) (value : Value) (reason : Text)
  /-- A class of settings turns its values down. -/
  | refused (refusal : Refusal) (reason : Value)
  /-- Settings cannot be loaded, because none can be made. -/
  | settingsFailed (cause : Fault)
  /-- The class of settings reports a problem of configuration. -/
  | settingsRejected (reason : Value)
  /-- There is no policy for empty events of this name. -/
  | unknownPolicy (name : Value)
  | unknownLevel (level : Text)
  -- publishing
  | noActiveMapping
  | bulkheadFull (name workers : Value)
  | tooFewWorkers
  | shutDown
  | taskFailed (reason : Text)
  | transportDown (reason : Text)
  /-- Nothing ever ends the wait, so nothing is answered at all. -/
  | endlessWait
  /-- The number of seconds to wait is more than a clock counts. -/
  | longWait
  /-- The time to wait in seconds is more than a clock shows. -/
  | longTime
  -- numbers as text
  | notInteger (t : Text)
  /-- The numeral has more digits than an integer may have. -/
  | tooManyDigits (count : Nat)
  /-- The integer has more digits than may be written. -/
  | unwritableInteger
  | notReal (t : Text)
  | notDecimal
  /-- The decimal number has an exponent beyond all bounds. -/
  | unboundedDecimal
  /-- At the given place of a text there is no hexadecimal digit. -/
  | notHexadecimal (place : Nat)
  -- numbers of the wrong size
  /-- The integer is too large to be a length. -/
  | notLength
  /-- The integer is too large to say how often a sequence is repeated. -/
  | notCount
  /-- The integer is greater than every real number. -/
  | tooLargeForReal
  | infiniteInteger
  | notNumberInteger
  -- values of the wrong kind
  /-- A number that has no place among the numbers is compared with one. -/
  | incomparable
  /-- A table has no entry under the key. -/
  | absentKey (key : Key)
  | outOfRange
  /-- There are fewer items than are to be told apart. -/
  | tooFewItems (expected found : Nat)
  | tooManyItems (expected : Nat)
  /-- An item that is to be an entry of a table does not have two items. -/
  | notEntry (index length : Nat)
  | wrongType
  | noSuchOperation

namespace Fault

open Problem (ofMessage)

/-- What is said of a numeral, before the text itself. -/
def numeralLead (kind : Text) : Text := kind ++ ": ".toList

/-- The longest piece of a text that is quoted when it is no integer. -/
def quotedNumeralLimit : Nat := 200

/-- How a limit on digits is to be lifted. -/
def digitLimitAdvice : Text :=
  "; use sys.set_int_max_str_digits() to increase the limit".toList

/-- The limit on digits. -/
def digitLimitText : Text :=
  "Exceeds the limit (".toList ++ natText digitLimit
    ++ " digits) for integer string conversion".toList

/-- The message of a fault that is no problem, if it has one. -/
def message? : Fault → Option Text
  | notInteger t =>
    some (numeralLead "invalid literal for int() with base 10".toList
      ++ (quoted t).take quotedNumeralLimit)
  | notReal t => some (numeralLead "could not convert string to float".toList ++ quoted t)
  | tooManyDigits count =>
    some (digitLimitText ++ ": value has ".toList ++ natText count ++ " digits".toList
      ++ digitLimitAdvice)
  | unwritableInteger => some (digitLimitText ++ digitLimitAdvice)
  | unknownPolicy name => some (name.quoted ++ " is not a valid EmptyEventPolicy".toList)
  | unknownGroup name => some (name.quoted ++ " is not a valid AttributeGroup".toList)
  | unknownLevel level => some ("Unknown level: ".toList ++ quoted level)
  | tooFewWorkers => some "max_workers must be >= 1".toList
  | embeddedNul => some "embedded null byte".toList
  | illegalVariable => some "illegal environment variable name".toList
  | uncreatable place failure => some (failure.about place)
  | systemFailed failure => some failure.text
  | sharedDefault kind name =>
    some ("mutable default <class '".toList ++ kind ++ "'> for field ".toList ++ name
      ++ " is not allowed: use default_factory".toList)
  | constantName name =>
    some ("cannot assign to ".toList ++ name ++ " (<string>, line 2)".toList)
  | unknownType name => some ("name ".toList ++ quoted name ++ " is not defined".toList)
  | unreadableType => some "invalid syntax (<string>, line 1)".toList
  | longWait => some "timestamp too large to convert to C _PyTime_t".toList
  | longTime => some "timestamp out of range for platform time_t".toList
  | notDecimal => some "[<class 'decimal.ConversionSyntax'>]".toList
  | unboundedDecimal | incomparable => some "[<class 'decimal.InvalidOperation'>]".toList
  | notHexadecimal place =>
    some ("non-hexadecimal number found in fromhex() arg at position ".toList ++ natText place)
  | notLength | notCount => some "cannot fit 'int' into an index-sized integer".toList
  | tooLargeForReal => some "int too large to convert to float".toList
  | infiniteInteger => some "cannot convert float infinity to integer".toList
  | notNumberInteger => some "cannot convert float NaN to integer".toList
  | linkLoop path => some ("Symlink loop from ".toList ++ quoted path)
  | shutDown => some "cannot schedule new futures after shutdown".toList
  | taskFailed reason => some reason
  | refused _ reason => some reason.plain
  | transportDown reason => some reason
  | absentKey key => some key.quoted
  | tooFewItems expected found =>
    some ("not enough values to unpack (expected ".toList ++ natText expected ++ ", got ".toList
      ++ natText found ++ [')'])
  | tooManyItems expected =>
    some ("too many values to unpack (expected ".toList ++ natText expected ++ [')'])
  | notEntry index length =>
    some ("dictionary update sequence element #".toList ++ natText index ++ " has length ".toList
      ++ natText length ++ "; 2 is required".toList)
  | _ => none

/-- On what ground the fault turns a value down, if that is what it does. -/
def refusal? : Fault → Option Refusal
  | refused refusal _ => some refusal
  | wrongType => some .ofType
  | unknownPolicy _ | unknownGroup _ | unknownLevel _ | sharedDefault .. | tooFewWorkers
  | embeddedNul | illegalVariable | undecodable | notInteger _ | tooManyDigits _
  | unwritableInteger | notReal _ | notHexadecimal _ | notLength | notNumberInteger
  | tooFewItems .. | tooManyItems _ | notEntry .. => some .ofValue
  | _ => none

/-- What the fault says for itself, if it is no problem. -/
def reason : Fault → Value
  | refused _ reason => reason
  | fault => .text (fault.message?.getD [])

/-- The problem that the fault is, if it is one. -/
def problem? : Fault → Option Problem
  | malformedTemplate position => some ⟨.malformedTemplate (.int position), .null, none⟩
  | evenSegmentCount count =>
    some (ofMessage .invariant "Compiled template must hold an odd number of segments".toList
      [("segments".toList, .int count)])
  | misplacedSegment index =>
    some (ofMessage .invariant
      ("Segment ".toList ++ natText index ++
        (if index % 2 = 0 then " must be Literal, got PlaceholderRef".toList
          else " must be PlaceholderRef, got Literal".toList))
      [("index".toList, .int index)])
  | unknownKey key streamId => some ⟨.unknownProperty (.text key) streamId, .null, none⟩
  | emptyEvent key =>
    some ⟨.render (.text ("Event has no values for placeholder '".toList ++ key ++ ['\'']))
      (.text key) .null, .null, none⟩
  | unboundKey key =>
    some ⟨.render (.text ("Placeholder '".toList ++ key
      ++ "' was never validated against this stream".toList)) (.text key) .null, .null, none⟩
  | shortEvent length key position =>
    some ⟨.render (.text ("Event has ".toList ++ natText length ++ " values, placeholder '".toList
      ++ key ++ "' needs position ".toList ++ position.plain))
      (.text key) position, .null, none⟩
  | namelessStream => some (ofMessage .invariant "Stream name must not be empty".toList [])
  | misplacedAttribute name declared listed streamId =>
    some (ofMessage .invariant
      ("Attribute '".toList ++ name ++ "' is declared as ".toList ++ declared.name
        ++ " but listed under ".toList ++ listed.name) [("stream_id".toList, .text streamId)])
  | namelessAttribute streamId =>
    some (ofMessage .invariant "Attribute name must not be empty".toList
      [("stream_id".toList, .text streamId)])
  | unsafeAttribute name streamId =>
    some (ofMessage .invariant
      ("Attribute name ".toList ++ name.quoted ++ " cannot be used as a placeholder key".toList)
      [("stream_id".toList, .text streamId), ("attribute".toList, name)])
  | repeatedAttribute name streamId =>
    some (ofMessage .invariant
      ("Attribute '".toList ++ name ++ "' is defined more than once".toList)
      [("stream_id".toList, .text streamId), ("attribute".toList, .text name)])
  | ambiguousKey key streamId =>
    some (ofMessage .invariant
      ("Placeholder key '".toList ++ key ++ "' resolves to more than one attribute".toList)
      [("stream_id".toList, .text streamId), ("key".toList, .text key)])
  | mappingFailed reason => some ⟨.plain .mapping reason [], .null, none⟩
  | badFlag value =>
    some (ofMessage .configuration
      ("customMapping must be 'enable' or 'disable', got ".toList ++ value.quoted)
      [("customMapping".toList, value)])
  | unsupportedType type =>
    some (ofMessage .configuration
      ("Unsupported output mapping type '".toList ++ type.plain ++ ['\''])
      [("type".toList, type)])
  | twoSources =>
    some (ofMessage .configuration
      "Mapping must be either inline or from registry, not both".toList [])
  | missingSource =>
    some (ofMessage .configuration "Mapping should be inline or from registry".toList [])
  | blankSource => some (ofMessage .configuration "No mapping content available".toList [])
  | noCustomSource =>
    some (ofMessage .configuration "Output mapping has no custom template source".toList [])
  | noResolver path =>
    some (ofMessage .configuration
      ("No resource resolver configured for registry mapping '".toList ++ path ++ ['\''])
      [("path".toList, .text path)])
  | missingResource path =>
    some (ofMessage .configuration
      ("Registry resource '".toList ++ path ++ "' not found".toList)
      [("path".toList, .text path)])
  | blankResource => some (ofMessage .configuration "Json mapping text is empty!".toList [])
  | outsideRoot path root =>
    some (ofMessage .configuration
      ("Registry resource '".toList ++ path ++ "' is outside ".toList ++ root)
      [("path".toList, .text path)])
  | unreadable path failure =>
    some { ofMessage .configuration
      ("Registry resource '".toList ++ path ++ "' could not be read".toList)
      [("path".toList, .text path)] with cause := some failure.describe }
  | missingSetting name => some ⟨.missingSetting (.text name), .null, none⟩
  | invalidSetting name value reason =>
    some ⟨.invalidSetting (.text name) value (.text reason), .null, none⟩
  | settingsFailed fault =>
    some { ofMessage .configuration ("Failed to load settings: ".toList ++ fault.reason.plain) []
      with cause := fault.refusal?.map fun refusal => refusal.describe fault.reason }
  | settingsRejected reason => some ⟨.plain .configuration reason [], .null, none⟩
  | noActiveMapping =>
    some (ofMessage .configuration "No output mapping has been activated".toList [])
  | bulkheadFull name workers =>
    some (ofMessage .bulkheadFull ("Bulkhead '".toList ++ name.plain ++ "' is full".toList)
      [("name".toList, name), ("max_workers".toList, workers)])
  | _ => none

/-- Whether the fault is a problem of configuration. -/
def isConfiguration (f : Fault) : Bool :=
  f.problem?.any fun p => p.subject.family = .configuration

/-- A problem turns no value down. -/
theorem refusal?_of_problem? {f : Fault} {p : Problem} (h : f.problem? = some p) :
    f.refusal? = none := by
  cases f <;> first | rfl | cases h

end Fault

end EventLoom
