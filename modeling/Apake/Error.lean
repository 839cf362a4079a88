import Apake.Json.Fault
import Apake.Text.Units
import Apake.Wire.Base64

/-!
# Failures and their wording

One constructor for each cause of a failure, one function for the text that a user reads, and one
for the family that callers tell apart.  A short form of the text leaves out what only says why the
last step failed.  A login failure is an envelope, a server or a client that did not authenticate.
A call that never returns is put down as a cause of its own, in a family that no code handles.
-/

namespace Apake

/-- Why bytes do not stand for an element, a scalar or a key. -/
inductive Defect
  | zeroElement
  | offCurve
  | outsideField
  | outsideSubgroup
  | identityElement
  | outOfRange
  | noSharedKey
  | wrongLength (name : String) (expected actual : Nat)
  deriving DecidableEq

/-- The wording of a length that is not the one required. -/
def lengthMessage (name : String) (expected actual : Nat) : String :=
  s!"Invalid length for {name}: expected {expected}, got {actual}"

/-- The wording of a defect. -/
def Defect.message : Defect → String
  | zeroElement => "element was Zero"
  | offCurve => "decoding point that is not on curve"
  | outsideField => "alleged element not in the field"
  | outsideSubgroup => "element is not in the right group"
  | identityElement => "identity element"
  | outOfRange => "out of range"
  | noSharedKey => "Error computing shared key."
  | wrongLength name expected actual => lengthMessage name expected actual

/-- The cause of a failed operation. -/
inductive Error
  /-- A field or message does not have the size that the suite requires. -/
  | wrongLength (name : String) (expected actual : Nat)
  /-- Bytes of the right size that stand for nothing. -/
  | malformed (name : String) (defect : Defect)
  /-- Text that is not base64. -/
  | malformedBase64 (name : String) (defect : Base64.Defect)
  /-- The server echoed the blinded element. -/
  | reflected
  /-- The tag of an envelope does not match. -/
  | envelopeRejected
  /-- The server's confirmation does not match. -/
  | serverRejected
  /-- The client's confirmation does not match. -/
  | clientRejected
  /-- The random source reported a failure of its own. -/
  | sourceFailed (reason : String)
  /-- The random source gave something else than the bytes asked for. -/
  | sourceMiscounted (asked : Int)
  /-- The random source gave nothing but zero scalars. -/
  | noUsableScalar
  /-- A secret was read after it had been wiped. -/
  | secretWiped
  /-- A single-use state was used again. -/
  | stateConsumed (kind : String)
  /-- A state and the message that answers it belong to different suites. -/
  | stateOfOtherSuite (kind own other : String)
  /-- A state of one kind stands where another is required. -/
  | unexpectedState (expected got : String)
  /-- An argument is not of the class that its role requires. -/
  | unexpectedArgument (role required : String)
  /-- An argument belongs to another suite than the server. -/
  | argumentOfOtherSuite (what : String)
  /-- A record was to be made of something else than an upload. -/
  | uploadRequired
  /-- No stretching function has this name. -/
  | unknownStretching (name : Units)
  /-- A stretching function does not take these parameters. -/
  | stretchingParameters (name : String) (reason : Units)
  /-- The cost of scrypt is no power of two above one. -/
  | scryptCost
  /-- The memory of Argon2id is less than eight blocks for each lane. -/
  | argonMemory
  /-- Argon2id needs at least one pass and one lane. -/
  | argonCounts
  /-- A stretching function could not run. -/
  | stretchingFailed (name reason : String)
  /-- There is no file where a record store should be. -/
  | storeMissing (path : String)
  /-- The file of a record store does not hold one. -/
  | storeCorrupt (path : String) (cause : Error)
  /-- Every attempt to hash into the group gave the identity. -/
  | hashedToIdentity
  /-- Every attempt to derive a scalar gave zero. -/
  | noDerivedScalar
  /-- A number does not fit into its field. -/
  | overflow
  /-- No hash function has this name. -/
  | unsupportedHash (name : String)
  /-- Strings of different lengths cannot be combined by exclusive or. -/
  | unequalLengths
  /-- More key material was asked for than can be expanded. -/
  | expansionTooLong
  /-- A scalar that is zero modulo the order has no inverse. -/
  | notInvertible
  /-- A field of negative width was asked for. -/
  | negativeWidth
  /-- A whole number has more decimal digits than are read or written. -/
  | longNumber (digits : Nat)
  /-- A style names a colour by numbers one of which is missing. -/
  | colourNumber
  /-- A path holds a zero byte. -/
  | zeroByte
  /-- A JSON text cannot be read. -/
  | malformedJson (fault : Json.Fault) (place : Json.Place)
  /-- Nothing is kept under this key, which is written as in a message. -/
  | missingKey (key : String)
  /-- A list does not have so many items. -/
  | missingItem
  /-- A value is not of the kind that its use requires. -/
  | wrongKind (reason : String)
  /-- Values are nested too deep to be read. -/
  | nestedTooDeep
  /-- There is not enough memory for a result. -/
  | outOfMemory
  /-- A library refused its parameters. -/
  | refused
  /-- Bytes that should be a text are not in UTF-8. -/
  | undecodableText
  /-- The list of records is not an object. -/
  | recordsNotObject
  /-- A text with unpaired surrogates has no UTF-8 form. -/
  | unencodableText
  /-- There is nothing at a path. -/
  | noSuchFile
  /-- A path or one of its names is too long. -/
  | longPath
  /-- A directory stands where a file should be. -/
  | isDirectory
  /-- A file stands somewhere on the way to a file. -/
  | notDirectory
  /-- A file stands where the directory of a file should be. -/
  | occupied
  /-- A style tag closes what was never opened, or its parameters are no literal. -/
  | badMarkup
  /-- Numbers are drawn without end.  No code reports this and none can handle it: it stands for a
  call that never returns, and what is said of the time after such a call is said of no time. -/
  | endless
  deriving DecidableEq

/-- What callers tell apart about failures. -/
inductive Error.Family
  | length
  | decoding
  | reflection
  | envelope
  | server
  | client
  | randomness
  | state
  | stretching
  | store
  | general
  | range
  | value
  | reading
  | lookup
  | index
  | kind
  | nesting
  | memory
  | library
  | attribute
  | encoding
  | missing
  | system
  | directory
  | path
  | existing
  | markup
  | endless
  deriving DecidableEq

/-- The family of each cause. -/
def Error.family : Error → Family
  | wrongLength .. => .length
  | malformed .. | malformedBase64 .. => .decoding
  | reflected => .reflection
  | envelopeRejected => .envelope
  | serverRejected => .server
  | clientRejected => .client
  | sourceFailed .. | sourceMiscounted .. | noUsableScalar => .randomness
  | secretWiped | stateConsumed .. | stateOfOtherSuite .. | unexpectedState ..
  | unexpectedArgument .. | argumentOfOtherSuite .. | uploadRequired => .state
  | unknownStretching .. | stretchingParameters .. | scryptCost | argonMemory | argonCounts
  | stretchingFailed .. => .stretching
  | storeMissing .. | storeCorrupt .. => .store
  | hashedToIdentity | noDerivedScalar => .general
  | overflow => .range
  | unsupportedHash .. | unequalLengths | expansionTooLong | notInvertible | negativeWidth
  | longNumber .. | colourNumber | zeroByte | undecodableText => .value
  | malformedJson .. => .reading
  | missingKey .. => .lookup
  | missingItem => .index
  | wrongKind .. => .kind
  | nestedTooDeep => .nesting
  | outOfMemory => .memory
  | refused => .library
  | recordsNotObject => .attribute
  | unencodableText => .encoding
  | noSuchFile => .missing
  | longPath => .system
  | isDirectory => .directory
  | notDirectory => .path
  | occupied => .existing
  | badMarkup => .markup
  | endless => .endless

/-- Whether the failure is one of the protocol's own, which callers are told in words. -/
def Error.isProtocol (e : Error) : Bool :=
  match e.family with
  | .length | .decoding | .reflection | .envelope | .server | .client | .randomness | .state
  | .stretching | .store | .general => true
  | _ => false

/-- Whether one side did not authenticate. -/
def Error.isLoginFailure (e : Error) : Bool :=
  match e.family with
  | .envelope | .server | .client => true
  | _ => false

/-- Whether the content of a file is at fault that was being read. -/
def Error.isOfContent (e : Error) : Bool :=
  match e.family with
  | .length | .decoding | .value | .reading | .lookup | .kind => true
  | _ => false

/-- The most decimal digits that a whole number is read or written with. -/
def digitLimit : Nat := 4300

/-- The text that tells a user what failed. -/
def Error.message : Error → String
  | wrongLength name expected actual => lengthMessage name expected actual
  | malformed name defect => s!"Invalid {name}: {defect.message}"
  | malformedBase64 name defect => s!"Invalid base64 for {name}: {defect.message}"
  | reflected => "Evaluated element equals blinded element"
  | envelopeRejected => "Envelope could not be opened"
  | serverRejected => "Server authentication failed"
  | clientRejected => "Client authentication failed"
  | sourceFailed reason => s!"Random source failed: {reason}"
  | sourceMiscounted asked => s!"Random source did not return {asked} bytes"
  | noUsableScalar => "Random source produced no usable scalar"
  | secretWiped => "Secret buffer has already been wiped"
  | stateConsumed kind => s!"{kind} has already been consumed"
  | stateOfOtherSuite kind own other => s!"{kind} belongs to suite {own}, message uses {other}"
  | unexpectedState expected got => s!"Expected a {expected}, got {got}"
  | unexpectedArgument role required => s!"{role} must be a {required}"
  | argumentOfOtherSuite what => s!"{what} uses a different ciphersuite"
  | uploadRequired => "ServerRegistration requires a RegistrationUpload"
  | unknownStretching name => s!"Unknown key-stretching function: {name.toText}"
  | stretchingParameters name reason => s!"Bad parameters for {name}: {reason.toText}"
  | scryptCost => "scrypt n must be a power of two greater than 1"
  | argonMemory => "argon2id memory_cost must be at least 8 * lanes KiB"
  | argonCounts => "argon2id time_cost and lanes must be positive"
  | stretchingFailed name reason => s!"{name} failed: {reason}"
  | storeMissing path => s!"No record store at {path}, run 'setup' first"
  | storeCorrupt path cause => s!"Corrupt record store {path}: {cause.message}"
  | hashedToIdentity => "hash_to_group produced the identity element"
  | noDerivedScalar => "Could not derive a non-zero scalar"
  | unsupportedHash name => s!"Unsupported hash function: {name}"
  | unequalLengths => "XOR operands must have equal length"
  | longNumber digits =>
    s!"Exceeds the limit ({digitLimit} digits) for integer string conversion: value has {digits} " ++
      "digits; use sys.set_int_max_str_digits() to increase the limit"
  | malformedJson fault place => s!"{fault.message}: {place.message}"
  | missingKey key => key
  | wrongKind reason => reason
  | undecodableText => "The text is not in UTF-8"
  | overflow => "A number does not fit into its field"
  | expansionTooLong => "More key material was asked for than can be expanded"
  | notInvertible => "Zero has no inverse"
  | negativeWidth => "A field has a negative width"
  | colourNumber => "A colour lacks a number"
  | zeroByte => "A path holds a zero byte"
  | missingItem => "A list has not so many items"
  | nestedTooDeep => "Values are nested too deep"
  | outOfMemory => "There is not enough memory"
  | refused => "The parameters were refused"
  | recordsNotObject => "The records are no object"
  | unencodableText => "A text has no UTF-8 form"
  | noSuchFile => "There is no such file"
  | longPath => "A path is too long"
  | isDirectory => "There is a directory at the path"
  | notDirectory => "There is a file on the way to the path"
  | occupied => "There is a file where a directory should be"
  | badMarkup => "The style tags of a text do not match"
  | endless => "Numbers are drawn without end"

/-- The text with its unpaired surrogates, which only names from outside have. -/
def Error.units : Error → Units
  | unknownStretching name => Units.ofString "Unknown key-stretching function: " ++ name
  | stretchingParameters name reason => Units.ofString s!"Bad parameters for {name}: " ++ reason
  | e => Units.ofString e.message

/-- Whether the failure is one that callers are told in words. -/
def Error.isTold : Error → Bool
  | unsupportedHash _ | unequalLengths => true
  | e => e.isProtocol

/-- The text without what only says why the last step failed. -/
def Error.brief : Error → Units
  | malformedBase64 name _ => Units.ofString s!"Invalid base64 for {name}"
  | stretchingParameters name _ => Units.ofString s!"Bad parameters for {name}"
  | stretchingFailed name _ => Units.ofString s!"{name} failed"
  | storeCorrupt path cause =>
    let told := cause.isTold || cause.family = .lookup
    Units.ofString s!"Corrupt record store {path}" ++
      if told then Units.ofString ": " ++ cause.brief else []
  | e => e.units

end Apake
