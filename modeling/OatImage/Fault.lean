import OatImage.Misuse
import OatImage.Notice
import OatImage.Text.Utf8

/-!
# Failures

A lookup that completes and matches nothing is not a failure; it answers `none`. A
`DecodeFault` says that bytes could not be decoded safely. It names the cause, the layer
that met it, and as much of the record, location, descriptor and address as is known;
callers add what they know and never overwrite what is set. `Fault` collects every way
in which an operation on an image can end without an answer.

`Fault.broken` is the failure of a step that its caller should have guarded. It keeps
the guards visible: that an operation never ends with it is a theorem, not a convention, and
where a guard is missing it shows.
-/
namespace OatImage

inductive Cause
  | outside (what : String) (begin stop size : Int)
  | longNumber (what : String)
  | unterminatedKey
  | unterminatedValue
  | zeroDexOffset
  | zeroClassOffset
  | unknownClassKind (raw : Nat)
  | noClassOffset (entries : Nat)
  | badDexMagic
  | unsupportedDexVersion (version : List UInt8)
  | unsupportedEndianTag (tag : Nat)
  | noClassDef (count : Nat)
  | noString
  | noType
  | noPrototype
  | noMethod
  | unterminatedString
  | malformedString (flaw : Utf8.Flaw)
deriving DecidableEq, Repr

def Cause.message : Cause → String
  | .outside what begin stop size =>
    what ++ " runs past the mapped range [" ++ Numeral.hex begin ++ ", " ++ Numeral.hex stop ++
      ") (" ++ Numeral.decimal size ++ " bytes)"
  | .longNumber what => what ++ " longer than 5 bytes"
  | .unterminatedKey => "unterminated key in key-value store"
  | .unterminatedValue => "unterminated value in key-value store"
  | .zeroDexOffset => "dex file offset is zero"
  | .zeroClassOffset => "class record offset is zero"
  | .unknownClassKind raw => "invalid OatClass type " ++ Numeral.decimal raw
  | .noClassOffset entries =>
    "class_def index beyond class offset table (" ++ Numeral.decimal entries ++ " entries)"
  | .badDexMagic => "bad DEX magic"
  | .unsupportedDexVersion version =>
    "unsupported DEX version " ++ Quoted.text (Ascii.decodeReplacing version)
  | .unsupportedEndianTag tag => "unsupported DEX endian tag " ++ Numeral.hex tag
  | .noClassDef count =>
    "class_def index out of range (class_defs_size=" ++ Numeral.decimal count ++ ")"
  | .noString => "string index out of range"
  | .noType => "type index out of range"
  | .noPrototype => "proto index out of range"
  | .noMethod => "method index out of range"
  | .unterminatedString => "unterminated string_data_item"
  | .malformedString flaw => "malformed MUTF-8 string: " ++ flaw.message

/-- The layer that met a cause: the image itself or a DEX module inside it. -/
inductive Layer
  | image
  | module
deriving DecidableEq, Repr

structure DecodeFault where
  layer : Layer := .image
  cause : Cause
  index : Option Int := none
  location : Option String := none
  descriptor : Option Text := none
  address : Option Int := none
deriving DecidableEq, Repr

namespace DecodeFault

def notice (e : DecodeFault) : Notice :=
  { message := e.cause.message
    index := .orNone .integer e.index
    location := .orNone .text e.location
    descriptor := e.descriptor
    address := .orNone .integer e.address }

/-- The message, then the known parts of the attribution in parentheses. -/
def render (e : DecodeFault) : Text := e.notice.render

/-- Adds what is known of the failing record; what is set already is kept. -/
def withContext (e : DecodeFault) (index : Option Int) (location : Option String)
    (descriptor : Option Text) : DecodeFault :=
  { e with
    index := e.index.or index
    location := e.location.or location
    descriptor := e.descriptor.or descriptor }

end DecodeFault

/-- Why a byte range cannot be set up as an image. -/
inductive SetupFault
  | unbounded
  | inverted (begin stop : Int)
  | noMemory
  | shortMemory (held needed : Int)
deriving DecidableEq, Repr

def SetupFault.message : SetupFault → String
  | .unbounded => "image begin and end must not be null"
  | .inverted begin stop =>
    "image end " ++ Numeral.hex stop ++ " is not above begin " ++ Numeral.hex begin
  | .noMemory => "image memory must not be null"
  | .shortMemory held needed =>
    "image memory holds " ++ Numeral.decimal held ++ " bytes, range needs " ++
      Numeral.decimal needed

/-- Why a file cannot be turned into an image. -/
inductive LoadFault
  | missingFile (path : String)
  | oversizedFile (size : Int) (limit : Quantity)
  | malformedContainer
  | unparsedContainer
  /-- No symbol has a name, which is quoted. -/
  | missingSymbol (quoted : String)
  | invertedSymbols (last : String) (stop : Int) (start : String) (begin : Int)
  | spanOverMemory (span reserved : Int)
  | spanOverLimit (span : Int) (limit : Quantity)
  | unusableRange (fault : SetupFault)
  | undecodable (fault : DecodeFault)
deriving DecidableEq, Repr

def LoadFault.message : LoadFault → Text
  | .missingFile path => Text.ofString ("File not found: " ++ path)
  | .oversizedFile size limit => Text.ofString
      ("File too large: " ++ Numeral.grouped size ++ " bytes (max: " ++ limit.grouped ++ " bytes)")
  | .malformedContainer => Text.ofString "Malformed ELF container"
  | .unparsedContainer => Text.ofString "ELF file has not been parsed"
  | .missingSymbol quoted => Text.ofString ("ELF file does not export " ++ quoted)
  | .invertedSymbols last stop start begin => Text.ofString
      (last ++ " (" ++ Numeral.hex stop ++ ") does not follow " ++ start ++ " (" ++
        Numeral.hex begin ++ ")")
  | .spanOverMemory span reserved => Text.ofString
      ("OAT span of " ++ Numeral.grouped span ++ " bytes exceeds the " ++
        Numeral.grouped reserved ++ " bytes of PT_LOAD memory")
  | .spanOverLimit span limit => Text.ofString
      ("OAT span of " ++ Numeral.grouped span ++ " bytes exceeds the limit of " ++
        limit.grouped ++ " bytes")
  | .unusableRange fault => Text.ofString ("Cannot set up OAT image: " ++ fault.message)
  | .undecodable fault => Text.join ["Cannot set up OAT image: ", fault.render]

/-- A step that fails unless its caller has guarded it. -/
inductive Unguarded
  /-- Unpacking words from a buffer that ends before them. -/
  | unpack
  /-- Unpacking words at a position that is too large for any buffer. -/
  | unpackBeyond
  /-- Taking a byte from a buffer that ends before it. -/
  | byteAt
  /-- Taking a byte at a position that is too large for any buffer. -/
  | byteBeyond
  /-- Searching a buffer for a number that is no byte. -/
  | notByte
  /-- Taking a byte from a bitmap that ends before it. -/
  | bitmapAt
  /-- Reading version bytes that are not ASCII. -/
  | versionText
  /-- Asking a finished walk for one more record. -/
  | finishedWalk
  /-- Making a buffer that is longer than any can be. -/
  | bufferBeyond
deriving DecidableEq, Repr

/-- Every way in which an operation ends without an answer. -/
inductive Fault
  | decode (fault : DecodeFault)
  | noDexFile (index : Int) (count : Nat)
  | setup (fault : SetupFault)
  | load (fault : LoadFault)
  /-- A location with a lone surrogate, which has no UTF-8 form to compare with. -/
  | unencodable
  /-- A lookup field with a lone surrogate, which no report can hold. -/
  | unreportable
  /-- A setting of no use. -/
  | misuse (m : Misuse)
  | broken (step : Unguarded)
deriving DecidableEq, Repr

namespace Fault

/-- The wording for a record that the image does not declare. -/
def noDexFileMessage (index : Int) (count : Nat) : String :=
  "dex file index " ++ Numeral.decimal index ++ " out of range (dex_file_count=" ++
    Numeral.decimal count ++ ")"

def inImage (cause : Cause) (address : Int) : Fault :=
  .decode { cause, address := some address }

def inModule (cause : Cause) (address : Int) : Fault :=
  .decode { layer := .module, cause, address := some address }

def ofIndex (cause : Cause) (index : Int) : Fault :=
  .decode { layer := .module, cause, index := some index }

/-- The same failure met while reading a DEX module: its cause and address are kept. -/
def asModule : Fault → Fault
  | .decode e => .decode { layer := .module, cause := e.cause, address := e.address }
  | other => other

def withContext (index : Option Int) (location : Option String) (descriptor : Option Text) :
    Fault → Fault
  | .decode e => .decode (e.withContext index location descriptor)
  | other => other

end Fault

/-- The kinds of failure; every kind but the first is a special case of another. -/
inductive FaultKind
  | any
  | setup
  | decode
  | module
  | index
  | load
deriving DecidableEq, Repr

/-- A kind and the more general ones, the most special first. -/
def FaultKind.lineage : FaultKind → List FaultKind
  | .any => [.any]
  | .module => [.module, .decode, .any]
  | other => [other, .any]

def DecodeFault.kind (e : DecodeFault) : FaultKind :=
  match e.layer with
  | .image => .decode
  | .module => .module

abbrev Decode := Except Fault

/-- The outcome of a step with every failure read as one of a DEX module. -/
def Decode.asModule {α : Type} : Decode α → Decode α
  | .ok a => .ok a
  | .error e => .error e.asModule

def Decode.withContext {α : Type} (index : Option Int) (location : Option String)
    (descriptor : Option Text) : Decode α → Decode α
  | .ok a => .ok a
  | .error e => .error (e.withContext index location descriptor)

end OatImage
