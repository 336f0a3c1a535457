import OatImage.Region

/-!
# The image header

An image begins with a magic and a version, five words, the trampoline offsets of its
version, a signed word and three more words, all little-endian. Version 045 has ten
trampolines, version 064 seven; an unknown version is read with the layout of 064.
`Header.encode` writes the layout that `Header.decode` reads.
-/
namespace OatImage

structure Header where
  address : Int
  magic : List UInt8
  version : List UInt8
  checksum : Nat
  instructionSetCode : Nat
  features : Nat
  dexFileCount : Nat
  executableOffset : Nat
  /-- The offsets of the trampolines of the version, in header order. -/
  trampolines : List Nat
  imagePatchDelta : Int
  imageChecksum : Nat
  imageDataBegin : Nat
  keyValueStoreSize : Nat
deriving DecidableEq, Repr

namespace Header

/-- The bytes `oat` and a line feed. -/
def magicBytes : List UInt8 := [0x6F, 0x61, 0x74, 0x0A]

/-- The bytes `045` and a zero. -/
def version045 : List UInt8 := [0x30, 0x34, 0x35, 0]

/-- The bytes `064` and a zero. -/
def version064 : List UInt8 := [0x30, 0x36, 0x34, 0]

/-- The version has a layout of its own. -/
def isSupported (version : List UInt8) : Bool := version == version045 || version == version064

def trampolineNames045 : List String := [
  "interpreter_to_interpreter_bridge_offset",
  "interpreter_to_compiled_code_bridge_offset",
  "jni_dlsym_lookup_offset",
  "portable_imt_conflict_trampoline_offset",
  "portable_resolution_trampoline_offset",
  "portable_to_interpreter_bridge_offset",
  "quick_generic_jni_trampoline_offset",
  "quick_imt_conflict_trampoline_offset",
  "quick_resolution_trampoline_offset",
  "quick_to_interpreter_bridge_offset"]

def trampolineNames064 : List String := [
  "interpreter_to_interpreter_bridge_offset",
  "interpreter_to_compiled_code_bridge_offset",
  "jni_dlsym_lookup_offset",
  "quick_generic_jni_trampoline_offset",
  "quick_imt_conflict_trampoline_offset",
  "quick_resolution_trampoline_offset",
  "quick_to_interpreter_bridge_offset"]

/-- The trampolines of a version, in header order. -/
def trampolineNames (version : List UInt8) : List String :=
  if version = version045 then trampolineNames045 else trampolineNames064

/-- The size of the header of a version: 28 bytes, the trampolines, 16 bytes. -/
def layoutSize (version : List UInt8) : Nat := 28 + 4 * (trampolineNames version).length + 16

def isValidBuffer (buffer : ByteArray) : Bool :=
  let head := (buffer.extract 0 8).toList
  head.length == 8 && head.take 4 == magicBytes && isSupported (head.drop 4)

def isValid (h : Header) : Bool := h.magic == magicBytes && isSupported h.version

def size (h : Header) : Nat := layoutSize h.version

/-- The version without the zero bytes after it. -/
def versionText (h : Header) : String :=
  Ascii.decodeReplacing (h.version.reverse.dropWhile (· == 0)).reverse

def namedTrampolines (h : Header) : List (String × Nat) :=
  (trampolineNames h.version).zip h.trampolines

def decode (r : Region) (address : Int) : Decode Header := do
  let magic ← r.readBytes address 4 "OAT magic"
  let version ← r.readBytes (address + 4) 4 "OAT version"
  r.check address (layoutSize version) "OAT header"
  let checksum ← r.u32 (address + 8) "OAT header"
  let instructionSetCode ← r.u32 (address + 12) "OAT header"
  let features ← r.u32 (address + 16) "OAT header"
  let dexFileCount ← r.u32 (address + 20) "OAT header"
  let executableOffset ← r.u32 (address + 24) "OAT header"
  let count := (trampolineNames version).length
  let trampolines ← r.u32s (address + 28) count "OAT trampolines"
  let tail := address + 28 + 4 * count
  let imagePatchDelta ← r.i32 tail "image_patch_delta"
  let imageChecksum ← r.u32 (tail + 4) "OAT header"
  let imageDataBegin ← r.u32 (tail + 8) "OAT header"
  let keyValueStoreSize ← r.u32 (tail + 12) "OAT header"
  pure { address, magic, version, checksum, instructionSetCode, features, dexFileCount,
         executableOffset, trampolines, imagePatchDelta, imageChecksum, imageDataBegin,
         keyValueStoreSize }

def wordOfInt (n : Int) : Nat := (n % 0x100000000).toNat

/-- The bytes of a header, field after field in the order of the layout. -/
def encode (h : Header) : List UInt8 :=
  h.magic ++ h.version ++
    [h.checksum, h.instructionSetCode, h.features, h.dexFileCount, h.executableOffset].flatMap
      (toBytesLE 4) ++
    h.trampolines.flatMap (toBytesLE 4) ++
    [wordOfInt h.imagePatchDelta, h.imageChecksum, h.imageDataBegin, h.keyValueStoreSize].flatMap
      (toBytesLE 4)

end Header

end OatImage
