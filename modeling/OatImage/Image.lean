import OatImage.Header
import OatImage.InstructionSet
import OatImage.KeyValueStore

/-!
# Images

An image is a range of addresses with its bytes, the header at its start and the
instruction set its code is for. The key-value store follows the header and the records of
the dex files follow the store. Setting an image up reads the header and nothing else; it
does not ask whether the header is valid.
-/
namespace OatImage

structure Image where
  region : Region
  header : Header
  instructionSet : InstructionSet

namespace Image

/-- An image over a region. The header's instruction set counts unless another one is
asked for. -/
def ofHeader (region : Region) (header : Header) (asked : Option InstructionSet) : Image :=
  { region, header
    instructionSet := asked.getD (InstructionSet.ofCode header.instructionSetCode) }

/-- Sets up the image in `[begin, stop)`, whose first byte is the first byte of the memory. -/
def setup (begin stop : Option Int) (memory : Option ByteArray)
    (asked : Option InstructionSet) : Decode Image :=
  match begin, stop with
  | some begin, some stop =>
    if stop ≤ begin then .error (.setup (.inverted begin stop))
    else
      match memory with
      | none => .error (.setup .noMemory)
      | some memory =>
        if (memory.size : Int) < stop - begin then
          .error (.setup (.shortMemory memory.size (stop - begin)))
        else do
          let region := Region.ofBuffer memory begin stop
          let header ← Header.decode region begin
          pure (ofHeader region header asked)
  | _, _ => .error (.setup .unbounded)

/-- Sets up the image that fills a buffer, at a base address. -/
def ofBuffer (memory : Option ByteArray) (base : Int) (asked : Option InstructionSet) :
    Decode Image :=
  let size : Nat := (memory.map ByteArray.size).getD 0
  setup (some base) (some (base + size)) memory asked

def begin (image : Image) : Int := image.region.begin

def stop (image : Image) : Int := image.region.stop

def size (image : Image) : Int := image.region.size

def storeStart (image : Image) : Int := image.begin + image.header.size

def recordsStart (image : Image) : Int := image.storeStart + image.header.keyValueStoreSize

/-- The address of an offset in the image. An offset of zero stands for nothing. -/
def pointer (image : Image) (offset : Int) : Option Int :=
  if offset = 0 then none else some (image.begin + offset)

def keyValueStore (image : Image) : Decode KeyValueStore :=
  KeyValueStore.read image.region image.storeStart image.header.keyValueStoreSize

def storeValue (image : Image) (key : String) : Decode (Option String) :=
  KeyValueStore.lookup image.region image.storeStart image.header.keyValueStoreSize key

/-- The address of the machine code behind an entry point of the image. -/
def codePointer (image : Image) (address : Int) : Int :=
  image.instructionSet.codePointer address

def describe (image : Image) : String :=
  "OatFile(begin=" ++ Numeral.hex image.begin ++ ", end=" ++ Numeral.hex image.stop ++
    ", version=" ++ Quoted.text image.header.versionText ++ ", dex_file_count=" ++
    Numeral.decimal image.header.dexFileCount ++ ")"

end Image

end OatImage
