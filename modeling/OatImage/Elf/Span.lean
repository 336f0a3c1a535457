import OatImage.Elf.Container

/-!
# The image inside a container

The image lies between two symbols of the container: it begins at the value of the first
and ends with the last word, at least four bytes long, at the value of the second. Its
bytes are those that the loadable segments put there, a later segment over an earlier one,
and zero where no segment has any. The segments may reserve more memory than a buffer can have,
and nothing but a limit keeps an image below that. Short of that there is taken to be memory for
every buffer.
-/
namespace OatImage.Elf

def overlay (buffer : ByteArray) (start : Nat) (chunk : ByteArray) : ByteArray :=
  cut buffer 0 start ++ chunk ++ cut buffer (start + chunk.size) buffer.size

def zeros (size : Nat) : ByteArray := ⟨Array.replicate size 0⟩

namespace Container

/-- Writes the part of a segment in `[base, stop)` over the image that begins at `base`. -/
def placeSegment (c : Container) (base stop : Nat) (image : ByteArray) (s : Segment) : ByteArray :=
  let low := max base s.address
  let high := min stop (s.address + s.fileSize)
  if high ≤ low then image
  else
    let start := s.offset + (low - s.address)
    overlay image (low - base) (cut c.data start (start + (high - low)))

def loadableSegments (c : Container) : List Segment :=
  c.segments.filter fun s => s.kind = loadable

def reserved (c : Container) : Nat :=
  Numeral.total (c.loadableSegments.map Segment.memorySize)

/-- The bytes in `[base, stop)`. -/
def spanBytes (c : Container) (base stop : Nat) : ByteArray :=
  c.loadableSegments.foldl (c.placeSegment base stop) (zeros (stop - base))

/-- The symbol that a value names. Only a text names one, and a value that changes cannot even
be looked for. -/
def named (c : Container) (name : Value) : Decode Symbol :=
  match name with
  | .text s =>
    match c.symbol s with
    | some symbol => .ok symbol
    | none => .error (.load (.missingSymbol name.quoted))
  | .list _ => .error (.misuse (.notKey name.kindName))
  | .table _ => .error (.misuse (.notKey name.kindName))
  | _ => .error (.load (.missingSymbol name.quoted))

/-- A span has to stay within a limit, if the value is one. -/
def checkLimit (span : Nat) (limit : Value) : Decode Unit :=
  match limit, limit.quantity? with
  | .none, _ => .ok ()
  | _, some limit =>
    if limit.isBelow span then .error (.load (.spanOverLimit span limit)) else .ok ()
  | _, none => .error (.misuse (.notComparable limit.kindName))

/-- A buffer of a size can be made: there are positions enough, or it is no longer than the file,
which is a buffer too. -/
def hasRoom (c : Container) (size : Nat) : Bool := size < positionLimit || size ≤ c.data.size

def makeRoom (c : Container) (size : Nat) : Decode Unit :=
  if c.hasRoom size then .ok () else .error (.broken .bufferBeyond)

/-- The image between two symbols, and the address at which it begins. It has to fit the
memory that the segments reserve and the limit. -/
def load (c : Container) (startName lastName limit : Value) : Decode (ByteArray × Nat) :=
  if !c.isRead then .error (.load .unparsedContainer)
  else do
    let start ← c.named startName
    let last ← c.named lastName
    let base := start.value
    let stop := last.value + max last.size 4
    if stop ≤ base then throw (.load (.invertedSymbols last.name stop start.name base))
    let span := stop - base
    if c.reserved < span then throw (.load (.spanOverMemory span c.reserved))
    checkLimit span limit
    c.makeRoom span
    pure (c.spanBytes base stop, base)

end Container

end OatImage.Elf
