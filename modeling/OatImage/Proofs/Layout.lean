import OatImage.Directory
import OatImage.Proofs.Bitmaps
import OatImage.Proofs.Content
import OatImage.Proofs.Placed
import OatImage.Proofs.StringData

/-!
# Layouts

How content stands in the bytes of an image: the header, the records of the dex files one
behind the other, and for each of them a module and the records of its classes, anywhere in
the image. What stands between the parts is not said, and neither is what a reader of methods
has no use for: the key-value store, fields and the tables' other entries.

Offsets in a module count from its start, all others from the start of the image.
-/
namespace OatImage.Layout

variable (bytes : List UInt8)

/-- A word of four bytes stands at an offset. -/
def WordAt (offset n : Nat) : Prop := IsWord n ∧ At bytes offset (toBytesLE 4 n)

/-- A word of two bytes stands at an offset. -/
def HalfAt (offset n : Nat) : Prop := n < Nat.pow 256 2 ∧ At bytes offset (toBytesLE 2 n)

/-- Words of four bytes stand one behind the other. -/
def WordsAt (offset : Nat) (ns : List Nat) : Prop :=
  (∀ n ∈ ns, IsWord n) ∧ At bytes offset (wordBytes ns)

variable {bytes} in
/-- Each of several words stands in its place. -/
theorem WordsAt.word {offset k n : Nat} {ns : List Nat} (h : WordsAt bytes offset ns)
    (hk : ns[k]? = some n) : WordAt bytes (offset + 4 * k) n := by
  obtain ⟨hwords, hat⟩ := h
  refine ⟨hwords n (List.mem_of_getElem? hk), ?_⟩
  clear hwords
  induction ns generalizing offset k with
  | nil => cases hk
  | cons m ns ih =>
      obtain ⟨hfirst, hrest⟩ := At.append.mp hat
      rw [length_toBytesLE] at hrest
      cases k with
      | zero =>
          cases hk
          exact hfirst
      | succ k =>
          rw [show offset + 4 * (k + 1) = offset + 4 + 4 * k by omega]
          exact ih hk hrest

/-- The tables of a module. -/
structure Tables where
  strings : Dex.Table
  types : Dex.Table
  prototypes : Dex.Table
  fields : Dex.Table
  methods : Dex.Table
  classDefs : Dex.Table

/-- The twelve words of the header that give the tables. -/
def Tables.words (t : Tables) : List Nat :=
  [t.strings, t.types, t.prototypes, t.fields, t.methods, t.classDefs].flatMap fun table =>
    [table.count, table.offset]

section
variable (t : Tables)

/-- A string has its length, its bytes and a zero byte. -/
def StringAt (index : Nat) (text : Text) : Prop :=
  index < t.strings.count ∧ ∃ offset length form,
    WordAt bytes (t.strings.offset + 4 * index) offset ∧
    IsForm length form ∧ form.length ≤ 5 ∧ text.IsJoined ∧
    At bytes offset (form ++ (text.modifiedUtf8 ++ [0]))

def TypeAt (index : Nat) (descriptor : Text) : Prop :=
  index < t.types.count ∧ ∃ name, WordAt bytes (t.types.offset + 4 * index) name ∧
    StringAt bytes t name descriptor

/-- A list of parameters has its length and a type for each; an empty one may be left out. -/
def ParametersAt (offset : Nat) (parameters : List Text) : Prop :=
  (offset = 0 ∧ parameters = []) ∨
    (offset ≠ 0 ∧ WordAt bytes offset parameters.length ∧
      ∀ (k : Nat) (descriptor : Text), parameters[k]? = some descriptor →
        ∃ type, HalfAt bytes (offset + 4 + 2 * k) type ∧ TypeAt bytes t type descriptor)

def PrototypeAt (index : Nat) (parameters : List Text) (result : Text) : Prop :=
  index < t.prototypes.count ∧ ∃ shorty type offset,
    WordsAt bytes (t.prototypes.offset + 12 * index) [shorty, type, offset] ∧
    TypeAt bytes t type result ∧ ParametersAt bytes t offset parameters

def MethodAt (index : Nat) (m : Content.Method) : Prop :=
  index < t.methods.count ∧ ∃ type prototype name,
    HalfAt bytes (t.methods.offset + 8 * index) type ∧
    HalfAt bytes (t.methods.offset + 8 * index + 2) prototype ∧
    WordAt bytes (t.methods.offset + 8 * index + 4) name ∧
    StringAt bytes t name m.name ∧ PrototypeAt bytes t prototype m.parameters m.result

/-- A method in class data: the difference of its index to that of the method before it, its
access flags and the offset of its code in the module. -/
structure Listed where
  difference : Nat
  flags : Nat
  code : Nat

def Listed.numbers (x : Listed) : List Nat := [x.difference, x.flags, x.code]

/-- The listed methods are these, where `index` is the one before the first. -/
inductive MethodsAt : (index : Nat) → List Listed → List Content.Method → Prop
  | nil {index : Nat} : MethodsAt index [] []
  | cons {index : Nat} {x : Listed} {m : Content.Method} {xs : List Listed}
      {ms : List Content.Method} (h : MethodAt bytes t (index + x.difference) m)
      (hflags : x.flags = m.flags) (hrest : MethodsAt (index + x.difference) xs ms) :
      MethodsAt index (x :: xs) (m :: ms)

variable {bytes t} in
theorem MethodsAt.length_eq {index : Nat} {xs : List Listed} {ms : List Content.Method}
    (h : MethodsAt bytes t index xs ms) : xs.length = ms.length := by
  induction h with
  | nil => rfl
  | cons _ _ _ ih => rw [List.length_cons, List.length_cons, ih]

/-- Class data is a run of numbers; that of a class without methods may be left out. -/
def ClassDataAt (offset : Nat) (c : Content.Class) : Prop :=
  (offset = 0 ∧ c.methods = []) ∨
    (offset ≠ 0 ∧ ∃ (statics instances : Nat) (fields : List Nat) (direct virtual : List Listed)
        (forms : List UInt8),
      fields.length = 2 * (statics + instances) ∧
      AreForms (statics :: instances :: direct.length :: virtual.length ::
        (fields ++ (direct.flatMap Listed.numbers ++ virtual.flatMap Listed.numbers))) forms ∧
      At bytes offset forms ∧ MethodsAt bytes t 0 direct c.direct ∧
      MethodsAt bytes t 0 virtual c.virtual)

def ClassDefAt (index : Nat) (c : Content.Class) : Prop :=
  ∃ type flags superclass interfaces source annotations data values,
    WordsAt bytes (t.classDefs.offset + 32 * index)
      [type, flags, superclass, interfaces, source, annotations, data, values] ∧
    TypeAt bytes t type c.descriptor ∧ ClassDataAt bytes t data c

end

/-- The bytes are a module of the declared size with these class definitions. -/
structure IsModule (classes : List Content.Class) (t : Tables) : Prop where
  signature : ∃ version ∈ Dex.supportedVersions, At bytes 0 (Dex.magicBytes ++ version)
  size : Dex.headerSize ≤ bytes.length
  sizes : ∃ headerSize, WordsAt bytes 32 [bytes.length, headerSize, Dex.endianTag]
  tables : WordsAt bytes 56 t.words
  count : t.classDefs.count = classes.length
  classDefs : ∀ (index : Nat) (c : Content.Class), classes[index]? = some c →
    ClassDefAt bytes t index c

/-- The record of a class: with code for some of its methods only, the bits of the bitmap say
for which, and the table has an entry for each of those. -/
def ClassRecordAt (offset : Nat) (c : Content.Class) : Prop :=
  (-0x8000 ≤ c.status ∧ c.status < 0x8000) ∧
    match c.code with
    | .none => At bytes offset (ClassRecord.encode c.status .none [])
    | .all offsets => offsets.length = c.methods.length ∧ (∀ o ∈ offsets, IsWord o) ∧
        At bytes offset (ClassRecord.encode c.status .all [] ++ wordBytes offsets)
    | .some offsets => offsets.length = c.methods.length ∧
        (∀ o ∈ offsets.filterMap id, IsWord o) ∧
        ∃ bitmap, IsWord bitmap.length ∧
          (∀ (k : Nat) (o : Option Nat), offsets[k]? = some o → Bitmap.bit bitmap k = o.isSome) ∧
          At bytes offset
            (ClassRecord.encode c.status .some bitmap ++ wordBytes (offsets.filterMap id))

/-- What the record of a dex file points at. -/
structure FileAt (f : Content.File) (dexOffset : Nat) (classOffsets : List Nat) : Prop where
  dexPointer : IsWord dexOffset ∧ dexOffset ≠ 0
  module : ∃ part t, At bytes dexOffset part ∧ IsModule part f.classes t
  count : classOffsets.length = f.classes.length
  classPointers : ∀ o ∈ classOffsets, IsWord o ∧ o ≠ 0
  classRecords : ∀ (index o : Nat) (c : Content.Class), classOffsets[index]? = some o →
    f.classes[index]? = some c → ClassRecordAt bytes o c

/-- The records of dex files stand one behind the other. -/
inductive RecordsAt : (offset : Nat) → List Content.File → Prop
  | nil {offset : Nat} : RecordsAt offset []
  | cons {offset checksum dexOffset : Nat} {classOffsets : List Nat} {f : Content.File}
      {rest : List Content.File} (hlocation : IsWord f.location.length)
      (hchecksum : IsWord checksum) (hfile : FileAt bytes f dexOffset classOffsets)
      (h : At bytes offset (Record.encode f.location checksum dexOffset classOffsets))
      (hrest : RecordsAt
        (offset + (Record.encode f.location checksum dexOffset classOffsets).length) rest) :
      RecordsAt offset (f :: rest)

/-- The fields of a header fit into their places. -/
structure FitsHeader (h : Header) : Prop where
  valid : h.isValid = true
  trampolines : h.trampolines.length = (Header.trampolineNames h.version).length
  words : ∀ n ∈ [h.checksum, h.instructionSetCode, h.features, h.dexFileCount,
    h.executableOffset] ++ (h.trampolines ++ [h.imageChecksum, h.imageDataBegin,
      h.keyValueStoreSize]), IsWord n
  delta : -0x80000000 ≤ h.imagePatchDelta ∧ h.imagePatchDelta < 0x80000000

/-- The bytes are an image with this header and these dex files. -/
structure IsImage (h : Header) (files : List Content.File) : Prop where
  fits : FitsHeader h
  header : At bytes 0 h.encode
  count : h.dexFileCount = files.length
  records : RecordsAt bytes (h.size + h.keyValueStoreSize) files

end OatImage.Layout
