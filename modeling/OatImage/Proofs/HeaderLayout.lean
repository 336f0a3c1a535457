import OatImage.Image
import OatImage.Proofs.ExactReads
import OatImage.Proofs.ImageFaults

/-!
# Headers and their layout

Decoding a header inverts its layout, whatever the bytes of the version are. A header is decoded
at an address exactly if the signature and as many bytes as the version calls for lie in the
region; the fields, laid out again, are those bytes, so each field is read from its own slot and
the key-value store starts behind the last one. An image whose buffer ends before its header is
not set up.
-/
namespace OatImage

open Decode

namespace Region

variable {r : Region} {address : Int} {n m : Nat} {ns : List Nat}

theorem bears_wordBytes_cons : r.Bears address (wordBytes (n :: m :: ns)) ↔
    r.Bears address (toBytesLE 4 n) ∧ r.Bears (address + 4) (wordBytes (m :: ns)) := by
  have hsplit : wordBytes (n :: m :: ns) = toBytesLE 4 n ++ wordBytes (m :: ns) := rfl
  rw [hsplit, bears_append, length_toBytesLE]
  rfl

theorem bears_wordBytes_singleton :
    r.Bears address (wordBytes [n]) ↔ r.Bears address (toBytesLE 4 n) := by
  have hsplit : wordBytes [n] = toBytesLE 4 n ++ [] := rfl
  rw [hsplit, List.append_nil]

end Region

namespace Header

variable {r : Region} {address : Int} {h : Header}

/-- The fields of a header fit into their slots. -/
structure Fits (h : Header) : Prop where
  magic : h.magic.length = 4
  version : h.version.length = 4
  trampolines : h.trampolines.length = (trampolineNames h.version).length
  leading : IsWord h.checksum ∧ IsWord h.instructionSetCode ∧ IsWord h.features ∧
    IsWord h.dexFileCount ∧ IsWord h.executableOffset
  offsets : ∀ n ∈ h.trampolines, IsWord n
  trailing : IsWord h.imageChecksum ∧ IsWord h.imageDataBegin ∧ IsWord h.keyValueStoreSize
  delta : -0x80000000 ≤ h.imagePatchDelta ∧ h.imagePatchDelta < 0x80000000

theorem encode_eq (h : Header) : h.encode = h.magic ++ (h.version ++
    (wordBytes [h.checksum, h.instructionSetCode, h.features, h.dexFileCount,
        h.executableOffset] ++
      (wordBytes h.trampolines ++ wordBytes [wordOfInt h.imagePatchDelta, h.imageChecksum,
        h.imageDataBegin, h.keyValueStoreSize]))) := by
  simp only [encode, wordBytes, List.append_assoc]

/-- A header takes as many bytes as its version calls for. -/
theorem Fits.length_encode (hfits : h.Fits) : h.encode.length = h.size := by
  simp only [encode_eq, List.length_append, length_wordBytes, List.length_cons, List.length_nil,
    hfits.magic, hfits.version, hfits.trampolines, size, layoutSize]
  omega

/-- The fields of a header stand one behind the other. -/
theorem Fits.bears_encode_iff (hfits : h.Fits) : r.Bears address h.encode ↔
    r.Bears address h.magic ∧ r.Bears (address + 4) h.version ∧
      r.Bears (address + 8) (toBytesLE 4 h.checksum) ∧
      r.Bears (address + 12) (toBytesLE 4 h.instructionSetCode) ∧
      r.Bears (address + 16) (toBytesLE 4 h.features) ∧
      r.Bears (address + 20) (toBytesLE 4 h.dexFileCount) ∧
      r.Bears (address + 24) (toBytesLE 4 h.executableOffset) ∧
      r.Bears (address + 28) (wordBytes h.trampolines) ∧
      r.Bears (address + 28 + 4 * (trampolineNames h.version).length)
        (toBytesLE 4 (wordOfInt h.imagePatchDelta)) ∧
      r.Bears (address + 28 + 4 * (trampolineNames h.version).length + 4)
        (toBytesLE 4 h.imageChecksum) ∧
      r.Bears (address + 28 + 4 * (trampolineNames h.version).length + 8)
        (toBytesLE 4 h.imageDataBegin) ∧
      r.Bears (address + 28 + 4 * (trampolineNames h.version).length + 12)
        (toBytesLE 4 h.keyValueStoreSize) := by
  have hleading : address + 4 + 4 = address + 8 ∧ address + 8 + 4 = address + 12 ∧
      address + 12 + 4 = address + 16 ∧ address + 16 + 4 = address + 20 ∧
      address + 20 + 4 = address + 24 ∧
      address + 8 + ((4 * (0 + 1 + 1 + 1 + 1 + 1) : Nat) : Int) = address + 28 := by omega
  have htrailing : address + 28 + ((4 * (trampolineNames h.version).length : Nat) : Int) =
        address + 28 + 4 * (trampolineNames h.version).length ∧
      address + 28 + 4 * ((trampolineNames h.version).length : Int) + 4 + 4 =
        address + 28 + 4 * (trampolineNames h.version).length + 8 ∧
      address + 28 + 4 * ((trampolineNames h.version).length : Int) + 8 + 4 =
        address + 28 + 4 * (trampolineNames h.version).length + 12 := by omega
  rw [encode_eq]
  simp only [Region.bears_append, Region.bears_wordBytes_cons, Region.bears_wordBytes_singleton,
    hfits.magic, hfits.version, hfits.trampolines, length_wordBytes, List.length_cons,
    List.length_nil, and_assoc, Int.cast_ofNat_Int, hleading, htrailing]

/-- The check of the whole header is that of its bytes. -/
theorem Fits.contains_of_bears (hfits : h.Fits) (hbears : r.Bears address h.encode) :
    r.contains address (layoutSize h.version) = true := by
  have hcontains := hbears.contains
  rwa [hfits.length_encode] at hcontains

/-- A header is decoded where its bytes stand, and nowhere else. -/
theorem decode_eq_ok_iff (hr : r.Backed) :
    decode r address = .ok h ↔ h.address = address ∧ h.Fits ∧ r.Bears address h.encode := by
  constructor
  · intro hdecode
    unfold decode at hdecode
    obtain ⟨magic, hmagic, hdecode⟩ := bind_eq_ok.mp hdecode
    obtain ⟨version, hversion, hdecode⟩ := bind_eq_ok.mp hdecode
    obtain ⟨_, _, hdecode⟩ := bind_eq_ok.mp hdecode
    obtain ⟨checksum, hchecksum, hdecode⟩ := bind_eq_ok.mp hdecode
    obtain ⟨code, hcode, hdecode⟩ := bind_eq_ok.mp hdecode
    obtain ⟨features, hfeatures, hdecode⟩ := bind_eq_ok.mp hdecode
    obtain ⟨count, hcount, hdecode⟩ := bind_eq_ok.mp hdecode
    obtain ⟨executable, hexecutable, hdecode⟩ := bind_eq_ok.mp hdecode
    obtain ⟨trampolines, htrampolines, hdecode⟩ := bind_eq_ok.mp hdecode
    obtain ⟨delta, hdelta, hdecode⟩ := bind_eq_ok.mp hdecode
    obtain ⟨imageChecksum, himageChecksum, hdecode⟩ := bind_eq_ok.mp hdecode
    obtain ⟨imageDataBegin, himageDataBegin, hdecode⟩ := bind_eq_ok.mp hdecode
    obtain ⟨storeSize, hstoreSize, hdecode⟩ := bind_eq_ok.mp hdecode
    cases hdecode
    obtain ⟨hmagicSize, hmagic⟩ := hr.readBytes_eq_ok_iff.mp hmagic
    obtain ⟨hversionSize, hversion⟩ := hr.readBytes_eq_ok_iff.mp hversion
    obtain ⟨hchecksumWord, hchecksum⟩ := hr.word_eq_ok_iff.mp hchecksum
    obtain ⟨hcodeWord, hcode⟩ := hr.word_eq_ok_iff.mp hcode
    obtain ⟨hfeaturesWord, hfeatures⟩ := hr.word_eq_ok_iff.mp hfeatures
    obtain ⟨hcountWord, hcount⟩ := hr.word_eq_ok_iff.mp hcount
    obtain ⟨hexecutableWord, hexecutable⟩ := hr.word_eq_ok_iff.mp hexecutable
    obtain ⟨hentries, htrampolineWords, htrampolines⟩ := hr.u32s_eq_ok_iff.mp htrampolines
    obtain ⟨hrange, hdelta⟩ := hr.i32_eq_ok_iff.mp hdelta
    obtain ⟨himageWord, himageChecksum⟩ := hr.word_eq_ok_iff.mp himageChecksum
    obtain ⟨hdataWord, himageDataBegin⟩ := hr.word_eq_ok_iff.mp himageDataBegin
    obtain ⟨hstoreWord, hstoreSize⟩ := hr.word_eq_ok_iff.mp hstoreSize
    have hfits : Fits ⟨address, magic, version, checksum, code, features, count, executable,
        trampolines, delta, imageChecksum, imageDataBegin, storeSize⟩ :=
      { magic := (Int.ofNat.inj hmagicSize).symm
        version := (Int.ofNat.inj hversionSize).symm
        trampolines := (Int.ofNat.inj hentries).symm
        leading := ⟨hchecksumWord, hcodeWord, hfeaturesWord, hcountWord, hexecutableWord⟩
        offsets := htrampolineWords
        trailing := ⟨himageWord, hdataWord, hstoreWord⟩
        delta := hrange }
    exact ⟨rfl, hfits, hfits.bears_encode_iff.mpr ⟨hmagic, hversion, hchecksum, hcode, hfeatures,
      hcount, hexecutable, htrampolines, hdelta, himageChecksum, himageDataBegin, hstoreSize⟩⟩
  · rintro ⟨rfl, hfits, hbears⟩
    have hcheck : r.check h.address (layoutSize h.version) "OAT header" = .ok () :=
      Region.check_of_contains (hfits.contains_of_bears hbears)
    obtain ⟨hmagic, hversion, hchecksum, hcode, hfeatures, hcount, hexecutable, htrampolines,
      hdelta, himageChecksum, himageDataBegin, hstoreSize⟩ := hfits.bears_encode_iff.mp hbears
    obtain ⟨hchecksumWord, hcodeWord, hfeaturesWord, hcountWord, hexecutableWord⟩ := hfits.leading
    obtain ⟨himageWord, hdataWord, hstoreWord⟩ := hfits.trailing
    have hread₁ : r.readBytes h.address 4 "OAT magic" = .ok h.magic :=
      hr.readBytes_eq_ok_iff.mpr ⟨by rw [hfits.magic]; rfl, hmagic⟩
    have hread₂ : r.readBytes (h.address + 4) 4 "OAT version" = .ok h.version :=
      hr.readBytes_eq_ok_iff.mpr ⟨by rw [hfits.version]; rfl, hversion⟩
    have hread₃ : r.u32 (h.address + 8) "OAT header" = .ok h.checksum :=
      hr.word_eq_ok_iff.mpr ⟨hchecksumWord, hchecksum⟩
    have hread₄ : r.u32 (h.address + 12) "OAT header" = .ok h.instructionSetCode :=
      hr.word_eq_ok_iff.mpr ⟨hcodeWord, hcode⟩
    have hread₅ : r.u32 (h.address + 16) "OAT header" = .ok h.features :=
      hr.word_eq_ok_iff.mpr ⟨hfeaturesWord, hfeatures⟩
    have hread₆ : r.u32 (h.address + 20) "OAT header" = .ok h.dexFileCount :=
      hr.word_eq_ok_iff.mpr ⟨hcountWord, hcount⟩
    have hread₇ : r.u32 (h.address + 24) "OAT header" = .ok h.executableOffset :=
      hr.word_eq_ok_iff.mpr ⟨hexecutableWord, hexecutable⟩
    have hread₈ : r.u32s (h.address + 28) (trampolineNames h.version).length "OAT trampolines" =
        .ok h.trampolines :=
      hr.u32s_eq_ok_iff.mpr ⟨by rw [hfits.trampolines], hfits.offsets, htrampolines⟩
    have hread₉ : r.i32 (h.address + 28 + 4 * (trampolineNames h.version).length)
        "image_patch_delta" = .ok h.imagePatchDelta :=
      hr.i32_eq_ok_iff.mpr ⟨hfits.delta, hdelta⟩
    have hread₁₀ : r.u32 (h.address + 28 + 4 * (trampolineNames h.version).length + 4)
        "OAT header" = .ok h.imageChecksum := hr.word_eq_ok_iff.mpr ⟨himageWord, himageChecksum⟩
    have hread₁₁ : r.u32 (h.address + 28 + 4 * (trampolineNames h.version).length + 8)
        "OAT header" = .ok h.imageDataBegin := hr.word_eq_ok_iff.mpr ⟨hdataWord, himageDataBegin⟩
    have hread₁₂ : r.u32 (h.address + 28 + 4 * (trampolineNames h.version).length + 12)
        "OAT header" = .ok h.keyValueStoreSize := hr.word_eq_ok_iff.mpr ⟨hstoreWord, hstoreSize⟩
    rw [decode, hread₁]
    simp only [ok_bind, hread₂, hcheck, hread₃, hread₄, hread₅, hread₆, hread₇, hread₈, hread₉,
      hread₁₀, hread₁₁, hread₁₂]
    rfl

/-! Where a header is decoded. -/

/-- The bytes at the place of the version of a header. -/
def versionAt (r : Region) (address : Int) : List UInt8 := r.slice (r.offset (address + 4)) 4

/-- The signature and the whole header that it calls for lie in the region. -/
def LiesIn (r : Region) (address : Int) : Prop :=
  r.contains address 8 = true ∧ r.contains address (layoutSize (versionAt r address)) = true

theorem exists_decode (hr : r.Backed) (h : LiesIn r address) :
    ∃ h, decode r address = .ok h := by
  obtain ⟨hsignature, hsize⟩ := h
  obtain ⟨-, hbegin, hsignatureEnd⟩ := Region.contains_iff.mp hsignature
  obtain ⟨-, -, hend⟩ := Region.contains_iff.mp hsize
  have hin : ∀ x w : Int, 0 ≤ w → address ≤ x →
      x + w ≤ address + layoutSize (versionAt r address) → r.contains x w = true :=
    fun x w hw hx hlast => Region.contains_iff.mpr ⟨hw, by omega, by omega⟩
  have hmagic : r.contains address 4 = true :=
    Region.contains_iff.mpr ⟨by omega, by omega, by omega⟩
  have hversion : r.contains (address + 4) 4 = true :=
    Region.contains_iff.mpr ⟨by omega, by omega, by omega⟩
  have hcheck : r.check address (layoutSize (versionAt r address)) "OAT header" = .ok () :=
    Region.check_of_contains hsize
  have hread : r.readBytes (address + 4) 4 "OAT version" = .ok (versionAt r address) :=
    Region.readBytes_of_contains hversion
  generalize versionAt r address = version at hin hcheck hread
  have hlayout : layoutSize version = 28 + 4 * (trampolineNames version).length + 16 := rfl
  have hword : ∀ x : Int, address ≤ x → x + 4 ≤ address + layoutSize version →
      r.u32 x "OAT header" = .ok (ofBytesLE (r.slice (r.offset x) 4)) := fun x hx hlast =>
    hr.word_of_contains (hin x 4 (by omega) hx hlast)
  have htrampolines : r.u32s (address + 28) (trampolineNames version).length "OAT trampolines" =
      .ok (r.words (r.offset (address + 28)) (trampolineNames version).length) :=
    hr.u32s_of_contains (hin (address + 28) _ (by omega) (by omega) (by omega))
  have hdelta : r.word 4 (address + 28 + 4 * (trampolineNames version).length)
      "image_patch_delta" = .ok (ofBytesLE (r.slice
        (r.offset (address + 28 + 4 * (trampolineNames version).length)) 4)) :=
    hr.word_of_contains (hin _ 4 (by omega) (by omega) (by omega))
  rw [decode, Region.readBytes_of_contains hmagic]
  simp only [ok_bind, hread, hcheck, htrampolines, Region.i32, hdelta,
    hword (address + 8) (by omega) (by omega), hword (address + 12) (by omega) (by omega),
    hword (address + 16) (by omega) (by omega), hword (address + 20) (by omega) (by omega),
    hword (address + 24) (by omega) (by omega),
    hword (address + 28 + 4 * (trampolineNames version).length + 4) (by omega) (by omega),
    hword (address + 28 + 4 * (trampolineNames version).length + 8) (by omega) (by omega),
    hword (address + 28 + 4 * (trampolineNames version).length + 12) (by omega) (by omega)]
  exact ⟨_, rfl⟩

/-- Outside the region one of the first three checks fails. -/
theorem decode_of_not_liesIn (h : ¬ LiesIn r address) :
    ∃ d, decode r address = .error (.decode d) := by
  by_cases hmagic : r.contains address 4 = true
  · by_cases hversion : r.contains (address + 4) 4 = true
    · have hsize : ¬ r.contains address (layoutSize (versionAt r address)) = true := by
        intro hsize
        obtain ⟨-, hbegin, -⟩ := Region.contains_iff.mp hmagic
        obtain ⟨-, -, hend⟩ := Region.contains_iff.mp hversion
        exact h ⟨Region.contains_iff.mpr ⟨by omega, hbegin, by omega⟩, hsize⟩
      have hread : r.readBytes (address + 4) 4 "OAT version" = .ok (versionAt r address) :=
        Region.readBytes_of_contains hversion
      rw [decode, Region.readBytes_of_contains hmagic]
      simp only [ok_bind, hread, Region.check_of_not_contains hsize]
      exact ⟨_, rfl⟩
    · rw [decode, Region.readBytes_of_contains hmagic, ok_bind, Region.readBytes,
        Region.check_of_not_contains hversion]
      exact ⟨_, rfl⟩
  · rw [decode, Region.readBytes, Region.check_of_not_contains hmagic]
    exact ⟨_, rfl⟩

theorem liesIn_of_decode (hdecode : decode r address = .ok h) : LiesIn r address := by
  by_contra hout
  obtain ⟨d, herror⟩ := decode_of_not_liesIn hout
  rw [herror] at hdecode
  cases hdecode

/-- The version that is decoded is the one in its place. -/
theorem version_of_bears (hfits : h.Fits) (hbears : r.Bears address h.encode) :
    versionAt r address = h.version := by
  obtain ⟨-, hversion, -⟩ := hfits.bears_encode_iff.mp hbears
  have hbytes := hversion.bytes
  rwa [hfits.version, ← Region.slice_eq] at hbytes

/-! The header at the start of a buffer. -/

/-- The bytes of a buffer at the place of the version. -/
def versionOf (buffer : ByteArray) : List UInt8 := (buffer.data.toList.drop 4).take 4

variable {buffer : ByteArray} {begin stop : Int}

/-- The first eight bytes of a buffer are the signature of the header that is decoded there. -/
theorem signature_of_bears (hfits : h.Fits)
    (hbears : (Region.ofBuffer buffer begin stop).Bears begin h.encode) :
    (buffer.extract 0 8).toList = h.magic ++ h.version := by
  obtain ⟨hmagic, hversion, -⟩ := hfits.bears_encode_iff.mp hbears
  have hlength : (h.magic ++ h.version).length = 8 := by
    rw [List.length_append, hfits.magic, hfits.version]
  have hboth : (Region.ofBuffer buffer begin stop).Bears begin (h.magic ++ h.version) := by
    rw [Region.bears_append, hfits.magic]
    exact ⟨hmagic, hversion⟩
  have hend : begin + (h.magic ++ h.version).length ≤ stop := hboth.le_stop
  have hbytes := hboth.bytes
  have hstart : (Region.ofBuffer buffer begin stop).offset begin = 0 :=
    Int.toNat_eq_zero.mpr (Int.le_of_eq (Int.sub_self begin))
  rw [hstart, List.drop_zero, Region.contents_ofBuffer, List.take_take, hlength,
    Nat.min_eq_left (by omega)] at hbytes
  rw [toList_eq, ByteArray.data_extract, Array.toList_extract, List.extract_eq_take_drop,
    List.drop_zero, hbytes]

/-- Both ways of asking whether an image is valid look at the same bytes. -/
theorem isValid_eq (hfits : h.Fits)
    (hbears : (Region.ofBuffer buffer begin stop).Bears begin h.encode) :
    h.isValid = isValidBuffer buffer := by
  have hlength : (h.magic ++ h.version).length = 8 := by
    rw [List.length_append, hfits.magic, hfits.version]
  have hmagic : (h.magic ++ h.version).take 4 = h.magic := by
    rw [← hfits.magic, List.take_left]
  have hversion : (h.magic ++ h.version).drop 4 = h.version := by
    rw [← hfits.magic, List.drop_left]
  rw [isValidBuffer, signature_of_bears hfits hbears]
  simp only [hlength, hmagic, hversion, isValid, beq_self_eq_true, Bool.true_and]

end Header

namespace Image

variable {buffer : ByteArray}

/-- A buffer without bytes is no range of addresses. -/
theorem ofBuffer_of_empty (h : buffer.size = 0) (base : Int) (asked : Option InstructionSet) :
    ofBuffer (some buffer) base asked = .error (.setup (.inverted base base)) := by
  have hstop : base + (((some buffer).map ByteArray.size).getD 0 : Nat) = base := by
    rw [Option.map_some, Option.getD_some, h]
    exact Int.add_zero base
  rw [ofBuffer, hstop]
  exact if_pos (Int.le_refl base)

/-- A buffer that ends before its header is not decoded. -/
theorem ofBuffer_of_short (hpos : 0 < buffer.size)
    (hshort : buffer.size < Header.layoutSize (Header.versionOf buffer)) (base : Int)
    (asked : Option InstructionSet) :
    ∃ d, ofBuffer (some buffer) base asked = .error (.decode d) := by
  have hwhole : (Region.ofBuffer buffer base (base + buffer.size)).contents =
      buffer.data.toList := by
    rw [Region.contents_ofBuffer, List.take_of_length_le]
    show buffer.size ≤ _
    omega
  have hversion : Header.versionAt (Region.ofBuffer buffer base (base + buffer.size)) base =
      Header.versionOf buffer := by
    have hoffset : (Region.ofBuffer buffer base (base + buffer.size)).offset (base + 4) = 4 := by
      show (base + 4 - base).toNat = 4
      omega
    rw [Header.versionAt, hoffset, Region.slice_eq, hwhole, Header.versionOf]
  have hout : ¬ Header.LiesIn (Region.ofBuffer buffer base (base + buffer.size)) base := by
    rintro ⟨-, hsize⟩
    rw [hversion] at hsize
    obtain ⟨-, -, hend⟩ := Region.contains_iff.mp hsize
    have hlast : base + Header.layoutSize (Header.versionOf buffer) ≤ base + buffer.size := hend
    omega
  obtain ⟨d, hdecode⟩ := Header.decode_of_not_liesIn hout
  refine ⟨d, ?_⟩
  rw [ofBuffer, Option.map_some, Option.getD_some, setup]
  dsimp only
  rw [if_neg (by omega), if_neg (by omega), hdecode]
  rfl

end Image

namespace Header

/-- In a region over a buffer the header at an address is what is laid out there. It is decoded if
its signature and its version's number of bytes lie in the region, and refused otherwise; its
fields in the order of the layout are those bytes, and the key-value store of an image starts
behind them. Whether the header at the start is valid can be told from the buffer alone, and a
buffer that ends before it makes no image. -/
structure InvertsLayout (buffer : ByteArray) (begin stop : Int) : Prop where
  accepts : ∀ a, (∃ h, decode (Region.ofBuffer buffer begin stop) a = .ok h) ↔
    (Region.ofBuffer buffer begin stop).contains a 8 = true ∧
      (Region.ofBuffer buffer begin stop).contains a
        (layoutSize (versionAt (Region.ofBuffer buffer begin stop) a)) = true
  refuses : ∀ a, (¬ ∃ h, decode (Region.ofBuffer buffer begin stop) a = .ok h) →
    ∃ d, decode (Region.ofBuffer buffer begin stop) a = .error (.decode d)
  decodes_iff : ∀ a h, decode (Region.ofBuffer buffer begin stop) a = .ok h ↔
    h.address = a ∧ h.Fits ∧ (Region.ofBuffer buffer begin stop).Bears a h.encode
  encodes : ∀ a h, decode (Region.ofBuffer buffer begin stop) a = .ok h →
    h.version = versionAt (Region.ofBuffer buffer begin stop) a ∧
      h.encode = (Region.ofBuffer buffer begin stop).slice
        ((Region.ofBuffer buffer begin stop).offset a) (layoutSize h.version)
  store : ∀ asked image, Image.setup (some begin) (some stop) (some buffer) asked = .ok image →
    image.storeStart = begin + image.header.encode.length
  valid : ∀ h, decode (Region.ofBuffer buffer begin stop) begin = .ok h →
    h.isValid = isValidBuffer buffer
  empty : buffer.size = 0 → ∀ base asked,
    Image.ofBuffer (some buffer) base asked = .error (.setup (.inverted base base))
  short : 0 < buffer.size → buffer.size < layoutSize (versionOf buffer) → ∀ base asked,
    ∃ d, Image.ofBuffer (some buffer) base asked = .error (.decode d)

variable {buffer : ByteArray} {begin stop : Int}

/-- The fields of a header, laid out again, are the bytes that it was decoded from. -/
theorem encode_of_bears {r : Region} {a : Int} {h : Header} (hfits : h.Fits)
    (hbears : r.Bears a h.encode) : h.encode = r.slice (r.offset a) (layoutSize h.version) := by
  have hbytes := hbears.bytes
  rw [hfits.length_encode, ← Region.slice_eq] at hbytes
  exact hbytes.symm

theorem decode_ofBuffer_eq_ok_iff (hbuffer : stop - begin ≤ buffer.size) {a : Int} {h : Header} :
    decode (Region.ofBuffer buffer begin stop) a = .ok h ↔
      h.address = a ∧ h.Fits ∧ (Region.ofBuffer buffer begin stop).Bears a h.encode := by
  constructor
  · intro hdecode
    have hr := Region.ofBuffer_backed_of_contains hbuffer (liesIn_of_decode hdecode).1
    exact (decode_eq_ok_iff hr).mp hdecode
  · intro hh
    have hr := Region.ofBuffer_backed_of_contains hbuffer hh.2.2.contains
    exact (decode_eq_ok_iff hr).mpr hh

/-- Decoding a header is the inverse of laying it out, in every region over a buffer with enough
bytes. -/
theorem invertsLayout (hbuffer : stop - begin ≤ buffer.size) :
    InvertsLayout buffer begin stop := by
  constructor
  · intro a
    constructor
    · exact fun ⟨h, hdecode⟩ => liesIn_of_decode hdecode
    · exact fun hin => exists_decode (Region.ofBuffer_backed_of_contains hbuffer hin.1) hin
  · intro a hnone
    refine decode_of_not_liesIn fun hin => hnone ?_
    exact exists_decode (Region.ofBuffer_backed_of_contains hbuffer hin.1) hin
  · exact fun a h => decode_ofBuffer_eq_ok_iff hbuffer
  · intro a h hdecode
    obtain ⟨-, hfits, hbears⟩ := (decode_ofBuffer_eq_ok_iff hbuffer).mp hdecode
    exact ⟨(version_of_bears hfits hbears).symm, encode_of_bears hfits hbears⟩
  · intro asked image hsetup
    obtain ⟨b, s, held, header, hb, hs, hheld, -, -, hdecode, rfl⟩ := Image.setup_eq_ok hsetup
    cases hb
    cases hs
    cases hheld
    obtain ⟨-, hfits, -⟩ := (decode_ofBuffer_eq_ok_iff hbuffer).mp hdecode
    show begin + (header.size : Int) = begin + header.encode.length
    rw [hfits.length_encode]
  · intro h hdecode
    obtain ⟨-, hfits, hbears⟩ := (decode_ofBuffer_eq_ok_iff hbuffer).mp hdecode
    exact isValid_eq hfits hbears
  · exact Image.ofBuffer_of_empty
  · exact Image.ofBuffer_of_short

/-- A header of version 045 with a value of its own in every slot. -/
def oldHeader : Header :=
  { address := -100, magic := magicBytes, version := version045, checksum := 1
    instructionSetCode := 2, features := 3, dexFileCount := 4, executableOffset := 5
    trampolines := [6, 7, 8, 9, 10, 11, 12, 13, 14, 15], imagePatchDelta := -16
    imageChecksum := 17, imageDataBegin := 18, keyValueStoreSize := 19 }

/-- The header is read back from a buffer that goes on behind it. -/
theorem invertsLayout_oldHeader :
    (0 : Int) - (-100) ≤ (⟨(oldHeader.encode ++ List.replicate 16 0).toArray⟩ : ByteArray).size ∧
      InvertsLayout ⟨(oldHeader.encode ++ List.replicate 16 0).toArray⟩ (-100) 0 ∧
      decode (Region.ofBuffer ⟨(oldHeader.encode ++ List.replicate 16 0).toArray⟩ (-100) 0) (-100) =
        .ok oldHeader :=
  ⟨by decide, invertsLayout (by decide), by decide +kernel⟩

end Header

end OatImage
