import OatImage.Proofs.ElfSpan
import OatImage.Proofs.ElfTables

/-!
# The memory of any file

The loadable segments of a file say byte by byte what its memory holds: at each address the last
segment counts that has a byte of the file for it, and an address for which none has one is zero.
Segments may overlap, begin before the image or end behind it, and point beyond the file. The
image between two symbols is the memory between them, and it is refused for the causes that
`Unloadable` lists and for no others. What is not refused may still be longer than any buffer:
the segments may reserve so much, and then the load breaks off.
-/
namespace OatImage.Elf

/-- The place in the file of the byte for an address. -/
def Segment.position (s : Segment) (address : Nat) : Nat := s.offset + (address - s.address)

/-- The segment has a byte of the file for an address. -/
def Segment.Supplies (s : Segment) (file : List UInt8) (address : Nat) : Prop :=
  s.address ≤ address ∧ address < s.address + s.fileSize ∧ s.position address < file.length

instance (s : Segment) (file : List UInt8) (address : Nat) : Decidable (s.Supplies file address) :=
  inferInstanceAs (Decidable (_ ∧ _))

/-- The memory holds a byte at an address: that of the last loadable segment that has one for it,
and zero where there is none. -/
def HasByte (file : List UInt8) (segments : List Segment) (address : Nat) (b : UInt8) : Prop :=
  match (segments.filter fun s => s.kind = loadable ∧ s.Supplies file address).getLast? with
  | some s => file[s.position address]? = some b
  | none => b = 0

/-- The memory holds one byte at an address. -/
theorem HasByte.unique {file : List UInt8} {segments : List Segment} {address : Nat}
    {a b : UInt8} (ha : HasByte file segments address a) (hb : HasByte file segments address b) :
    a = b := by
  rw [HasByte] at ha hb
  split at ha
  · rename_i s hs
    rw [hs] at hb
    exact Option.some.inj (ha.symm.trans hb)
  · rename_i hs
    rw [hs] at hb
    exact ha.trans hb.symm

/-- The memory that the loadable segments reserve. -/
def reservedBy (segments : List Segment) : Nat :=
  Numeral.total ((segments.filter fun s => s.kind = loadable).map Segment.memorySize)

/-- The address behind the last word. -/
def Symbol.stop (s : Symbol) : Nat := s.value + max s.size 4

/-- Why there is no image between two symbols. -/
inductive Unloadable (segments : List Segment) (limit : Option Int) :
    (start last : Option Symbol) → Prop
  | noStart (last : Option Symbol) : Unloadable segments limit none last
  | noLast (start : Option Symbol) : Unloadable segments limit start none
  | inverted (start last : Symbol) (h : last.stop ≤ start.value) :
      Unloadable segments limit (some start) (some last)
  | overMemory (start last : Symbol) (h : reservedBy segments < last.stop - start.value) :
      Unloadable segments limit (some start) (some last)
  | overLimit (start last : Symbol) (bound : Int) (hlimit : limit = some bound)
      (h : bound < (last.stop - start.value : Nat)) :
      Unloadable segments limit (some start) (some last)

/-- The image between two symbols is the memory between them. -/
structure IsImageOf (file : List UInt8) (segments : List Segment) (start last : Symbol)
    (image : ByteArray) : Prop where
  size : image.size = last.stop - start.value
  bytes : ∀ k (hk : k < image.size), HasByte file segments (start.value + k) image[k]

/-- A buffer of a size can be made: there are positions enough, or it is no longer than the file,
which is a buffer too. -/
def HasRoom (file : List UInt8) (size : Nat) : Prop := size < positionLimit ∨ size ≤ file.length

instance (file : List UInt8) (size : Nat) : Decidable (HasRoom file size) :=
  inferInstanceAs (Decidable (_ ∨ _))

/-- How a load ends that is not refused: with the memory between the two symbols and the value of
the first, unless no buffer is as long as that. -/
inductive Materializes (file : List UInt8) (segments : List Segment) (start last : Symbol) :
    Decode (ByteArray × Nat) → Prop
  | image (bytes : ByteArray) (hroom : HasRoom file (last.stop - start.value))
      (hbytes : IsImageOf file segments start last bytes) :
      Materializes file segments start last (.ok (bytes, start.value))
  | beyond (hroom : ¬ HasRoom file (last.stop - start.value)) :
      Materializes file segments start last (.error (.broken .bufferBeyond))

/-! One segment. -/

theorem data_overlay {buffer chunk : ByteArray} {start : Nat} :
    (overlay buffer start chunk).data.toList = buffer.data.toList.take start ++
      chunk.data.toList ++ buffer.data.toList.drop (start + chunk.size) := by
  have hlen : buffer.data.toList.length = buffer.size := rfl
  have hall : (buffer.data.toList.drop (start + chunk.size)).length ≤
      buffer.size - (start + chunk.size) := Nat.le_of_eq (by rw [List.length_drop, hlen])
  rw [overlay, ByteArray.toList_data_append, ByteArray.toList_data_append, Region.contents_cut,
    Region.contents_cut, List.drop_zero, Nat.sub_zero, List.take_of_length_le hall]

/-- A chunk inside a buffer takes the place of the bytes there and leaves the others. -/
theorem getElem?_overlay {buffer chunk : ByteArray} {start : Nat}
    (h : start + chunk.size ≤ buffer.size) (k : Nat) :
    (overlay buffer start chunk).data.toList[k]? =
      if start ≤ k ∧ k < start + chunk.size then chunk.data.toList[k - start]?
      else buffer.data.toList[k]? := by
  have hlen : buffer.data.toList.length = buffer.size := rfl
  have hchunk : chunk.data.toList.length = chunk.size := rfl
  have htake : (buffer.data.toList.take start).length = start := by
    rw [List.length_take, hlen]
    omega
  rw [data_overlay, List.append_assoc]
  by_cases hbefore : k < start
  · have hout : ¬ (start ≤ k ∧ k < start + chunk.size) := by omega
    rw [if_neg hout, List.getElem?_append_left (by omega), List.getElem?_take_of_lt hbefore]
  · rw [List.getElem?_append_right (by omega), htake]
    by_cases hin : k < start + chunk.size
    · have hchunkIn : start ≤ k ∧ k < start + chunk.size := ⟨by omega, hin⟩
      rw [if_pos hchunkIn, List.getElem?_append_left (by omega)]
    · have hout : ¬ (start ≤ k ∧ k < start + chunk.size) := by omega
      rw [if_neg hout, List.getElem?_append_right (by omega), List.getElem?_drop, hchunk]
      congr 1
      omega

theorem size_overlay {buffer chunk : ByteArray} {start : Nat}
    (h : start + chunk.size ≤ buffer.size) : (overlay buffer start chunk).size = buffer.size := by
  have hlen : buffer.data.toList.length = buffer.size := rfl
  have hchunk : chunk.data.toList.length = chunk.size := rfl
  show (overlay buffer start chunk).data.toList.length = _
  rw [data_overlay, List.length_append, List.length_append, List.length_take, List.length_drop,
    hlen, hchunk]
  omega

namespace Container

variable {c : Container} {e : Encoding} {file : List UInt8} {base stop : Nat}

/-- Placing a segment sets the bytes that it has for the span and leaves the others. -/
theorem Shows.placeSegment_spec (h : c.Shows e file) {image : ByteArray}
    (hsize : image.size = stop - base) (s : Segment) :
    (c.placeSegment base stop image s).size = image.size ∧
      ∀ k < stop - base, (c.placeSegment base stop image s).data.toList[k]? =
        if s.Supplies file (base + k) then file[s.position (base + k)]?
        else image.data.toList[k]? := by
  rw [placeSegment]
  generalize hlow : max base s.address = low
  generalize hhigh : min stop (s.address + s.fileSize) = high
  by_cases hempty : high ≤ low
  · simp only [if_pos hempty, true_and]
    intro k hk
    have hout : ¬ s.Supplies file (base + k) := by
      rintro ⟨hbegin, hend, _⟩
      omega
    rw [if_neg hout]
  · simp only [if_neg hempty]
    generalize hstart : s.offset + (low - s.address) = start
    have hchunk : (cut c.data start (start + (high - low))).data.toList =
        (file.drop start).take (high - low) := by
      rw [Region.contents_cut, h.data, Nat.add_sub_cancel_left]
    have hlen : (cut c.data start (start + (high - low))).size =
        min (high - low) (file.length - start) := by
      show (cut c.data start (start + (high - low))).data.toList.length = _
      rw [hchunk, List.length_take, List.length_drop]
    have hfits : low - base + (cut c.data start (start + (high - low))).size ≤ image.size := by
      omega
    refine ⟨size_overlay hfits, fun k hk => ?_⟩
    rw [getElem?_overlay hfits, hchunk, hlen]
    by_cases hin : s.Supplies file (base + k)
    · obtain ⟨hbegin, hend, hfile⟩ := hin
      rw [Segment.position] at hfile
      have hrange : low - base ≤ k ∧
          k < low - base + min (high - low) (file.length - start) := by omega
      have hplace : start + (k - (low - base)) = s.offset + (base + k - s.address) := by omega
      rw [if_pos hrange, if_pos ⟨hbegin, hend, hfile⟩, List.getElem?_take_of_lt (by omega),
        List.getElem?_drop, hplace]
      rfl
    · have hrange : ¬ (low - base ≤ k ∧
          k < low - base + min (high - low) (file.length - start)) := by
        rintro ⟨hbegin, hend⟩
        refine hin ⟨by omega, by omega, ?_⟩
        rw [Segment.position]
        omega
      rw [if_neg hrange, if_neg hin]

/-- After all segments are placed the last one counts that has a byte for an address. -/
theorem Shows.foldl_placeSegment (h : c.Shows e file) (segments : List Segment)
    {image : ByteArray} (hsize : image.size = stop - base) :
    (segments.foldl (c.placeSegment base stop) image).size = image.size ∧
      ∀ k < stop - base, (segments.foldl (c.placeSegment base stop) image).data.toList[k]? =
        match (segments.filter fun s => s.Supplies file (base + k)).getLast? with
        | some s => file[s.position (base + k)]?
        | none => image.data.toList[k]? := by
  induction segments generalizing image with
  | nil => exact ⟨rfl, fun k _ => rfl⟩
  | cons s segments ih =>
      obtain ⟨hstep, hbytes⟩ := h.placeSegment_spec hsize s
      obtain ⟨hrest, hall⟩ := ih (hstep.trans hsize)
      refine ⟨hrest.trans hstep, fun k hk => ?_⟩
      rw [List.foldl_cons, hall k hk, List.filter_cons]
      by_cases hs : s.Supplies file (base + k)
      · rw [if_pos (decide_eq_true hs), List.getLast?_cons]
        cases hlast : (segments.filter fun s => s.Supplies file (base + k)).getLast? with
        | some t => rfl
        | none =>
            dsimp only
            rw [hbytes k hk, if_pos hs]
            rfl
      · rw [if_neg (by simpa only [decide_eq_true_eq] using hs)]
        cases hlast : (segments.filter fun s => s.Supplies file (base + k)).getLast? with
        | some t => rfl
        | none =>
            dsimp only
            rw [hbytes k hk, if_neg hs]

/-- The bytes of a span are those of the memory. -/
theorem Shows.spanBytes_spec (h : c.Shows e file) (base stop : Nat) :
    (c.spanBytes base stop).size = stop - base ∧
      ∀ k (hk : k < (c.spanBytes base stop).size),
        HasByte file c.segments (base + k) (c.spanBytes base stop)[k] := by
  have hzeros : (zeros (stop - base)).size = stop - base := length_zeros _
  obtain ⟨hsize, hbytes⟩ := h.foldl_placeSegment c.loadableSegments hzeros
  have hlen : (c.spanBytes base stop).size = stop - base := hsize.trans hzeros
  refine ⟨hlen, fun k hk => ?_⟩
  have hget : (c.spanBytes base stop).data.toList[k]? = some (c.spanBytes base stop)[k] :=
    List.getElem?_eq_getElem hk
  have hk' : k < stop - base := hlen ▸ hk
  have hspan : (c.spanBytes base stop).data.toList[k]? = _ := hbytes k hk'
  have hzero : (zeros (stop - base)).data.toList[k]? = some 0 := by
    rw [zeros, Array.toList_replicate, List.getElem?_replicate, if_pos hk']
  have hsegments : (c.loadableSegments.filter fun s => s.Supplies file (base + k)) =
      c.segments.filter fun s => s.kind = loadable ∧ s.Supplies file (base + k) := by
    rw [loadableSegments, List.filter_filter]
    simp only [Bool.decide_and, Bool.and_comm]
  rw [hget, hsegments, hzero] at hspan
  rw [HasByte]
  split
  · rename_i s hs
    rw [hs] at hspan
    exact hspan.symm
  · rename_i hs
    rw [hs] at hspan
    exact Option.some.inj hspan

/-! The image between two symbols. -/

theorem Shows.hasRoom_iff (h : c.Shows e file) (size : Nat) :
    c.hasRoom size = true ↔ HasRoom file size := by
  rw [hasRoom, h.size_eq, Bool.or_eq_true, decide_eq_true_eq, decide_eq_true_eq, HasRoom]

theorem Shows.makeRoom_eq (h : c.Shows e file) (size : Nat) :
    c.makeRoom size =
      if HasRoom file size then .ok () else .error (.broken .bufferBeyond) := by
  simp only [makeRoom, h.hasRoom_iff]

theorem checkLimit_orNone (span : Nat) (limit : Option Int) :
    (∃ bound, limit = some bound ∧ bound < span ∧
      checkLimit span (.orNone .integer limit) =
        .error (.load (.spanOverLimit span (.whole bound)))) ∨
    (¬ (∃ bound, limit = some bound ∧ bound < span) ∧
      checkLimit span (.orNone .integer limit) = .ok ()) := by
  cases limit with
  | none =>
      right
      refine ⟨?_, rfl⟩
      rintro ⟨bound, hbound, _⟩
      cases hbound
  | some bound =>
      have hcheck : checkLimit span (.orNone .integer (some bound)) =
          if (Quantity.whole bound).isBelow span then
            .error (.load (.spanOverLimit span (.whole bound))) else .ok () := rfl
      have hbelow : (Quantity.whole bound).isBelow span = decide (bound < (span : Int)) := rfl
      rw [hcheck, hbelow]
      by_cases hover : bound < (span : Int)
      · left
        exact ⟨bound, rfl, hover, if_pos (decide_eq_true hover)⟩
      · right
        refine ⟨?_, if_neg (by simpa only [decide_eq_true_eq] using hover)⟩
        rintro ⟨other, hother, hlt⟩
        cases hother
        exact hover hlt

/-- The image between two symbols, if a number of bytes of memory is reserved. -/
def loadWithin (c : Container) (reserved : Nat) (startName lastName limit : Value) :
    Decode (ByteArray × Nat) :=
  if !c.isRead then .error (.load .unparsedContainer)
  else do
    let start ← c.named startName
    let last ← c.named lastName
    let base := start.value
    let stop := last.value + max last.size 4
    if stop ≤ base then throw (.load (.invertedSymbols last.name stop start.name base))
    let span := stop - base
    if reserved < span then throw (.load (.spanOverMemory span reserved))
    checkLimit span limit
    c.makeRoom span
    pure (c.spanBytes base stop, base)

theorem load_eq_loadWithin (c : Container) : c.load = c.loadWithin c.reserved := rfl

/-- What becomes of a load once both symbols are found. -/
theorem loadWithin_of_named (reserved : Nat) {startName lastName : Value} {start last : Symbol}
    (limit : Value) (hread : c.isRead = true) (hstart : c.named startName = .ok start)
    (hlast : c.named lastName = .ok last) :
    c.loadWithin reserved startName lastName limit =
      if last.stop ≤ start.value then
        .error (.load (.invertedSymbols last.name last.stop start.name start.value))
      else if reserved < last.stop - start.value then
        .error (.load (.spanOverMemory (last.stop - start.value : Nat) reserved))
      else checkLimit (last.stop - start.value) limit >>= fun _ =>
        c.makeRoom (last.stop - start.value) >>= fun _ =>
          .ok (c.spanBytes start.value last.stop, start.value) := by
  have hstop : last.value + max last.size 4 = last.stop := rfl
  unfold loadWithin
  rw [hread, hstart, hlast]
  simp only [Decode.ok_bind, Bool.not_true, Bool.false_eq_true, if_false, hstop]
  split
  · rfl
  · split
    · rfl
    · rfl

/-- An image that is loaded has both symbols, and its address is the value of the first. -/
theorem named_of_load {startName lastName limit : Value} {bytes : ByteArray} {base : Nat}
    (hload : c.load startName lastName limit = .ok (bytes, base)) :
    ∃ start last, c.named startName = .ok start ∧ c.named lastName = .ok last ∧
      base = start.value := by
  unfold load at hload
  cases hread : c.isRead with
  | false =>
      rw [hread] at hload
      cases hload
  | true =>
      simp only [hread, Bool.not_true, Bool.false_eq_true, if_false] at hload
      obtain ⟨start, hstart, hload⟩ := Decode.bind_eq_ok.mp hload
      obtain ⟨last, hlast, hload⟩ := Decode.bind_eq_ok.mp hload
      split at hload
      · cases hload
      · split at hload
        · cases hload
        · obtain ⟨_, _, hload⟩ := Decode.bind_eq_ok.mp hload
          obtain ⟨_, _, hload⟩ := Decode.bind_eq_ok.mp hload
          cases hload
          exact ⟨start, last, hstart, hlast, rfl⟩

theorem named_of_symbol {name : String} {s : Symbol} (h : c.symbol name = some s) :
    c.named (.text name) = .ok s := by
  simp only [named, h]

theorem named_of_missing {name : String} (h : c.symbol name = none) :
    c.named (.text name) = .error (.load (.missingSymbol (Quoted.text name))) := by
  simp only [named, h]
  rfl

theorem load_of_missing {startName lastName : String} (limit : Value) (hread : c.isRead = true)
    (h : c.symbol startName = none ∨ c.symbol lastName = none) :
    ∃ e, c.load (.text startName) (.text lastName) limit = .error (.load e) := by
  unfold load
  rw [hread]
  cases hstart : c.symbol startName with
  | none =>
      rw [named_of_missing hstart]
      exact ⟨_, rfl⟩
  | some start =>
      have hlast : c.symbol lastName = none :=
        h.resolve_left fun hnone => by rw [hstart] at hnone; cases hnone
      rw [named_of_symbol hstart, named_of_missing hlast]
      exact ⟨_, rfl⟩

/-- A container loads the memory between two symbols, unless there is a cause not to. -/
structure LoadsMemory (c : Container) (file : List UInt8) (segments : List Segment)
    (startName lastName : String) (limit : Option Int) : Prop where
  refused : (∃ e, c.load (.text startName) (.text lastName) (.orNone .integer limit) =
    .error (.load e)) ↔ Unloadable segments limit (c.symbol startName) (c.symbol lastName)
  loaded : ¬ Unloadable segments limit (c.symbol startName) (c.symbol lastName) →
    ∃ start last, c.symbol startName = some start ∧ c.symbol lastName = some last ∧
      Materializes file segments start last
        (c.load (.text startName) (.text lastName) (.orNone .integer limit))

theorem loadsMemory_of_error {segments : List Segment} {startName lastName : String}
    {limit : Option Int} {e : LoadFault}
    (hload : c.load (.text startName) (.text lastName) (.orNone .integer limit) =
      .error (.load e))
    (h : Unloadable segments limit (c.symbol startName) (c.symbol lastName)) :
    c.LoadsMemory file segments startName lastName limit where
  refused := ⟨fun _ => h, fun _ => ⟨e, hload⟩⟩
  loaded := fun hnot => absurd h hnot

theorem not_unloadable {segments : List Segment} {limit : Option Int} {start last : Symbol}
    (hinverted : ¬ last.stop ≤ start.value)
    (hmemory : ¬ reservedBy segments < last.stop - start.value)
    (hlimit : ¬ ∃ bound, limit = some bound ∧ bound < (last.stop - start.value : Nat)) :
    ¬ Unloadable segments limit (some start) (some last) := by
  intro hcause
  cases hcause with
  | inverted _ _ hcause => exact hinverted hcause
  | overMemory _ _ hcause => exact hmemory hcause
  | overLimit _ _ bound hbound hcause => exact hlimit ⟨bound, hbound, hcause⟩

/-- A span that is not refused is made, if a buffer for it can be. -/
theorem Shows.materializes (h : c.Shows e file) (start last : Symbol) :
    Materializes file c.segments start last (c.makeRoom (last.stop - start.value) >>= fun _ =>
      .ok (c.spanBytes start.value last.stop, start.value)) := by
  obtain ⟨hsize, hbytes⟩ := h.spanBytes_spec start.value last.stop
  rw [h.makeRoom_eq]
  by_cases hroom : HasRoom file (last.stop - start.value)
  · rw [if_pos hroom]
    exact .image _ hroom ⟨hsize, hbytes⟩
  · rw [if_neg hroom]
    exact .beyond hroom

theorem loadsMemory_of_materializes {segments : List Segment} {startName lastName : String}
    {limit : Option Int} {start last : Symbol} (hstart : c.symbol startName = some start)
    (hlast : c.symbol lastName = some last)
    (hload : Materializes file segments start last
      (c.load (.text startName) (.text lastName) (.orNone .integer limit)))
    (hloadable : ¬ Unloadable segments limit (some start) (some last)) :
    c.LoadsMemory file segments startName lastName limit where
  refused := by
    rw [hstart, hlast]
    refine ⟨?_, fun hcause => absurd hcause hloadable⟩
    rintro ⟨e, he⟩
    rw [he] at hload
    cases hload
  loaded := fun _ => ⟨start, last, hstart, hlast, hload⟩

theorem Shows.loadsMemory (h : c.Shows e file) (hread : c.isRead = true)
    (startName lastName : String) (limit : Option Int) :
    c.LoadsMemory file c.segments startName lastName limit := by
  cases hstart : c.symbol startName with
  | none =>
      have hmissing : c.symbol startName = none ∨ c.symbol lastName = none := .inl hstart
      obtain ⟨e, he⟩ := load_of_missing (.orNone .integer limit) hread hmissing
      exact loadsMemory_of_error he (by rw [hstart]; exact .noStart _)
  | some start =>
      cases hlast : c.symbol lastName with
      | none =>
          have hmissing : c.symbol startName = none ∨ c.symbol lastName = none := .inr hlast
          obtain ⟨e, he⟩ := load_of_missing (.orNone .integer limit) hread hmissing
          exact loadsMemory_of_error he (by rw [hlast]; exact .noLast _)
      | some last =>
          have hload := loadWithin_of_named (reservedBy c.segments) (.orNone .integer limit) hread
            (named_of_symbol hstart) (named_of_symbol hlast)
          have hreserved : c.reserved = reservedBy c.segments := rfl
          rw [← hreserved, ← load_eq_loadWithin, hreserved] at hload
          by_cases hinverted : last.stop ≤ start.value
          · rw [if_pos hinverted] at hload
            exact loadsMemory_of_error hload
              (by rw [hstart, hlast]; exact .inverted start last hinverted)
          rw [if_neg hinverted] at hload
          by_cases hmemory : reservedBy c.segments < last.stop - start.value
          · rw [if_pos hmemory] at hload
            exact loadsMemory_of_error hload
              (by rw [hstart, hlast]; exact .overMemory start last hmemory)
          rw [if_neg hmemory] at hload
          rcases checkLimit_orNone (last.stop - start.value) limit with
            ⟨bound, hlimit, hover, hcheck⟩ | ⟨hwithin, hcheck⟩
          · rw [hcheck] at hload
            exact loadsMemory_of_error hload
              (by rw [hstart, hlast]; exact .overLimit start last bound hlimit hover)
          · rw [hcheck, Decode.ok_bind] at hload
            exact loadsMemory_of_materializes hstart hlast (hload ▸ h.materializes start last)
              (not_unloadable hinverted hmemory hwithin)

/-- A file that is read once loads, between any two symbols and under any limit, the memory that
its segments make up, as far as a buffer can hold it. -/
theorem read_loadsMemory {data : ByteArray} (hread : read { data } = (true, c)) :
    ∃ sections segments, Declares data.data.toList sections segments ∧
      ∀ startName lastName limit,
        c.LoadsMemory data.data.toList segments startName lastName limit := by
  rcases read_cases { data } with ⟨helf, c', hread', hgains⟩ | ⟨_, c', hread'⟩
  · rw [hread] at hread'
    cases hread'
    have hshows := hgains.shows
    have hsegments : c.segments = c.segmentTable := hgains.segments
    refine ⟨c.sectionTable, c.segmentTable, hshows.declares rfl helf.headerSize_le, ?_⟩
    intro startName lastName limit
    rw [← hsegments]
    exact hshows.loadsMemory hgains.isRead startName lastName limit
  · rw [hread] at hread'
    cases hread'

/-- A file with the symbols `a` and `b` at two addresses, whose segments hold parts of its last
bytes. -/
def segmentsFile (e : Encoding) (segments : List SegmentHeader) (first last : Nat)
    (content : List UInt8) : ByteArray :=
  let headers := e.place 52 64 + 2 * e.sectionSize
  let names := headers + segments.length * e.segmentSize
  let symbols := names + 5
  let behind := symbols + 2 * e.symbolSize
  let header : FileHeader :=
    { identification := List.replicate 10 0, kind := 3, machine := 40, version := 1, entry := 0
      segmentTable := headers, sectionTable := e.place 52 64, flags := 0
      headerSize := e.place 52 64, segmentSize := e.segmentSize, segmentCount := segments.length
      sectionSize := e.sectionSize, sectionCount := 2, sectionNames := 0 }
  let table : SectionHeader :=
    { kind := symbolTable, offset := symbols, size := 2 * e.symbolSize, link := 1
      entrySize := e.symbolSize, name := 0, flags := 0, address := 0, info := 0, alignment := 0 }
  let strings : SectionHeader :=
    { table with kind := 3, offset := names, size := 5, link := 0, entrySize := 0 }
  let placed : List SegmentHeader :=
    segments.map fun s => { s with offset := behind + s.offset }
  ⟨(header.encode e ++ table.encode e ++ strings.encode e ++
    placed.flatMap (SegmentHeader.encode e) ++
    [0, 97, 0, 98, 0] ++ (⟨1, first, 0, 0, 0, 0⟩ : SymbolEntry).encode e ++
    (⟨3, last, 0, 0, 0, 0⟩ : SymbolEntry).encode e ++ content).toArray⟩

/-- The second segment of this file lies over the first one and goes on behind the end of the
file. Both have the same size. -/
def overlappingSegments (size : Nat) : ByteArray :=
  let first : SegmentHeader :=
    { kind := loadable, offset := 0, address := 4096, fileSize := size, memorySize := size
      flags := 0, physical := 0, alignment := 0 }
  segmentsFile ⟨false, false⟩ [first, { first with offset := 4, address := 4098 }] 4096 4104
    [1, 2, 3, 4, 5, 6, 7, 8]

/-- The one segment of this file reserves all memory that there can be, and the span between the
two symbols is longer than any buffer. -/
def vastSegment : ByteArray :=
  segmentsFile ⟨true, false⟩
    [{ kind := loadable, offset := 0, address := 0, fileSize := 0
       memorySize := 0xFFFFFFFFFFFFFFFF, flags := 0, physical := 0, alignment := 0 }]
    0 positionLimit []

/-- The file is read, and nothing speaks against the span between the two symbols. -/
theorem vastSegment_read :
    ∃ c, read { data := vastSegment } = (true, c) ∧ c.isRead = true ∧
      c.symbol "a" = some ⟨"a", 0, 0⟩ ∧ c.symbol "b" = some ⟨"b", positionLimit, 0⟩ ∧
      c.reserved = 0xFFFFFFFFFFFFFFFF ∧ c.hasRoom (positionLimit + 4) = false := by
  have helf : (read { data := vastSegment }).1 = true := by decide +kernel
  refine ⟨(read { data := vastSegment }).2, by rw [← helf], ?_⟩
  decide +kernel

theorem read_loadsMemory_segments :
    (∃ c, read { data := overlappingSegments 8 } = (true, c) ∧
      (c.load (.text "a") (.text "b") .none).toOption =
        some (⟨#[1, 2, 5, 6, 7, 8, 7, 8, 0, 0, 0, 0]⟩, 4096) ∧
      ∃ sections segments, Declares (overlappingSegments 8).data.toList sections segments ∧
        ∀ startName lastName limit,
          c.LoadsMemory (overlappingSegments 8).data.toList segments startName lastName limit) ∧
    ∃ c, read { data := vastSegment } = (true, c) ∧
      c.load (.text "a") (.text "b") .none = .error (.broken .bufferBeyond) ∧
      ∃ sections segments, Declares vastSegment.data.toList sections segments ∧
        ∀ startName lastName limit,
          c.LoadsMemory vastSegment.data.toList segments startName lastName limit := by
  constructor
  · have helf : (read { data := overlappingSegments 8 }).1 = true := by decide +kernel
    have hread : read { data := overlappingSegments 8 } =
        (true, (read { data := overlappingSegments 8 }).2) := by
      rw [← helf]
    refine ⟨_, hread, ?_, read_loadsMemory hread⟩
    decide +kernel
  · obtain ⟨c, hread, hisRead, hstart, hlast, hreserved, hroom⟩ := vastSegment_read
    have hload := loadWithin_of_named c.reserved .none hisRead (named_of_symbol hstart)
      (named_of_symbol hlast)
    have hspan : (⟨"b", positionLimit, 0⟩ : Symbol).stop - (⟨"a", 0, 0⟩ : Symbol).value =
        positionLimit + 4 := rfl
    have hfull : c.makeRoom (positionLimit + 4) = .error (.broken .bufferBeyond) := by
      rw [makeRoom, hroom]
      rfl
    refine ⟨c, hread, ?_, read_loadsMemory hread⟩
    rw [load_eq_loadWithin, hload, hspan, hreserved, if_neg (by decide), if_neg (by decide), hfull]
    rfl

end Container

end OatImage.Elf
