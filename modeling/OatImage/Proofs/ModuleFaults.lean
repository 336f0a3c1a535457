import OatImage.Dex.Session
import OatImage.Proofs.Reads

/-!
# Failures of a module

Whatever is asked of an opened module, a failure is a decoding failure of the module layer.
An opened module reads through a window that is cut out of the buffer, so the window is
backed, and every read of it fails in its check or not at all. Signatures are checked
before the version is read as text, and a string is read only up to a zero byte that was
found, so the reads that no failure of the module layer covers do not fail.
-/
namespace OatImage.Dex

open Decode Fault

variable {r : Region} {m : Module}

/-- A failure before a module is opened is one of the module layer at an address. -/
theorem checkSignature_failsOnly (r : Region) (address : Int) :
    FailsOnly (fun e => e.IsModule ∧ e.IsLocal) (checkSignature r address) := by
  have hread := (r.readBytes_failsOnly address 8 "DEX magic").mono fun _ => IsLocal.isDecode
  refine hread.asModule.bind fun _ _ => ?_
  exact FailsOnly.ite
    (fun _ => FailsOnly.error ⟨inModule_isModule _ _, inModule_isLocal _ _⟩) fun _ =>
    FailsOnly.ite
      (fun _ => FailsOnly.error ⟨inModule_isModule _ _, inModule_isLocal _ _⟩) fun _ =>
      FailsOnly.pure _

theorem classDefCount_failsOnly (hr : r.Backed) (address : Int) :
    FailsOnly (fun e => e.IsModule ∧ e.IsLocal) (classDefCount r address) := by
  have hword := (hr.word_failsOnly 4 (address + 96) "DEX class_defs_size").mono
    fun _ => IsLocal.isDecode
  exact (checkSignature_failsOnly r address).bind fun _ _ => hword.asModule

/-- The bytes that a passed check of the signature has seen. -/
theorem signature_of_check {address : Int} (h : checkSignature r address = .ok ()) :
    r.contains address 8 = true ∧
      (r.slice (r.offset address) 8).take 4 = magicBytes ∧
      (r.slice (r.offset address) 8).drop 4 ∈ supportedVersions := by
  by_cases hc : r.contains address 8 = true
  · refine ⟨hc, ?_⟩
    unfold checkSignature at h
    rw [Region.readBytes_of_contains hc] at h
    simp only [Decode.asModule, bind, Except.bind] at h
    by_cases hm : (r.slice (r.offset address) (8 : Int).toNat).take 4 = magicBytes
    · rw [if_neg (not_not_intro hm)] at h
      by_cases hv : (r.slice (r.offset address) (8 : Int).toNat).drop 4 ∈ supportedVersions
      · exact ⟨hm, hv⟩
      · rw [if_pos hv] at h
        cases h
    · rw [if_pos hm] at h
      cases h
  · unfold checkSignature Region.readBytes at h
    rw [Region.check_of_not_contains hc] at h
    cases h

/-- The version bytes are ASCII for every version that the check of the signature lets pass. -/
theorem decode?_of_supported {version : List UInt8} (h : version ∈ supportedVersions) :
    ∃ text, Ascii.decode? (version.take 3) = some text := by
  simp only [supportedVersions, List.mem_cons, List.not_mem_nil, or_false] at h
  rcases h with rfl | rfl | rfl | rfl | rfl <;> exact ⟨_, rfl⟩

namespace Module

theorem ofWindow_failsOnly {w : Region} {address : Int} (hw : w.Backed)
    (hb : w.begin = address) (hs : address + headerSize ≤ w.stop)
    (hv : (w.contents.drop 4).take 4 ∈ supportedVersions) :
    FailsOnly IsModule (ofWindow w address) := by
  have hc : w.contains (address + 4) 3 = true := by
    rw [Region.contains_iff]
    simp only [headerSize] at hs
    omega
  have ho : w.offset (address + 4) = 4 := by
    simp only [Region.offset]
    omega
  obtain ⟨text, ht⟩ := decode?_of_supported hv
  rw [List.take_take] at ht
  unfold ofWindow
  rw [Region.readBytes_of_contains hc, ho, Region.slice_eq]
  refine FailsOnly.bind (FailsOnly.ok _) fun bytes hbytes => ?_
  obtain rfl := Except.ok.inj hbytes
  rw [show (3 : Int).toNat = min 3 4 from rfl, ht]
  dsimp only
  rcases hw.u32s_cases (address + 32) 3 "DEX header" with h | h
  · rw [h]
    refine FailsOnly.ite (fun _ => FailsOnly.error (inModule_isModule _ _)) fun _ => ?_
    rcases hw.u32s_cases (address + 56) 12 "DEX header" with h | h
    · rw [h]
      exact FailsOnly.pure _
    · rw [h]
      exact FailsOnly.error (inImage_isLocal _ _).isDecode.asModule.1
  · rw [h]
    exact FailsOnly.error (inImage_isLocal _ _).isDecode.asModule.1

theorem load_failsOnly (hr : r.Backed) (address : Int) :
    FailsOnly IsModule (load r address) := by
  unfold load
  refine ((checkSignature_failsOnly r address).mono fun _ h => h.1).bind fun _ hsig => ?_
  have hword := (hr.word_failsOnly 4 (address + 32) "DEX file_size").mono
    fun _ => IsLocal.isDecode
  refine (hword.asModule.mono fun _ h => h.1).bind fun declared _ => ?_
  obtain ⟨_, _, hv⟩ := signature_of_check hsig
  dsimp only
  by_cases h : r.contains address (max declared headerSize : Nat) = true
  · obtain ⟨w, hw, hb, hs, hback, hshow⟩ :=
      hr.window_of_contains "DEX module" h
    rw [hw]
    refine ofWindow_failsOnly hback hb ?_ ?_
    · omega
    · -- the window begins with the bytes whose version was checked
      have hmin : min 4 ((max declared headerSize : Nat) - 4) = 4 := by
        simp only [headerSize]
        omega
      rw [Region.slice_eq, List.drop_take] at hv
      rw [hshow, Int.toNat_natCast, List.drop_take, List.take_take, hmin]
      exact hv
  · rw [Region.window_of_not_contains h]
    exact FailsOnly.error (inImage_isLocal _ _).isDecode.asModule.1

/-- An opened module reads through the window that it was opened with. -/
theorem window_of_ofWindow {w : Region} {address : Int} (h : ofWindow w address = .ok m) :
    m.window = w ∧ m.address = address := by
  unfold ofWindow at h
  obtain ⟨versionBytes, _, h⟩ := bind_eq_ok.mp h
  cases hv : Ascii.decode? versionBytes with
  | none =>
      rw [hv] at h
      cases h
  | some version =>
      rw [hv] at h
      obtain ⟨first, _, h⟩ := bind_eq_ok.mp h
      split at h
      · rename_i tag _
        by_cases ht : tag ≠ endianTag
        · rw [if_pos ht] at h
          cases h
        · rw [if_neg ht] at h
          obtain ⟨second, _, h⟩ := bind_eq_ok.mp h
          split at h
          · cases h
            exact ⟨rfl, rfl⟩
          · cases h
      · cases h

/-- The bytes of a module lie at an address, and declare their number. -/
def LiesAt (r : Region) (address : Int) (bytes : List UInt8) : Prop :=
  (checkSignature r address).toOption = some () ∧
    (r.u32 (address + 32) "DEX file_size").toOption = some bytes.length ∧
      headerSize ≤ bytes.length ∧ r.contains address bytes.length = true ∧
        (r.contents.drop (r.offset address)).take bytes.length = bytes

instance {address : Int} {bytes : List UInt8} : Decidable (LiesAt r address bytes) :=
  inferInstanceAs (Decidable (_ ∧ _))

/-- A module is opened on its own bytes, wherever they lie. -/
theorem LiesAt.load_eq {address : Int} {bytes : List UInt8} (h : LiesAt r address bytes) :
    load r address = ofWindow (.listed address bytes) address := by
  obtain ⟨hcheck, hsize, hlong, hin, hbytes⟩ := h
  rw [load, eq_ok_of_toOption hcheck, eq_ok_of_toOption hsize]
  show Decode.asModule (r.window address (max bytes.length headerSize : Nat) _) >>= _ = _
  rw [Nat.max_eq_left hlong, Region.window_eq_listed _ hin, Int.toNat_natCast, hbytes]
  rfl

/-- What holds of such a module is found by running its header. -/
theorem LiesAt.exists_load {address : Int} {bytes : List UInt8} {p : Module → Bool}
    (hlies : LiesAt r address bytes)
    (h : (ofWindow (.listed address bytes) address).toOption.any p = true) :
    ∃ m, load r address = .ok m ∧ m.window.contents = bytes ∧ p m = true := by
  obtain ⟨m, hm, hp⟩ := exists_of_any h
  refine ⟨m, hlies.load_eq.trans hm, ?_, hp⟩
  rw [(window_of_ofWindow hm).1]
  rfl

/-- The window of an opened module: it starts at the module, is backed and holds the header. -/
theorem window_of_load (hr : r.Backed) {address : Int} (h : load r address = .ok m) :
    m.window.Backed ∧ m.window.begin = address ∧ m.address = address ∧
      address + headerSize ≤ m.window.stop := by
  unfold load at h
  obtain ⟨_, _, h⟩ := bind_eq_ok.mp h
  obtain ⟨declared, _, h⟩ := bind_eq_ok.mp h
  obtain ⟨w, hw, h⟩ := bind_eq_ok.mp h
  rw [asModule_eq_ok] at hw
  obtain ⟨hmw, hma⟩ := window_of_ofWindow h
  by_cases hc : r.contains address (max declared headerSize : Nat) = true
  · obtain ⟨w', hw', hb, hs, hback, _⟩ := hr.window_of_contains "DEX module" hc
    rw [hw'] at hw
    cases hw
    rw [hmw]
    exact ⟨hback, hb, hma, by omega⟩
  · rw [Region.window_of_not_contains hc] at hw
    cases hw

/-- The window is cut to the bytes that there are, so it is backed whatever it was cut out of. -/
theorem backed_of_load {address : Int} (h : load r address = .ok m) :
    m.window.Backed ∧ m.window.begin = m.address ∧ m.address = address := by
  unfold load at h
  obtain ⟨_, _, h⟩ := bind_eq_ok.mp h
  obtain ⟨declared, _, h⟩ := bind_eq_ok.mp h
  obtain ⟨w, hw, h⟩ := bind_eq_ok.mp h
  rw [asModule_eq_ok] at hw
  obtain ⟨hmw, hma⟩ := window_of_ofWindow h
  obtain ⟨_, _, hw⟩ := bind_eq_ok.mp hw
  cases hw
  rw [hmw]
  refine ⟨?_, hma.symm, hma⟩
  simp only [Region.Backed]
  omega

section
variable (hm : m.window.Backed)
include hm

theorem u16_failsOnly (address : Int) (what : String) :
    FailsOnly IsModule (m.u16 address what) :=
  ((hm.word_failsOnly 2 address what).mono fun _ => IsLocal.isDecode).asModule.mono
    fun _ h => h.1

theorem u32_failsOnly (address : Int) (what : String) :
    FailsOnly IsModule (m.u32 address what) :=
  ((hm.word_failsOnly 4 address what).mono fun _ => IsLocal.isDecode).asModule.mono
    fun _ h => h.1

theorem uleb128_failsOnly (address : Int) : FailsOnly IsModule (m.uleb128 address) :=
  ((hm.uleb128_failsOnly address "class_data ULEB128").mono
    fun _ => IsLocal.isDecode).asModule.mono fun _ h => h.1

/-- The bytes of a string are read only where a zero byte was found behind them, so their
read, whose failure would be one of the image layer, does not fail. -/
theorem stringData_failsOnly (offset : Nat) : FailsOnly IsModule (m.stringData offset) := by
  refine (uleb128_failsOnly hm _).bind fun ⟨_, start⟩ _ => ?_
  dsimp only
  by_cases hz : m.window.findByte start 0 m.window.stop < 0
  · rw [if_pos hz]
    exact FailsOnly.error (inModule_isModule _ _)
  · rw [if_neg hz]
    have hfound := Region.findByte_range (Int.not_lt.mp hz)
    have hc : m.window.contains start
        (m.window.findByte start 0 m.window.stop - start) = true := by
      rw [Region.contains_iff]
      omega
    rw [Region.readBytes_of_contains hc]
    refine FailsOnly.bind (FailsOnly.ok _) fun bytes _ => ?_
    cases ModifiedUtf8.decode bytes with
    | ok text => exact FailsOnly.pure _
    | error flaw => exact FailsOnly.error (inModule_isModule _ _)

theorem string_failsOnly (index : Int) : FailsOnly IsModule (m.string index) :=
  FailsOnly.ite (fun _ => FailsOnly.error (ofIndex_isModule _ _)) fun _ =>
    (u32_failsOnly hm _ _).bind fun _ _ => stringData_failsOnly hm _

theorem typeName_failsOnly (index : Int) : FailsOnly IsModule (m.typeName index) :=
  FailsOnly.ite (fun _ => FailsOnly.error (ofIndex_isModule _ _)) fun _ => u32_failsOnly hm _ _

theorem typeDescriptor_failsOnly (index : Int) : FailsOnly IsModule (m.typeDescriptor index) :=
  (typeName_failsOnly hm index).bind fun _ _ => string_failsOnly hm _

theorem methodId_failsOnly (index : Int) : FailsOnly IsModule (m.methodId index) :=
  FailsOnly.ite (fun _ => FailsOnly.error (ofIndex_isModule _ _)) fun _ =>
    (u16_failsOnly hm _ _).bind fun _ _ => (u16_failsOnly hm _ _).bind fun _ _ =>
      (u32_failsOnly hm _ _).bind fun _ _ => FailsOnly.pure _

theorem methodName_failsOnly (index : Int) : FailsOnly IsModule (m.methodName index) :=
  (methodId_failsOnly hm index).bind fun _ _ => string_failsOnly hm _

theorem prototype_failsOnly (index : Nat) : FailsOnly IsModule (m.prototype index) := by
  refine FailsOnly.ite (fun _ => FailsOnly.error (ofIndex_isModule _ _)) fun _ => ?_
  unfold u32s
  rcases hm.u32s_cases (m.addressOf (m.prototypes.offset + index * 12)) 3 "proto_id" with h | h
  · rw [h]
    exact FailsOnly.pure _
  · rw [h]
    exact FailsOnly.error (inImage_isLocal _ _).isDecode.asModule.1

theorem typeList_failsOnly (count : Nat) (address : Int) :
    FailsOnly IsModule (m.typeList count address) := by
  induction count generalizing address with
  | zero => exact FailsOnly.ok _
  | succ count ih =>
      exact (u16_failsOnly hm _ _).bind fun _ _ => (typeDescriptor_failsOnly hm _).bind fun _ _ =>
        (ih (address + 2)).bind fun _ _ => FailsOnly.pure _

theorem parameters_failsOnly (p : Prototype) : FailsOnly IsModule (m.parameters p) :=
  FailsOnly.ite (fun _ => FailsOnly.ok _) fun _ =>
    (u32_failsOnly hm _ _).bind fun _ _ => typeList_failsOnly hm _ _

theorem methodSignature_failsOnly (index : Int) :
    FailsOnly IsModule (m.methodSignature index) :=
  (methodId_failsOnly hm index).bind fun _ _ => (prototype_failsOnly hm _).bind fun _ _ =>
    (parameters_failsOnly hm _).bind fun _ _ => (typeDescriptor_failsOnly hm _).bind fun _ _ =>
      FailsOnly.pure _

theorem classDef_failsOnly (index : Int) : FailsOnly IsModule (m.classDef index) := by
  refine FailsOnly.ite (fun _ => FailsOnly.error (ofIndex_isModule _ _)) fun _ => ?_
  unfold u32s
  rcases hm.u32s_cases (m.classDefAddress index) 8 "class_def" with h | h
  · rw [h]
    exact (typeDescriptor_failsOnly hm _).bind fun _ _ => FailsOnly.pure _
  · rw [h]
    exact FailsOnly.error (inImage_isLocal _ _).isDecode.asModule.1

theorem skipNumbers_failsOnly (count : Nat) (cursor : Int) :
    FailsOnly IsModule (m.skipNumbers count cursor) := by
  induction count generalizing cursor with
  | zero => exact FailsOnly.ok _
  | succ count ih => exact (uleb128_failsOnly hm _).bind fun _ _ => ih _

theorem methodList_failsOnly (isDirect : Bool) (count position index : Nat) (cursor : Int) :
    FailsOnly IsModule (m.methodList isDirect count position index cursor) := by
  induction count generalizing position index cursor with
  | zero => exact FailsOnly.ok _
  | succ count ih =>
      exact (uleb128_failsOnly hm _).bind fun _ _ => (uleb128_failsOnly hm _).bind fun _ _ =>
        (uleb128_failsOnly hm _).bind fun _ _ => (ih _ _ _).bind fun _ _ => FailsOnly.pure _

theorem readClassData_failsOnly (cursor : Int) : FailsOnly IsModule (m.readClassData cursor) :=
  (uleb128_failsOnly hm _).bind fun _ _ => (uleb128_failsOnly hm _).bind fun _ _ =>
    (uleb128_failsOnly hm _).bind fun _ _ => (uleb128_failsOnly hm _).bind fun _ _ =>
      (skipNumbers_failsOnly hm _ _).bind fun _ _ =>
        (methodList_failsOnly hm _ _ _ _ _).bind fun _ _ =>
          (methodList_failsOnly hm _ _ _ _ _).bind fun _ _ => FailsOnly.pure _

theorem classData_failsOnly (c : ClassDef) : FailsOnly IsModule (m.classData c) :=
  FailsOnly.ite (fun _ => FailsOnly.ok _) fun _ => readClassData_failsOnly hm _

theorem descriptorsFrom_failsOnly (count index : Nat) :
    FailsOnly IsModule (m.descriptorsFrom count index) := by
  induction count generalizing index with
  | zero => exact FailsOnly.ok _
  | succ count ih =>
      exact (u32_failsOnly hm _ _).bind fun _ _ => (typeDescriptor_failsOnly hm _).bind fun _ _ =>
        (ih (index + 1)).bind fun _ _ => FailsOnly.pure _

theorem locate_failsOnly (descriptor : Text) : FailsOnly IsModule (m.locate descriptor) := by
  refine (descriptorsFrom_failsOnly hm _ _).bind fun all _ => ?_
  cases all.idxOf? descriptor with
  | none => exact FailsOnly.pure _
  | some index => exact (classDef_failsOnly hm _).bind fun _ _ => FailsOnly.pure _

theorem search_failsOnly (name signature : Text) (ms : List Method) :
    FailsOnly IsModule (m.search name signature ms) := by
  induction ms with
  | nil => exact FailsOnly.ok _
  | cons first rest ih =>
      refine (methodName_failsOnly hm _).bind fun _ _ => FailsOnly.ite (fun _ => ?_) fun _ => ih
      exact (methodSignature_failsOnly hm _).bind fun _ _ =>
        FailsOnly.ite (fun _ => FailsOnly.pure _) fun _ => ih

theorem findDirect_failsOnly (c : ClassDef) (name signature : Text) :
    FailsOnly IsModule (m.findDirect c name signature) :=
  (classData_failsOnly hm c).bind fun _ _ => search_failsOnly hm _ _ _

theorem findVirtual_failsOnly (c : ClassDef) (name signature : Text) :
    FailsOnly IsModule (m.findVirtual c name signature) :=
  (classData_failsOnly hm c).bind fun _ _ => search_failsOnly hm _ _ _

theorem ofObject_failsOnly (made : List ClassDef) (place : Nat) {f : ClassData → Decode Answer}
    (hf : ∀ data, FailsOnly IsModule (f data)) : FailsOnly IsModule (m.ofObject made place f) := by
  unfold ofObject
  cases made[place]? with
  | none => exact FailsOnly.ok _
  | some c => exact (classData_failsOnly hm c).bind fun data _ => hf data

/-- Every question about a module is answered, or fails as one about the module. -/
theorem answer_failsOnly (made : List ClassDef) (q : Question) :
    FailsOnly IsModule (m.answer made q) := by
  cases q with
  | locate descriptor => exact (locate_failsOnly hm _).bind fun _ _ => FailsOnly.pure _
  | classDef index => exact (classDef_failsOnly hm _).bind fun _ _ => FailsOnly.pure _
  | string index => exact (string_failsOnly hm _).bind fun _ _ => FailsOnly.pure _
  | typeDescriptor index => exact (typeDescriptor_failsOnly hm _).bind fun _ _ => FailsOnly.pure _
  | methodName index => exact (methodName_failsOnly hm _).bind fun _ _ => FailsOnly.pure _
  | methodSignature index =>
      exact (methodSignature_failsOnly hm _).bind fun _ _ => FailsOnly.pure _
  | directMethods place => exact ofObject_failsOnly hm _ _ fun _ => FailsOnly.pure _
  | virtualMethods place => exact ofObject_failsOnly hm _ _ fun _ => FailsOnly.pure _
  | findDirect place name signature =>
      exact ofObject_failsOnly hm _ _ fun _ =>
        (search_failsOnly hm _ _ _).bind fun _ _ => FailsOnly.pure _
  | findVirtual place name signature =>
      exact ofObject_failsOnly hm _ _ fun _ =>
        (search_failsOnly hm _ _ _).bind fun _ _ => FailsOnly.pure _

end

end Module

namespace Session

variable {α β : Type} {P : Fault → Prop}

/-- Whatever was kept before, every failure of the step has the property. -/
def FailsOnly (P : Fault → Prop) (x : Session α) : Prop :=
  ∀ kept, Decode.FailsOnly P (x.run.run kept).1

theorem FailsOnly.pure (a : α) : FailsOnly P (Pure.pure a : Session α) :=
  fun _ => Decode.FailsOnly.ok a

theorem FailsOnly.read {d : Decode α} (h : Decode.FailsOnly P d) : FailsOnly P (read d) :=
  fun _ => h

theorem FailsOnly.kept : FailsOnly P (get : Session Kept) :=
  fun _ => Decode.FailsOnly.ok _

theorem FailsOnly.change (f : Kept → Kept) : FailsOnly P (modify f : Session PUnit) :=
  fun _ => Decode.FailsOnly.ok _

theorem FailsOnly.bind {x : Session α} {f : α → Session β} (hx : FailsOnly P x)
    (hf : ∀ a, FailsOnly P (f a)) : FailsOnly P (x >>= f) := by
  intro kept
  have h := hx kept
  rw [ExceptT.run_bind, StateT.run_bind]
  revert h
  rcases x.run.run kept with ⟨outcome, after⟩
  intro h
  cases outcome with
  | ok a => exact hf a after
  | error e => exact Decode.FailsOnly.error (h e rfl)

theorem FailsOnly.ite {c : Prop} [Decidable c] {x y : Session α} (hx : c → FailsOnly P x)
    (hy : ¬ c → FailsOnly P y) : FailsOnly P (if c then x else y) := by
  by_cases hc : c
  · rw [if_pos hc]
    exact hx hc
  · rw [if_neg hc]
    exact hy hc

/-- What was read is kept; keeping it does not fail. -/
theorem FailsOnly.keep {x : Session α} (hx : FailsOnly P x) (f : α → Kept → Kept) :
    FailsOnly P (do
      let a ← x
      modify (f a)
      Pure.pure a) :=
  hx.bind fun _ => (FailsOnly.change _).bind fun _ => FailsOnly.pure _

variable (hm : m.window.Backed)
include hm

theorem string_failsOnly (index : Int) : FailsOnly IsModule (string m index) := by
  refine FailsOnly.kept.bind fun kept => ?_
  cases List.lookup index kept.strings with
  | some text => exact FailsOnly.pure text
  | none => exact (FailsOnly.read (Module.string_failsOnly hm index)).keep _

theorem typeDescriptor_failsOnly (index : Int) : FailsOnly IsModule (typeDescriptor m index) :=
  (FailsOnly.read (Module.typeName_failsOnly hm index)).bind fun _ => string_failsOnly hm _

theorem methodName_failsOnly (index : Int) : FailsOnly IsModule (methodName m index) :=
  (FailsOnly.read (Module.methodId_failsOnly hm index)).bind fun _ => string_failsOnly hm _

theorem typeList_failsOnly (count : Nat) (address : Int) :
    FailsOnly IsModule (typeList m count address) := by
  induction count generalizing address with
  | zero => exact FailsOnly.pure _
  | succ count ih =>
      exact (FailsOnly.read (Module.u16_failsOnly hm _ _)).bind fun _ =>
        (typeDescriptor_failsOnly hm _).bind fun _ => (ih _).bind fun _ => FailsOnly.pure _

theorem parameters_failsOnly (p : Module.Prototype) : FailsOnly IsModule (parameters m p) :=
  FailsOnly.ite (fun _ => FailsOnly.pure _) fun _ =>
    (FailsOnly.read (Module.u32_failsOnly hm _ _)).bind fun _ => typeList_failsOnly hm _ _

theorem methodSignature_failsOnly (index : Int) :
    FailsOnly IsModule (methodSignature m index) :=
  (FailsOnly.read (Module.methodId_failsOnly hm _)).bind fun _ =>
    (FailsOnly.read (Module.prototype_failsOnly hm _)).bind fun _ =>
      (parameters_failsOnly hm _).bind fun _ =>
        (typeDescriptor_failsOnly hm _).bind fun _ => FailsOnly.pure _

theorem classDef_failsOnly (index : Int) : FailsOnly IsModule (classDef m index) := by
  refine FailsOnly.ite
    (fun _ => FailsOnly.read (Decode.FailsOnly.error (ofIndex_isModule _ _))) fun _ => ?_
  unfold Module.u32s
  rcases hm.u32s_cases (m.classDefAddress index) 8 "class_def" with h | h
  · rw [h]
    exact (typeDescriptor_failsOnly hm _).bind fun _ => FailsOnly.pure _
  · rw [h]
    exact FailsOnly.read (Decode.FailsOnly.error (inImage_isLocal _ _).isDecode.asModule.1)

theorem classData_failsOnly (place : Nat) (object : ClassObject) :
    FailsOnly IsModule (classData m place object) := by
  unfold classData
  cases object.data with
  | some data => exact FailsOnly.pure data
  | none => exact (FailsOnly.read (Module.classData_failsOnly hm object.definition)).keep _

theorem descriptorsFrom_failsOnly (count index : Nat) :
    FailsOnly IsModule (descriptorsFrom m count index) := by
  induction count generalizing index with
  | zero => exact FailsOnly.pure _
  | succ count ih =>
      exact (FailsOnly.read (Module.u32_failsOnly hm _ _)).bind fun _ =>
        (typeDescriptor_failsOnly hm _).bind fun _ => (ih _).bind fun _ => FailsOnly.pure _

theorem descriptors_failsOnly : FailsOnly IsModule (descriptors m) := by
  refine FailsOnly.kept.bind fun kept => ?_
  cases kept.descriptors with
  | some all => exact FailsOnly.pure all
  | none => exact (descriptorsFrom_failsOnly hm _ _).keep _

theorem locate_failsOnly (descriptor : Text) : FailsOnly IsModule (locate m descriptor) := by
  refine (descriptors_failsOnly hm).bind fun all => ?_
  cases all.idxOf? descriptor with
  | none => exact FailsOnly.pure _
  | some index => exact (classDef_failsOnly hm _).bind fun _ => FailsOnly.pure _

theorem search_failsOnly (name signature : Text) (ms : List Method) :
    FailsOnly IsModule (search m name signature ms) := by
  induction ms with
  | nil => exact FailsOnly.pure _
  | cons first rest ih =>
      refine (methodName_failsOnly hm _).bind fun _ => FailsOnly.ite (fun _ => ?_) fun _ => ih
      exact (methodSignature_failsOnly hm _).bind fun _ =>
        FailsOnly.ite (fun _ => FailsOnly.pure _) fun _ => ih

theorem ofObject_failsOnly (place : Nat) {f : ClassData → Session Answer}
    (hf : ∀ data, FailsOnly IsModule (f data)) : FailsOnly IsModule (ofObject m place f) := by
  refine FailsOnly.kept.bind fun kept => ?_
  cases kept.objects[place]? with
  | none => exact FailsOnly.pure _
  | some object => exact (classData_failsOnly hm place object).bind hf

/-- The same in a session, whatever it has kept. -/
theorem answer_failsOnly (q : Question) : FailsOnly IsModule (answer m q) := by
  cases q with
  | locate descriptor =>
      refine (locate_failsOnly hm _).bind fun located => ?_
      cases located with
      | none => exact FailsOnly.pure _
      | some c => exact (FailsOnly.change _).bind fun _ => FailsOnly.pure _
  | classDef index =>
      exact (classDef_failsOnly hm _).bind fun _ =>
        (FailsOnly.change _).bind fun _ => FailsOnly.pure _
  | string index => exact (string_failsOnly hm _).bind fun _ => FailsOnly.pure _
  | typeDescriptor index => exact (typeDescriptor_failsOnly hm _).bind fun _ => FailsOnly.pure _
  | methodName index => exact (methodName_failsOnly hm _).bind fun _ => FailsOnly.pure _
  | methodSignature index => exact (methodSignature_failsOnly hm _).bind fun _ => FailsOnly.pure _
  | directMethods place => exact ofObject_failsOnly hm place fun _ => FailsOnly.pure _
  | virtualMethods place => exact ofObject_failsOnly hm place fun _ => FailsOnly.pure _
  | findDirect place name signature =>
      exact ofObject_failsOnly hm place fun _ =>
        (search_failsOnly hm _ _ _).bind fun _ => FailsOnly.pure _
  | findVirtual place name signature =>
      exact ofObject_failsOnly hm place fun _ =>
        (search_failsOnly hm _ _ _).bind fun _ => FailsOnly.pure _

/-- So is every question of a session, asked in any order after any others. -/
theorem answers_failOnly (kept : Kept) (qs : List Question) :
    ∀ d ∈ answers m kept qs, Decode.FailsOnly IsModule d := by
  induction qs generalizing kept with
  | nil =>
      intro d hd
      cases hd
  | cons q rest ih =>
      intro d hd
      rcases List.mem_cons.mp hd with rfl | hd
      · exact answer_failsOnly hm q kept
      · exact ih _ d hd

end Session

end OatImage.Dex
