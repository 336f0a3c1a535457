import OatImage.Dex.Lookup
import OatImage.Proofs.ModuleFaults
import OatImage.Proofs.MovedReads

/-!
# Moved modules

A module reads through its own window and counts offsets from its own start, so a module that
was moved together with its window answers the same to everything: names, signatures, class
definitions and methods hold no address. Only the address of the failing byte moves.

An answer on the moved module tracks the answer on the module whether or not bytes may be cut
off elsewhere in the image, since the window of an opened module is whole.
-/
namespace OatImage.Dex

open Decode

/-- The same module in an image that lies elsewhere. -/
def Module.moveBy (d : Int) (m : Module) : Module :=
  { m with window := m.window.moveBy d, address := m.address + d }

theorem Module.moveBy_zero (m : Module) : m.moveBy 0 = m := by
  simp only [moveBy, Region.moveBy_zero, Int.add_zero]

variable {d : Int} {cut : Prop}

/-! Signatures are looked for in the image, before there is a window. -/

theorem checkSignature_tracks {r r' : Region} (h : r.Extends d cut r') {address address' : Int}
    (ha : address' = address + d) :
    Tracks d cut (fun u => u) (checkSignature r address) (checkSignature r' address') := by
  subst ha
  refine (h.readBytes rfl rfl "DEX magic").asModule.bind fun head _ => ?_
  refine Tracks.ite Iff.rfl (fun _ => Tracks.error (.inModule .badDexMagic address)) fun _ => ?_
  exact Tracks.ite Iff.rfl (fun _ => Tracks.error (.inModule (.unsupportedDexVersion _) address))
    fun _ => Tracks.pure ()

theorem classDefCount_tracks {r r' : Region} (h : r.Extends d cut r') {address address' : Int}
    (ha : address' = address + d) :
    Tracks d cut (fun n => n) (classDefCount r address) (classDefCount r' address') :=
  (checkSignature_tracks h ha).bind fun _ _ => (h.word 4 (by omega) _).asModule

namespace Module

/-- The header is read through the window, wherever the window lies. -/
theorem ofWindow_tracks {w : Region} (hw : w.Backed) (address : Int) :
    Tracks d cut (moveBy d) (ofWindow w address) (ofWindow (w.moveBy d) (address + d)) := by
  have h : w.Extends d cut (w.moveBy d) := hw.extends_moveBy
  refine (h.readBytes (by omega) rfl "DEX version").bind fun bytes _ => ?_
  cases Ascii.decode? bytes with
  | none => exact Tracks.error (.broken .versionText)
  | some version =>
      refine (h.u32s (by omega) 3 "DEX header").asModule.bind fun words _ => ?_
      split
      · rename_i tag _
        refine Tracks.ite Iff.rfl
          (fun _ => Tracks.error (.inModule (.unsupportedEndianTag tag) address)) fun _ => ?_
        refine (h.u32s (by omega) 12 "DEX header").asModule.bind fun tables _ => ?_
        split
        · exact Tracks.pure _
        · exact Tracks.error (.broken .unpack)
      · exact Tracks.error (.broken .unpack)

/-- Opening a module checks its range in the image, and only there bytes may be missing. -/
theorem load_tracks {r r' : Region} (h : r.Extends d cut r') {address address' : Int}
    (ha : address' = address + d) :
    Tracks d cut (moveBy d) (load r address) (load r' address') := by
  subst ha
  refine (checkSignature_tracks h rfl).bind fun _ _ => ?_
  refine (h.word 4 (by omega) "DEX file_size").asModule.bind fun declared _ => ?_
  refine (h.window rfl _ "DEX module").asModule.bind fun w hw => ?_
  rw [asModule_eq_ok] at hw
  by_cases hc : r.contains address (max declared headerSize : Nat) = true
  · obtain ⟨w', hw', _, _, hback, _⟩ := h.backed.window_of_contains "DEX module" hc
    rw [hw'] at hw
    cases hw
    exact ofWindow_tracks hback address
  · rw [Region.window_of_not_contains hc] at hw
    cases hw

/-- A module of an image lies in the image. -/
theorem unsigned_of_load {r : Region} {m : Module} (hr : r.Backed) (hd : r.Unsigned d)
    {address : Int} (h : load r address = .ok m) : m.window.Unsigned d := by
  obtain ⟨_, hbegin, _⟩ := window_of_load hr h
  unfold load at h
  obtain ⟨_, hsig, _⟩ := bind_eq_ok.mp h
  have hin := Region.contains_iff.mp (signature_of_check hsig).1
  unfold Region.Unsigned at hd ⊢
  omega

section
variable {m : Module} (hm : m.window.Backed)

theorem addressOf_moveBy (d : Int) (m : Module) (offset : Int) :
    (m.moveBy d).addressOf offset = m.addressOf offset + d :=
  Int.add_right_comm m.address d offset

theorem addressOf_add_moveBy (d : Int) (m : Module) (offset k : Int) :
    (m.moveBy d).addressOf offset + k = m.addressOf offset + k + d := by
  rw [addressOf_moveBy, Int.add_right_comm]

include hm

theorem u16_tracks {address address' : Int} (ha : address' = address + d) (what : String) :
    Tracks d cut (fun n => n) (m.u16 address what) ((m.moveBy d).u16 address' what) :=
  (hm.extends_moveBy.word 2 ha what).asModule

theorem u32_tracks {address address' : Int} (ha : address' = address + d) (what : String) :
    Tracks d cut (fun n => n) (m.u32 address what) ((m.moveBy d).u32 address' what) :=
  (hm.extends_moveBy.word 4 ha what).asModule

theorem u32s_tracks {address address' : Int} (ha : address' = address + d) (count : Int)
    (what : String) :
    Tracks d cut (fun ns => ns) (m.u32s address count what)
      ((m.moveBy d).u32s address' count what) :=
  (hm.extends_moveBy.u32s ha count what).asModule

theorem uleb128_tracks {address address' : Int} (ha : address' = address + d) :
    Tracks d cut (Prod.map id (· + d)) (m.uleb128 address) ((m.moveBy d).uleb128 address') :=
  (hm.extends_moveBy.uleb128 ha "class_data ULEB128").asModule

theorem typeName_tracks (index : Int) :
    Tracks d cut (fun n => n) (m.typeName index) ((m.moveBy d).typeName index) := by
  refine Tracks.ite Iff.rfl (fun _ => Tracks.error (.ofIndex .noType index)) fun _ => ?_
  exact u32_tracks hm (addressOf_moveBy d m _) "type_id"

theorem methodId_tracks (index : Int) :
    Tracks d cut (fun x => x) (m.methodId index) ((m.moveBy d).methodId index) := by
  refine Tracks.ite Iff.rfl (fun _ => Tracks.error (.ofIndex .noMethod index)) fun _ => ?_
  refine (u16_tracks hm (addressOf_moveBy d m _) "method_id").bind fun _ _ => ?_
  refine (u16_tracks hm (addressOf_add_moveBy d m _ 2) "method_id").bind fun prototype _ => ?_
  exact (u32_tracks hm (addressOf_add_moveBy d m _ 4) "method_id").bind fun name _ =>
    Tracks.pure (MethodId.mk prototype name)

theorem prototype_tracks (index : Nat) :
    Tracks d cut (fun p => p) (m.prototype index) ((m.moveBy d).prototype index) := by
  refine Tracks.ite Iff.rfl (fun _ => Tracks.error (.ofIndex .noPrototype index)) fun _ => ?_
  refine (u32s_tracks hm (addressOf_moveBy d m _) 3 "proto_id").bind fun words _ => ?_
  split
  · exact Tracks.pure _
  · exact Tracks.error (.broken .unpack)

/-! Class data holds addresses only while it is read. -/

theorem skipNumbers_tracks (count : Nat) {cursor cursor' : Int} (hc : cursor' = cursor + d) :
    Tracks d cut (· + d) (m.skipNumbers count cursor)
      ((m.moveBy d).skipNumbers count cursor') := by
  induction count generalizing cursor cursor' with
  | zero =>
      subst hc
      exact Tracks.ok cursor
  | succ count ih => exact (uleb128_tracks hm hc).bind fun (_, next) _ => ih rfl

theorem methodList_tracks (isDirect : Bool) (count position index : Nat) {cursor cursor' : Int}
    (hc : cursor' = cursor + d) :
    Tracks d cut (Prod.map id (· + d)) (m.methodList isDirect count position index cursor)
      ((m.moveBy d).methodList isDirect count position index cursor') := by
  induction count generalizing position index cursor cursor' with
  | zero =>
      subst hc
      exact Tracks.ok ([], cursor)
  | succ count ih =>
      refine (uleb128_tracks hm hc).bind fun (difference, _) _ => ?_
      refine (uleb128_tracks hm rfl).bind fun (accessFlags, _) _ => ?_
      refine (uleb128_tracks hm rfl).bind fun (codeOffset, _) _ => ?_
      exact (ih _ _ rfl).bind fun (rest, next) _ => Tracks.pure (_ :: rest, next)

theorem readClassData_tracks {cursor cursor' : Int} (hc : cursor' = cursor + d) :
    Tracks d cut (fun data => data) (m.readClassData cursor)
      ((m.moveBy d).readClassData cursor') := by
  refine (uleb128_tracks hm hc).bind fun (staticFields, _) _ => ?_
  refine (uleb128_tracks hm rfl).bind fun (instanceFields, _) _ => ?_
  refine (uleb128_tracks hm rfl).bind fun (directCount, _) _ => ?_
  refine (uleb128_tracks hm rfl).bind fun (virtualCount, _) _ => ?_
  refine (skipNumbers_tracks hm _ rfl).bind fun _ _ => ?_
  refine (methodList_tracks hm true _ _ _ rfl).bind fun (direct, _) _ => ?_
  exact (methodList_tracks hm false _ _ _ rfl).bind fun (virtual, _) _ =>
    Tracks.pure (ClassData.mk direct virtual)

theorem classData_tracks (c : ClassDef) :
    Tracks d cut (fun data => data) (m.classData c) ((m.moveBy d).classData c) := by
  refine Tracks.ite Iff.rfl (fun _ => Tracks.ok _) fun _ => ?_
  exact readClassData_tracks hm (addressOf_moveBy d m _)

end

/-! Strings end at a zero byte that is searched for. -/

/-- The bytes of a string start at an address, behind the number that is its length. -/
def StartsString (m : Module) (index start : Int) : Prop :=
  ∃ offset length, m.strings.has index = true ∧
    m.u32 (m.addressOf (m.strings.offset + index * 4)) "string_id" = .ok offset ∧
    m.uleb128 (m.addressOf offset) = .ok (length, start)

section
variable {m : Module} (hm : m.window.Backed)
include hm

theorem stringData_tracks (offset : Nat)
    (hsign : ∀ length start, m.uleb128 (m.addressOf offset) = .ok (length, start) →
      m.window.Alike d 0 start m.window.stop) :
    Tracks d cut (fun text => text) (m.stringData offset) ((m.moveBy d).stringData offset) := by
  have hr : m.window.Extends d cut (m.moveBy d).window := hm.extends_moveBy
  refine (uleb128_tracks hm (addressOf_moveBy d m _)).bind fun (length, start) hstart => ?_
  have hzero := hr.findByte (hsign length start hstart) (rfl : start + d = start + d) rfl
    (Int.le_refl m.window.stop)
  refine Tracks.ite ?_ (fun _ => Tracks.error (.inModule .unterminatedString start))
    fun hfound => ?_
  · show (m.moveBy d).window.findByte (start + d) 0 (m.window.stop + d) < 0 ↔ _
    omega
  · refine (hr.readBytes rfl ?_ "read").bind fun bytes _ => ?_
    · show (m.moveBy d).window.findByte (start + d) 0 (m.window.stop + d) - (start + d) = _
      omega
    · cases ModifiedUtf8.decode bytes with
      | ok text => exact Tracks.pure text
      | error flaw => exact Tracks.error (.inModule (.malformedString flaw) start)

theorem string_tracks (index : Int)
    (hsign : ∀ start, m.StartsString index start → m.window.Alike d 0 start m.window.stop) :
    Tracks d cut (fun text => text) (m.string index) ((m.moveBy d).string index) := by
  refine Tracks.ite Iff.rfl (fun _ => Tracks.error (.ofIndex .noString index)) fun hindex => ?_
  refine (u32_tracks hm (addressOf_moveBy d m _) "string_id").bind fun offset hoffset => ?_
  refine stringData_tracks hm offset fun length start hstart =>
    hsign start ⟨offset, length, ?_, hoffset, hstart⟩
  rwa [Bool.not_eq_true', Bool.not_eq_false] at hindex

end

/-! Every name is a string. -/

section
variable {m : Module} (hm : m.window.Backed) (hd : m.window.Unsigned d)
include hm hd

theorem typeDescriptor_tracks (index : Int) :
    Tracks d cut (fun text => text) (m.typeDescriptor index)
      ((m.moveBy d).typeDescriptor index) :=
  (typeName_tracks hm index).bind fun name _ => string_tracks hm name fun _ _ => hd.alike

theorem methodName_tracks (index : Int) :
    Tracks d cut (fun text => text) (m.methodName index) ((m.moveBy d).methodName index) :=
  (methodId_tracks hm index).bind fun x _ => string_tracks hm x.name fun _ _ => hd.alike

theorem typeList_tracks (count : Nat) {address address' : Int} (ha : address' = address + d) :
    Tracks d cut (fun texts => texts) (m.typeList count address)
      ((m.moveBy d).typeList count address') := by
  induction count generalizing address address' with
  | zero => exact Tracks.ok []
  | succ count ih =>
      refine (u16_tracks hm ha "type_list").bind fun index _ => ?_
      refine (typeDescriptor_tracks hm hd index).bind fun first _ => ?_
      exact (ih (by omega)).bind fun rest _ => Tracks.pure (first :: rest)

theorem parameters_tracks (p : Prototype) :
    Tracks d cut (fun texts => texts) (m.parameters p) ((m.moveBy d).parameters p) := by
  refine Tracks.ite Iff.rfl (fun _ => Tracks.ok []) fun _ => ?_
  refine (u32_tracks hm (addressOf_moveBy d m _) "type_list").bind fun count _ => ?_
  exact typeList_tracks hm hd count (addressOf_add_moveBy d m _ 4)

theorem methodSignature_tracks (index : Int) :
    Tracks d cut (fun text => text) (m.methodSignature index)
      ((m.moveBy d).methodSignature index) := by
  refine (methodId_tracks hm index).bind fun x _ => ?_
  refine (prototype_tracks hm x.prototype).bind fun p _ => ?_
  refine (parameters_tracks hm hd p).bind fun parameters _ => ?_
  exact (typeDescriptor_tracks hm hd p.result).bind fun result _ =>
    Tracks.pure (signatureText parameters result)

theorem classDef_tracks (index : Int) :
    Tracks d cut (fun c => c) (m.classDef index) ((m.moveBy d).classDef index) := by
  refine Tracks.ite Iff.rfl (fun _ => Tracks.error (.ofIndex (.noClassDef _) index)) fun _ => ?_
  refine (u32s_tracks hm (addressOf_moveBy d m _) 8 "class_def").bind fun words _ => ?_
  split
  · exact (typeDescriptor_tracks hm hd _).bind fun descriptor _ => Tracks.pure _
  · exact Tracks.error (.broken .unpack)

theorem descriptorsFrom_tracks (count index : Nat) :
    Tracks d cut (fun texts => texts) (m.descriptorsFrom count index)
      ((m.moveBy d).descriptorsFrom count index) := by
  induction count generalizing index with
  | zero => exact Tracks.ok []
  | succ count ih =>
      refine (u32_tracks hm (addressOf_moveBy d m _) "class_def").bind fun typeIndex _ => ?_
      refine (typeDescriptor_tracks hm hd typeIndex).bind fun first _ => ?_
      exact (ih (index + 1)).bind fun rest _ => Tracks.pure (first :: rest)

theorem locate_tracks (descriptor : Text) :
    Tracks d cut (fun c => c) (m.locate descriptor) ((m.moveBy d).locate descriptor) := by
  refine (descriptorsFrom_tracks hm hd m.classDefs.count 0).bind fun all _ => ?_
  cases all.idxOf? descriptor with
  | none => exact Tracks.pure none
  | some index => exact (classDef_tracks hm hd index).bind fun c _ => Tracks.pure (some c)

theorem search_tracks (name signature : Text) (methods : List Method) :
    Tracks d cut (fun x => x) (m.search name signature methods)
      ((m.moveBy d).search name signature methods) := by
  induction methods with
  | nil => exact Tracks.ok none
  | cons first rest ih =>
      refine (methodName_tracks hm hd first.index).bind fun itsName _ => ?_
      refine Tracks.ite Iff.rfl (fun _ => ?_) fun _ => ih
      refine (methodSignature_tracks hm hd first.index).bind fun itsSignature _ => ?_
      exact Tracks.ite Iff.rfl (fun _ => Tracks.pure (some first)) fun _ => ih

theorem findDirect_tracks (c : ClassDef) (name signature : Text) :
    Tracks d cut (fun x => x) (m.findDirect c name signature)
      ((m.moveBy d).findDirect c name signature) :=
  (classData_tracks hm c).bind fun data _ => search_tracks hm hd name signature data.direct

theorem findVirtual_tracks (c : ClassDef) (name signature : Text) :
    Tracks d cut (fun x => x) (m.findVirtual c name signature)
      ((m.moveBy d).findVirtual c name signature) :=
  (classData_tracks hm c).bind fun data _ => search_tracks hm hd name signature data.virtual

end

end Module

end OatImage.Dex
