import OatImage.Dex.Lookup
import OatImage.Proofs.ClassDataReading
import OatImage.Proofs.Layout
import OatImage.Proofs.ModuleHeads
import OatImage.Proofs.ModuleFaults
import OatImage.Proofs.StringUnits

/-!
# Reading a module

A module that is opened over bytes laid out as a module answers with the content: each entry
of a table is what stands there, each list of methods is the listed one, and a search finds
the first class or method that the content has.
-/
namespace OatImage.Dex

open Decode Layout

theorem Table.has_of_lt {t : Table} {index : Nat} (h : index < t.count) : t.has index = true := by
  simp only [Table.has, Bool.and_eq_true, decide_eq_true_eq]
  omega

/-- The module reads these bytes and has these tables. -/
structure Reads (m : Module) (bytes : List UInt8) (t : Tables) : Prop where
  backed : m.window.Backed
  contents : m.window.contents = bytes
  begins : m.window.begin = m.address
  /-- No address of the module is that of a search which finds nothing. -/
  nonneg : 0 ≤ m.address
  strings : m.strings = t.strings
  types : m.types = t.types
  prototypes : m.prototypes = t.prototypes
  methods : m.methods = t.methods
  classDefs : m.classDefs = t.classDefs

namespace Reads

variable {m : Module} {bytes : List UInt8} {t : Tables} {o : Nat} {address : Int}
  {what : String}

theorem u32 (h : Reads m bytes t) {n : Nat} (hn : WordAt bytes o n)
    (ha : address = m.address + o) : m.u32 address what = .ok n := by
  have hat : At m.window.contents o (toBytesLE 4 n) := h.contents ▸ hn.2
  rw [Module.u32, h.backed.u32_of_at hat hn.1 (h.begins ▸ ha)]
  rfl

theorem u16 (h : Reads m bytes t) {n : Nat} (hn : HalfAt bytes o n)
    (ha : address = m.address + o) : m.u16 address what = .ok n := by
  have hat : At m.window.contents o (toBytesLE 2 n) := h.contents ▸ hn.2
  rw [Module.u16, Region.u16, h.backed.word_of_at hat hn.1 (h.begins ▸ ha)]
  rfl

theorem u32s (h : Reads m bytes t) {ns : List Nat} (hns : WordsAt bytes o ns)
    (ha : address = m.address + o) {count : Int} (hcount : count = ns.length) :
    m.u32s address count what = .ok ns := by
  have hat : At m.window.contents o (wordBytes ns) := h.contents ▸ hns.2
  rw [Module.u32s, h.backed.u32s_of_at hat hns.1 (h.begins ▸ ha) hcount]
  rfl

/-! Strings, types and methods. -/

theorem stringData (h : Reads m bytes t) {offset length : Nat} {form : List UInt8} {text : Text}
    (hform : IsForm length form) (hshort : form.length ≤ 5) (hjoined : text.IsJoined)
    (hat : At bytes offset (form ++ (text.modifiedUtf8 ++ [0]))) :
    m.stringData offset = .ok text := by
  rw [← h.contents] at hat
  have hread := Module.stringData_of_at h.backed h.begins hform hshort hat
  have hnonneg := h.nonneg
  rw [hread, if_neg (by omega)]
  exact congrArg Except.ok (Utf16.join_points hjoined)

theorem string (h : Reads m bytes t) {index : Nat} {text : Text}
    (hs : StringAt bytes t index text) : m.string index = .ok text := by
  obtain ⟨hindex, offset, length, form, hoffset, hform, hshort, hjoined, hat⟩ := hs
  have hhas : m.strings.has index = true := Table.has_of_lt (h.strings ▸ hindex)
  have hword : m.u32 (m.addressOf (m.strings.offset + (index : Int) * 4)) "string_id" =
      .ok offset := h.u32 hoffset (by rw [h.strings, Module.addressOf]; omega)
  rw [Module.string, hhas, hword]
  exact h.stringData hform hshort hjoined hat

theorem typeDescriptor (h : Reads m bytes t) {index : Nat} {descriptor : Text}
    (htype : TypeAt bytes t index descriptor) : m.typeDescriptor index = .ok descriptor := by
  obtain ⟨hindex, name, hname, hs⟩ := htype
  have hhas : m.types.has index = true := Table.has_of_lt (h.types ▸ hindex)
  have hword : m.u32 (m.addressOf (m.types.offset + (index : Int) * 4)) "type_id" = .ok name :=
    h.u32 hname (by rw [h.types, Module.addressOf]; omega)
  rw [Module.typeDescriptor, Module.typeName, hhas]
  simp only [Bool.not_true, Bool.false_eq_true, if_false, hword, ok_bind]
  exact h.string hs

theorem typeList (h : Reads m bytes t) {descriptors : List Text} {offset : Nat}
    (htypes : ∀ (k : Nat) (descriptor : Text), descriptors[k]? = some descriptor →
      ∃ type, HalfAt bytes (offset + 2 * k) type ∧ TypeAt bytes t type descriptor)
    (ha : address = m.address + offset) :
    m.typeList descriptors.length address = .ok descriptors := by
  induction descriptors generalizing offset address with
  | nil => rfl
  | cons descriptor rest ih =>
      obtain ⟨type, hhalf, htype⟩ := htypes 0 descriptor rfl
      have hword : m.u16 address "type_list" = .ok type := h.u16 hhalf (by omega)
      have hrest : m.typeList rest.length (address + 2) = .ok rest := by
        refine ih (fun k d hk => ?_) (show address + 2 = m.address + ((offset + 2 : Nat) : Int) by
          omega)
        obtain ⟨type, hhalf, htype⟩ := htypes (k + 1) d hk
        exact ⟨type, by rwa [show offset + 2 + 2 * k = offset + 2 * (k + 1) by omega], htype⟩
      rw [List.length_cons, Module.typeList]
      simp only [hword, h.typeDescriptor htype, hrest, ok_bind]
      rfl

theorem parameters (h : Reads m bytes t) {offset result : Nat} {descriptors : List Text}
    (hps : ParametersAt bytes t offset descriptors) :
    m.parameters ⟨result, offset⟩ = .ok descriptors := by
  unfold Module.parameters
  rcases hps with ⟨rfl, rfl⟩ | ⟨hne, hcount, htypes⟩
  · rfl
  · have hword : m.u32 (m.addressOf offset) "type_list" = .ok descriptors.length :=
      h.u32 hcount rfl
    rw [if_neg hne]
    simp only [hword, ok_bind]
    refine h.typeList htypes ?_
    show m.addressOf offset + 4 = _
    rw [Module.addressOf]
    omega

theorem methodId (h : Reads m bytes t) {index : Nat} {x : Content.Method}
    (hx : MethodAt bytes t index x) : ∃ prototype name, m.methodId index = .ok ⟨prototype, name⟩ ∧
      StringAt bytes t name x.name ∧ PrototypeAt bytes t prototype x.parameters x.result := by
  obtain ⟨hindex, type, prototype, name, htype, hprototype, hname, hs, hp⟩ := hx
  refine ⟨prototype, name, ?_, hs, hp⟩
  have hhas : m.methods.has index = true := Table.has_of_lt (h.methods ▸ hindex)
  have haddress : m.addressOf (m.methods.offset + (index : Int) * 8) =
      m.address + ((t.methods.offset + 8 * index : Nat) : Int) := by
    rw [h.methods, Module.addressOf]
    omega
  have htype : m.u16 (m.addressOf (m.methods.offset + (index : Int) * 8)) "method_id" =
      .ok type := h.u16 htype haddress
  have hprototype : m.u16 (m.addressOf (m.methods.offset + (index : Int) * 8) + 2) "method_id" =
      .ok prototype := h.u16 hprototype (by omega)
  have hname : m.u32 (m.addressOf (m.methods.offset + (index : Int) * 8) + 4) "method_id" =
      .ok name := h.u32 hname (by omega)
  rw [Module.methodId, hhas]
  simp only [Bool.not_true, Bool.false_eq_true, if_false, htype, hprototype, hname, ok_bind]
  rfl

theorem prototype (h : Reads m bytes t) {index : Nat} {descriptors : List Text} {result : Text}
    (hp : PrototypeAt bytes t index descriptors result) :
    ∃ type offset, m.prototype index = .ok ⟨type, offset⟩ ∧ TypeAt bytes t type result ∧
      ParametersAt bytes t offset descriptors := by
  obtain ⟨hindex, shorty, type, offset, hwords, htype, hps⟩ := hp
  refine ⟨type, offset, ?_, htype, hps⟩
  have hhas : m.prototypes.has index = true := Table.has_of_lt (h.prototypes ▸ hindex)
  have hread : m.u32s (m.addressOf (m.prototypes.offset + (index : Int) * 12)) 3 "proto_id" =
      .ok [shorty, type, offset] :=
    h.u32s hwords (by rw [h.prototypes, Module.addressOf]; omega) rfl
  rw [Module.prototype, hhas]
  simp only [Bool.not_true, Bool.false_eq_true, if_false, hread, ok_bind]
  rfl

/-- The method with an index has the name and the signature of the content. -/
theorem method (h : Reads m bytes t) {index : Nat} {x : Content.Method}
    (hx : MethodAt bytes t index x) :
    m.methodName index = .ok x.name ∧ m.methodSignature index = .ok x.signature := by
  obtain ⟨prototype, name, hid, hs, hp⟩ := h.methodId hx
  obtain ⟨type, offset, hproto, htype, hps⟩ := h.prototype hp
  constructor
  · rw [Module.methodName, hid]
    exact h.string hs
  · rw [Module.methodSignature, hid]
    simp only [ok_bind, hproto, h.parameters hps, h.typeDescriptor htype]
    rfl

end Reads

/-- The methods of a module are those of the content, at positions from one on. -/
inductive Lists (m : Module) (isDirect : Bool) :
    (position : Nat) → List Method → List Content.Method → Prop
  | nil {position : Nat} : Lists m isDirect position [] []
  | cons {position : Nat} {x : Method} {c : Content.Method} {xs : List Method}
      {cs : List Content.Method} (hposition : x.position = position)
      (hdirect : x.isDirect = isDirect) (hname : m.methodName x.index = .ok c.name)
      (hsignature : m.methodSignature x.index = .ok c.signature)
      (hflags : x.accessFlags = c.flags)
      (hrest : Lists m isDirect (position + 1) xs cs) :
      Lists m isDirect position (x :: xs) (c :: cs)

/-- A search through a list finds the first method with the name and the signature. -/
theorem Lists.search {m : Module} {isDirect : Bool} {position : Nat} {xs : List Method}
    {cs : List Content.Method} (h : Lists m isDirect position xs cs) (name signature : Text) :
    ∃ found, m.search name signature xs = .ok found ∧
      (found = none → ∀ c ∈ cs, ¬ (c.name = name ∧ c.signature = signature)) ∧
      (∀ x, found = some x → ∃ k c, cs[k]? = some c ∧ c.name = name ∧
        c.signature = signature ∧ x.position = position + k ∧ x.isDirect = isDirect ∧
        x.accessFlags = c.flags) := by
  induction h with
  | nil => exact ⟨none, rfl, fun _ c hc => (nomatch hc), fun x hx => (nomatch hx)⟩
  | @cons position x c xs cs hposition hdirect hname hsignature hflags hrest ih =>
      have hstep : m.search name signature (x :: xs) =
          if c.name = name then
            if c.signature = signature then .ok (some x) else m.search name signature xs
          else m.search name signature xs := by
        rw [Module.search, hname]
        show (if c.name = name then (do
            let itsSignature ← m.methodSignature x.index
            if itsSignature = signature then pure (some x) else m.search name signature xs)
          else m.search name signature xs) = _
        rw [hsignature]
        rfl
      obtain ⟨found, hfound, hnone, hsome⟩ := ih
      by_cases hmatch : c.name = name ∧ c.signature = signature
      · refine ⟨some x, ?_, fun hx => (nomatch hx), fun y hy => ?_⟩
        · rw [hstep, if_pos hmatch.1, if_pos hmatch.2]
        · cases hy
          exact ⟨0, c, rfl, hmatch.1, hmatch.2, hposition, hdirect, hflags⟩
      · refine ⟨found, ?_, fun hx d hd => ?_, fun y hy => ?_⟩
        · rw [hstep, hfound]
          by_cases hname : c.name = name
          · rw [if_pos hname, if_neg fun hsig => hmatch ⟨hname, hsig⟩]
          · rw [if_neg hname]
        · rcases List.mem_cons.mp hd with rfl | hd
          · exact hmatch
          · exact hnone hx d hd
        · obtain ⟨k, d, hk, hrest⟩ := hsome y hy
          exact ⟨k + 1, d, hk, hrest.1, hrest.2.1, by omega, hrest.2.2.2⟩

namespace Reads

variable {m : Module} {bytes : List UInt8} {t : Tables} {o : Nat} {address : Int}

/-- The listed methods have the names and the signatures of the content. -/
theorem lists_methodsOf (h : Reads m bytes t) (isDirect : Bool) {index : Nat} {xs : List Listed}
    {cs : List Content.Method} (hcs : MethodsAt bytes t index xs cs) (position : Nat) :
    Lists m isDirect position (methodsOf isDirect position index xs) cs := by
  induction hcs generalizing position with
  | nil => exact .nil
  | cons hx hflags _ ih =>
      have hmethod := h.method hx
      exact .cons rfl rfl hmethod.1 hmethod.2 hflags (ih (position + 1))

/-- The class data of a definition lists the methods of the class, the virtual ones at the
positions behind the direct ones. -/
theorem classData (h : Reads m bytes t) {c : Content.Class} {definition : ClassDef}
    (hdata : ClassDataAt bytes t definition.dataOffset c) :
    ∃ data, m.classData definition = .ok data ∧ Lists m true 0 data.direct c.direct ∧
      Lists m false c.direct.length data.virtual c.virtual := by
  unfold Module.classData
  rcases hdata with ⟨hzero, hmethods⟩ | ⟨hne, statics, instances, fields, direct, virtual, forms,
    hfields, hforms, hat, hdirect, hvirtual⟩
  · obtain ⟨hdirect, hvirtual⟩ := List.append_eq_nil_iff.mp hmethods
    rw [if_pos hzero, hdirect, hvirtual]
    exact ⟨_, rfl, .nil, .nil⟩
  · have hnumbers : NumbersAt m.window.contents definition.dataOffset statics instances fields
        direct virtual := ⟨hfields, forms, hforms, h.contents ▸ hat⟩
    rw [if_neg hne, Module.readClassData_of_numbersAt h.backed h.begins hnumbers]
    exact ⟨_, rfl, h.lists_methodsOf true hdirect 0,
      hdirect.length_eq ▸ h.lists_methodsOf false hvirtual direct.length⟩

/-! Class definitions. -/

theorem classDefAddress (h : Reads m bytes t) (index : Nat) :
    m.classDefAddress index = m.address + ((t.classDefs.offset + 32 * index : Nat) : Int) := by
  rw [Module.classDefAddress, Module.addressOf, h.classDefs]
  omega

theorem classDef (h : Reads m bytes t) {index : Nat} {c : Content.Class}
    (hindex : index < t.classDefs.count) (hc : ClassDefAt bytes t index c) :
    ∃ definition, m.classDef index = .ok definition ∧ definition.index = index ∧
      ClassDataAt bytes t definition.dataOffset c := by
  obtain ⟨type, flags, superclass, interfaces, source, annotations, data, values, hwords, htype,
    hdata⟩ := hc
  refine ⟨⟨index, type, c.descriptor, flags, superclass, data⟩, ?_, rfl, hdata⟩
  have hhas : m.classDefs.has index = true := Table.has_of_lt (h.classDefs ▸ hindex)
  have hread : m.u32s (m.classDefAddress index) 8 "class_def" =
      .ok [type, flags, superclass, interfaces, source, annotations, data, values] :=
    h.u32s hwords (h.classDefAddress index) rfl
  rw [Module.classDef, hhas]
  simp only [Bool.not_true, Bool.false_eq_true, if_false, hread, ok_bind, h.typeDescriptor htype]
  rfl

theorem descriptorsFrom (h : Reads m bytes t) {classes : List Content.Class} {index : Nat}
    (hcs : ∀ (k : Nat) (c : Content.Class), classes[k]? = some c →
      ClassDefAt bytes t (index + k) c) :
    m.descriptorsFrom classes.length index = .ok (classes.map Content.Class.descriptor) := by
  induction classes generalizing index with
  | nil => rfl
  | cons c rest ih =>
      obtain ⟨type, _, _, _, _, _, _, _, hwords, htype, _⟩ := hcs 0 c rfl
      have hword : m.u32 (m.classDefAddress index) "class_def" = .ok type :=
        h.u32 (hwords.word rfl : WordAt bytes (_ + 4 * 0) type) (h.classDefAddress index)
      have hrest : m.descriptorsFrom rest.length (index + 1) =
          .ok (rest.map Content.Class.descriptor) := ih fun k d hk => by
        rw [Nat.add_assoc, Nat.add_comm 1 k]
        exact hcs (k + 1) d hk
      rw [List.length_cons, Module.descriptorsFrom]
      simp only [hword, h.typeDescriptor htype, hrest, ok_bind]
      rfl

/-- A class is located if the module defines one with the descriptor. -/
theorem locate (h : Reads m bytes t) {classes : List Content.Class}
    (hmodule : IsModule bytes classes t) (descriptor : Text) :
    ∃ found, m.locate descriptor = .ok found ∧
      (found = none → ∀ c ∈ classes, c.descriptor ≠ descriptor) ∧
      ∀ definition, found = some definition → ∃ (index : Nat) (c : Content.Class),
        classes[index]? = some c ∧ c.descriptor = descriptor ∧ definition.index = index ∧
        ClassDataAt bytes t definition.dataOffset c := by
  have hall : m.descriptors = .ok (classes.map Content.Class.descriptor) := by
    rw [Module.descriptors, h.classDefs, hmodule.count]
    refine h.descriptorsFrom fun k c hk => ?_
    rw [Nat.zero_add]
    exact hmodule.classDefs k c hk
  rw [Module.locate, hall]
  cases hfound : (classes.map Content.Class.descriptor).idxOf? descriptor with
  | none =>
      refine ⟨none, by simp only [ok_bind, hfound]; rfl, fun _ c hc heq => ?_,
        fun _ hd => (nomatch hd)⟩
      exact List.idxOf?_eq_none_iff.mp hfound (heq ▸ List.mem_map_of_mem hc)
  | some index =>
      obtain ⟨hlt, heq, _⟩ := List.idxOf?_eq_some_iff.mp hfound
      rw [List.length_map] at hlt
      rw [List.getElem_map] at heq
      have hget : classes[index]? = some classes[index] := List.getElem?_eq_getElem hlt
      obtain ⟨definition, hdef, hindex, hdata⟩ :=
        h.classDef (hmodule.count ▸ hlt) (hmodule.classDefs index _ hget)
      refine ⟨some definition, ?_, fun hd => (nomatch hd), fun x hx => ?_⟩
      · simp only [ok_bind, hfound, hdef]
        rfl
      · cases hx
        exact ⟨index, _, hget, heq, hindex, hdata⟩

end Reads

/-! Opening a module. -/

section
variable {r : Region} {address : Int} {o : Nat} {part : List UInt8}
  {classes : List Content.Class} {t : Tables}

theorem checkSignature_of_isModule (hr : r.Backed) (hat : At r.contents o part)
    (hmodule : IsModule part classes t) (ha : address = r.begin + o) :
    checkSignature r address = .ok () := by
  obtain ⟨version, hversion, hhead⟩ := hmodule.signature
  exact (checkSignature_eq_ok_iff hr).mpr
    ⟨version, hversion, hr.bears_of_at (hat.trans hhead) (by omega)⟩

/-- The number of class definitions is known before the module is opened. -/
theorem classDefCount_of_isModule (hr : r.Backed) (hat : At r.contents o part)
    (hmodule : IsModule part classes t) (ha : address = r.begin + o) :
    classDefCount r address = .ok classes.length := by
  have hsignature := checkSignature_of_isModule hr hat hmodule ha
  have hword : WordAt part (56 + 4 * 10) t.classDefs.count := hmodule.tables.word rfl
  rw [hmodule.count] at hword
  exact (classDefCount_eq_ok_iff hr).mpr ⟨(checkSignature_eq_ok_iff hr).mp hsignature, hword.1,
    hr.bears_of_at (hat.trans hword.2) (by omega)⟩

theorem load_of_isModule (hr : r.Backed) (hat : At r.contents o part)
    (hmodule : IsModule part classes t) (ha : address = r.begin + o) (hnonneg : 0 ≤ r.begin) :
    ∃ m, Module.load r address = .ok m ∧ Reads m part t := by
  obtain ⟨headerSize', hsizes⟩ := hmodule.sizes
  have hlength : WordAt part (32 + 4 * 0) part.length := hsizes.word rfl
  have hdeclared : r.u32 (address + 32) "DEX file_size" = .ok part.length :=
    hr.u32_of_at (hat.trans hlength.2) hlength.1 (by omega)
  have hsize : max part.length headerSize = part.length := Nat.max_eq_left hmodule.size
  -- the window of the module holds its bytes and no others
  obtain ⟨w, hw, hbegin, _, hbacked, hcontents⟩ :=
    hr.window_of_contains "DEX module" (hr.contains_of_at hat ha)
  rw [Int.toNat_natCast, ← Region.slice_eq, Region.slice_of_at hat ha] at hcontents
  have hin : ∀ {o : Nat} {x : List UInt8}, At part o x → At w.contents o x := fun h =>
    hcontents ▸ h
  obtain ⟨version, hversion, hhead⟩ := hmodule.signature
  have hthree : (version.take 3).length = 3 :=
    (by decide : ∀ version ∈ supportedVersions, (version.take 3).length = 3) version hversion
  obtain ⟨text, htext⟩ : ∃ text, Ascii.decode? (version.take 3) = some text :=
    Option.isSome_iff_exists.mp ((by decide : ∀ version ∈ supportedVersions,
      (Ascii.decode? (version.take 3)).isSome = true) version hversion)
  have hat₄ : At part 4 (version.take 3) := by
    have hbehind : At part (0 + magicBytes.length) version := (At.append.mp hhead).2
    rw [← List.take_append_drop 3 version] at hbehind
    exact (At.append.mp hbehind).1
  have hread : w.readBytes (address + 4) 3 "DEX version" = .ok (version.take 3) :=
    hbacked.readBytes_of_at (hin hat₄) (by omega) (by rw [hthree]; rfl)
  have hsizes : w.u32s (address + 32) 3 "DEX header" = .ok [part.length, headerSize', endianTag] :=
    hbacked.u32s_of_at (hin hsizes.2) hsizes.1 (by omega) rfl
  have htables : w.u32s (address + 56) 12 "DEX header" = .ok t.words :=
    hbacked.u32s_of_at (hin hmodule.tables.2) hmodule.tables.1 (by omega) rfl
  refine ⟨⟨w, address, text, part.length, t.strings, t.types, t.prototypes, t.methods,
    t.classDefs⟩, ?_, ⟨hbacked, hcontents, hbegin, show 0 ≤ address by omega, rfl, rfl, rfl, rfl,
    rfl⟩⟩
  rw [Module.load, checkSignature_of_isModule hr hat hmodule ha, hdeclared]
  simp only [asModule_ok, ok_bind, hsize, hw]
  rw [Module.ofWindow, hread]
  simp only [asModule_ok, ok_bind, htext, hsizes, htables]
  rfl

end

end OatImage.Dex
