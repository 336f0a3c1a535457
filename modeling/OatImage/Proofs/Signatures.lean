import OatImage.Proofs.MethodSearches

/-!
# Signatures

A signature is the parameter descriptors in parentheses with the result behind them, and nothing
separates one descriptor from the next. Descriptors can still be told apart, since none is the
start of another one and none starts with a parenthesis, whatever the names of classes contain. So
the text of a signature has one reading, and methods with the same text have the same types.
A search that compares texts selects by types.
-/
namespace OatImage

namespace Dex

/-! What a type descriptor is, apart from any reader of it. -/

/-- The letters of the types that need no name. -/
def primitiveLetters : Text := Text.ofString "VZBSCIJFD"

def classLetter : CodePoint := CodePoint.ofChar 'L'

def arrayMark : CodePoint := CodePoint.ofChar '['

/-- Stands behind the name of a class. -/
def nameEnd : CodePoint := CodePoint.ofChar ';'

/-- Stands behind the parameters of a signature. -/
def parametersEnd : CodePoint := CodePoint.ofChar ')'

/-- The text is a well-formed type descriptor. -/
inductive IsDescriptor : Text → Prop
  | primitive {c : CodePoint} (hc : c ∈ primitiveLetters) : IsDescriptor [c]
  | named {name : Text} (hname : nameEnd ∉ name) :
      IsDescriptor (classLetter :: (name ++ [nameEnd]))
  | array {element : Text} (helement : IsDescriptor element) : IsDescriptor (arrayMark :: element)

theorem classLetter_not_primitive : classLetter ∉ primitiveLetters := by decide

theorem arrayMark_not_primitive : arrayMark ∉ primitiveLetters := by decide

theorem parametersEnd_not_primitive : parametersEnd ∉ primitiveLetters := by decide

variable {d e xs ys : Text} {ps qs : List Text} {r s : Text}

/-- Two texts that go on with a letter neither of them has end at the same place. -/
theorem eq_of_append_cons_eq {name name' : Text} {c : CodePoint} (hname : c ∉ name)
    (hname' : c ∉ name') (h : name ++ c :: xs = name' ++ c :: ys) : name = name' ∧ xs = ys := by
  induction name generalizing name' with
  | nil =>
      cases name' with
      | nil => exact ⟨rfl, (List.cons.inj h).2⟩
      | cons c' name' => exact absurd ((List.cons.inj h).1 ▸ List.mem_cons_self) hname'
  | cons a name ih =>
      cases name' with
      | nil => exact absurd ((List.cons.inj h).1 ▸ List.mem_cons_self) hname
      | cons a' name' =>
          obtain ⟨rfl, htail⟩ := List.cons.inj h
          obtain ⟨rfl, hrest⟩ := ih (fun hc => hname (List.mem_cons_of_mem a hc))
            (fun hc => hname' (List.mem_cons_of_mem a hc)) htail
          exact ⟨rfl, hrest⟩

/-- A descriptor starts with a letter that does not close a list of parameters. -/
theorem IsDescriptor.exists_cons (hd : IsDescriptor d) :
    ∃ c rest, d = c :: rest ∧ c ≠ parametersEnd := by
  cases hd with
  | primitive hc => exact ⟨_, [], rfl, fun h => parametersEnd_not_primitive (h ▸ hc)⟩
  | named => exact ⟨classLetter, _, rfl, by decide⟩
  | array => exact ⟨arrayMark, _, rfl, by decide⟩

/-- No descriptor is the start of another one: where two texts start with a descriptor and are the
same, the descriptors are the same, and so is what follows. -/
theorem IsDescriptor.append_inj (hd : IsDescriptor d) (he : IsDescriptor e)
    (h : d ++ xs = e ++ ys) : d = e ∧ xs = ys := by
  -- The first letter says which form both have, and the induction is for the elements of arrays.
  induction hd generalizing e with
  | primitive hc =>
      cases he with
      | primitive =>
          obtain ⟨rfl, hrest⟩ := List.cons.inj h
          exact ⟨rfl, hrest⟩
      | named => exact absurd ((List.cons.inj h).1 ▸ hc) classLetter_not_primitive
      | array => exact absurd ((List.cons.inj h).1 ▸ hc) arrayMark_not_primitive
  | @named name hname =>
      cases he with
      | primitive hc => exact absurd ((List.cons.inj h).1 ▸ hc) classLetter_not_primitive
      | @named name' hname' =>
          have htail : name ++ [nameEnd] ++ xs = name' ++ [nameEnd] ++ ys := (List.cons.inj h).2
          rw [List.append_assoc, List.append_assoc] at htail
          obtain ⟨rfl, hrest⟩ := eq_of_append_cons_eq hname hname' htail
          exact ⟨rfl, hrest⟩
      | array => exact absurd (List.cons.inj h).1 (by decide)
  | array _ ih =>
      cases he with
      | primitive hc => exact absurd ((List.cons.inj h).1 ▸ hc) arrayMark_not_primitive
      | named => exact absurd (List.cons.inj h).1 (by decide)
      | array helement =>
          obtain ⟨rfl, hrest⟩ := ih helement (List.cons.inj h).2
          exact ⟨rfl, hrest⟩

/-- Lists of descriptors that are closed by a parenthesis are told apart, by induction on the
first list. -/
theorem flatten_append_inj (hps : ∀ p ∈ ps, IsDescriptor p) (hqs : ∀ q ∈ qs, IsDescriptor q)
    (h : ps.flatten ++ parametersEnd :: xs = qs.flatten ++ parametersEnd :: ys) :
    ps = qs ∧ xs = ys := by
  induction ps generalizing qs with
  | nil =>
      cases qs with
      | nil => exact ⟨rfl, (List.cons.inj h).2⟩
      | cons q qs =>
          obtain ⟨c, rest, rfl, hc⟩ := (hqs q List.mem_cons_self).exists_cons
          exact absurd (List.cons.inj h).1.symm hc
  | cons p ps ih =>
      obtain ⟨hp, hothers⟩ := List.forall_mem_cons.mp hps
      cases qs with
      | nil =>
          obtain ⟨c, rest, rfl, hc⟩ := hp.exists_cons
          exact absurd (List.cons.inj h).1 hc
      | cons q qs =>
          obtain ⟨hq, hothers'⟩ := List.forall_mem_cons.mp hqs
          rw [List.flatten_cons, List.flatten_cons, List.append_assoc, List.append_assoc] at h
          obtain ⟨rfl, htail⟩ := hp.append_inj hq h
          obtain ⟨rfl, hrest⟩ := ih hothers hothers' htail
          exact ⟨rfl, hrest⟩

namespace Module

/-- The text of a signature has one reading, even with any text in place of the result. -/
theorem signatureText_inj (hps : ∀ p ∈ ps, IsDescriptor p) (hqs : ∀ q ∈ qs, IsDescriptor q) :
    signatureText ps r = signatureText qs s ↔ ps = qs ∧ r = s := by
  have hsplit (ps : List Text) (r : Text) : signatureText ps r =
      CodePoint.ofChar '(' :: (ps.flatten ++ parametersEnd :: r) := by
    rw [signatureText, List.append_assoc, List.append_assoc]
    rfl
  constructor
  · intro h
    rw [hsplit, hsplit] at h
    exact flatten_append_inj hps hqs (List.cons.inj h).2
  · rintro ⟨rfl, rfl⟩
    rfl

variable {m : Module} {i j : Int} {t u name : Text} {x : Method} {methods : List Method}

/-- The method's prototype is read, with the descriptors of its parameters and of its result. -/
def HasPrototype (m : Module) (index : Int) (parameters : List Text) (result : Text) : Prop :=
  ∃ id p, m.methodId index = .ok id ∧ m.prototype id.prototype = .ok p ∧
    m.parameters p = .ok parameters ∧ m.typeDescriptor p.result = .ok result

theorem HasPrototype.unique (h : m.HasPrototype i ps r) (h' : m.HasPrototype i qs s) :
    ps = qs ∧ r = s := by
  obtain ⟨id, p, hid, hp, hps, hr⟩ := h
  obtain ⟨id', p', hid', hp', hqs, hs⟩ := h'
  cases hid.symm.trans hid'
  cases hp.symm.trans hp'
  exact ⟨Except.ok.inj (hps.symm.trans hqs), Except.ok.inj (hr.symm.trans hs)⟩

/-- A signature decodes exactly if the types of the prototype do, and it is their text. -/
theorem methodSignature_eq_ok_iff : m.methodSignature i = .ok t ↔
    ∃ ps r, m.HasPrototype i ps r ∧ signatureText ps r = t := by
  simp only [methodSignature, HasPrototype, Decode.bind_eq_ok]
  constructor
  · rintro ⟨id, hid, p, hp, ps, hps, r, hr, htext⟩
    exact ⟨ps, r, ⟨id, p, hid, hp, hps, hr⟩, Except.ok.inj htext⟩
  · rintro ⟨ps, r, ⟨id, p, hid, hp, hps, hr⟩, rfl⟩
    exact ⟨id, hid, p, hp, ps, hps, r, hr, rfl⟩

/-- Every type of the method that is read is a well-formed descriptor. -/
def IsWellTyped (m : Module) (index : Int) : Prop :=
  ∀ ps r, m.HasPrototype index ps r → (∀ p ∈ ps, IsDescriptor p) ∧ IsDescriptor r

theorem HasPrototype.isWellTyped (h : m.HasPrototype i ps r) (hps : ∀ p ∈ ps, IsDescriptor p)
    (hr : IsDescriptor r) : m.IsWellTyped i := by
  intro qs s hqs
  obtain ⟨rfl, rfl⟩ := h.unique hqs
  exact ⟨hps, hr⟩

/-- Two methods with well-formed types have the same signature exactly if they have the same
types. -/
theorem HasPrototype.signatureText_eq_iff (h : m.HasPrototype i ps r) (h' : m.HasPrototype j qs s)
    (hi : m.IsWellTyped i) (hj : m.IsWellTyped j) :
    signatureText ps r = signatureText qs s ↔ ps = qs ∧ r = s :=
  signatureText_inj (hi ps r h).1 (hj qs s h').1

/-- The method has the name and the types. -/
def IsOverload (m : Module) (name : Text) (parameters : List Text) (result : Text) (x : Method) :
    Prop :=
  m.methodName x.index = .ok name ∧ m.HasPrototype x.index parameters result

/-- The method has another name, or the name with other types. -/
def IsOther (m : Module) (name : Text) (parameters : List Text) (result : Text) (x : Method) :
    Prop :=
  ∃ itsName, m.methodName x.index = .ok itsName ∧ (itsName = name →
    ∃ qs s, m.HasPrototype x.index qs s ∧ ¬ (parameters = qs ∧ result = s))

section
variable (hi : m.HasPrototype i ps r) (hwell : m.IsWellTyped i) (hx : m.IsWellTyped x.index)
include hi hwell hx

theorem matches_iff_isOverload :
    m.Matches name (signatureText ps r) x ↔ m.IsOverload name ps r x := by
  rw [Matches, IsOverload, methodSignature_eq_ok_iff]
  refine and_congr_right fun _ => ⟨?_, fun h => ⟨ps, r, h, rfl⟩⟩
  rintro ⟨qs, s, hqs, htext⟩
  obtain ⟨rfl, rfl⟩ := (hqs.signatureText_eq_iff hi hx hwell).mp htext
  exact hqs

theorem passes_iff_isOther :
    m.Passes name (signatureText ps r) x ↔ m.IsOther name ps r x := by
  refine exists_congr fun itsName => and_congr_right fun _ => imp_congr_right fun _ => ?_
  constructor
  · rintro ⟨u, hu, hne⟩
    obtain ⟨qs, s, hqs, rfl⟩ := methodSignature_eq_ok_iff.mp hu
    exact ⟨qs, s, hqs, fun hsame =>
      hne ((hi.signatureText_eq_iff hqs hwell hx).mpr hsame).symm⟩
  · rintro ⟨qs, s, hqs, hdiffer⟩
    exact ⟨_, methodSignature_eq_ok_iff.mpr ⟨qs, s, hqs, rfl⟩, fun hsame =>
      hdiffer ((hi.signatureText_eq_iff hqs hwell hx).mp hsame.symm)⟩

end

/-- What a search for a name and a signature selects, in terms of types: the first method with
the name and the types. -/
structure SelectsTypes (m : Module) (name signature : Text) (parameters : List Text)
    (result : Text) (methods : List Method) : Prop where
  found : ∀ x, m.search name signature methods = .ok (some x) ↔
    ∃ before after, methods = before ++ x :: after ∧ m.IsOverload name parameters result x ∧
      ∀ y ∈ before, m.IsOther name parameters result y
  absent : m.search name signature methods = .ok none ↔
    ∀ y ∈ methods, m.IsOther name parameters result y

theorem search_selectsTypes (hi : m.HasPrototype i ps r) (hwell : m.IsWellTyped i)
    (hmethods : ∀ y ∈ methods, m.IsWellTyped y.index) :
    m.SelectsTypes name (signatureText ps r) ps r methods := by
  constructor
  case found =>
    intro x
    rw [search_eq_some_iff, IsFirst]
    refine exists_congr fun before => exists_congr fun after => and_congr_right fun heq => ?_
    subst heq
    obtain ⟨hbefore, hrest⟩ := List.forall_mem_append.mp hmethods
    have hx := hrest x List.mem_cons_self
    exact and_congr (matches_iff_isOverload hi hwell hx)
      (forall₂_congr fun y hy => passes_iff_isOther hi hwell (hbefore y hy))
  case absent =>
    rw [search_eq_none_iff]
    exact forall₂_congr fun y hy => passes_iff_isOther hi hwell (hmethods y hy)

/-- Among methods whose types are well-formed descriptors, signatures are equal exactly if the
parameter lists and the results are, and a search for a signature selects by these. -/
theorem methodSignature_selects (hi : m.methodSignature i = .ok t) (hwell : m.IsWellTyped i) :
    ∃ ps r, m.HasPrototype i ps r ∧
      (∀ j u, m.methodSignature j = .ok u → m.IsWellTyped j →
        ∃ qs s, m.HasPrototype j qs s ∧ (t = u ↔ ps = qs ∧ r = s)) ∧
      ∀ name methods, (∀ y ∈ methods, m.IsWellTyped y.index) →
        m.SelectsTypes name t ps r methods := by
  obtain ⟨ps, r, hps, rfl⟩ := methodSignature_eq_ok_iff.mp hi
  refine ⟨ps, r, hps, fun j u hj hwellj => ?_, fun name methods hmethods => ?_⟩
  · obtain ⟨qs, s, hqs, rfl⟩ := methodSignature_eq_ok_iff.mp hj
    exact ⟨qs, s, hqs, hps.signatureText_eq_iff hqs hwell hwellj⟩
  · exact search_selectsTypes hps hwell hmethods

/-- A class whose name has a bracket and a parenthesis, a number type, and no result. -/
def oddClass : Text := Text.ofString "L)[;"

def intType : Text := Text.ofString "I"

def noResult : Text := Text.ofString "V"

theorem isDescriptor_oddClass : IsDescriptor oddClass :=
  .named (show nameEnd ∉ Text.ofString ")[" by decide)

theorem isDescriptor_intType : IsDescriptor intType := .primitive (by decide)

theorem isDescriptor_noResult : IsDescriptor noResult := .primitive (by decide)

/-- A module whose two methods have the same name and take these two types in either order. -/
def overloadsModule : List UInt8 :=
  magicBytes ++ [0x30, 0x33, 0x35, 0] ++ List.replicate 24 0 ++ wordBytes [211, 112, endianTag] ++
    List.replicate 12 0 ++ wordBytes [4, 112, 3, 128, 2, 140, 0, 0, 2, 164, 0, 0] ++
    List.replicate 8 0 ++ wordBytes [196, 199, 202, 208] ++ wordBytes [1, 2, 3] ++
    wordBytes [0, 2, 180, 0, 2, 188] ++ [1, 0, 0, 0, 0, 0, 0, 0, 1, 0, 1, 0, 0, 0, 0, 0] ++
    [2, 0, 0, 0, 1, 0, 0, 0] ++ [2, 0, 0, 0, 0, 0, 1, 0] ++
    [1, 0x66, 0] ++ [1, 0x49, 0] ++ [4, 0x4C, 0x29, 0x5B, 0x3B, 0] ++ [1, 0x56, 0]

def overloadsRegion : Region := ⟨⟨overloadsModule.toArray⟩, 4096, 4307⟩

theorem overloadsModule_load : ∃ m, load overloadsRegion 4096 = .ok m ∧
    m.methodName 0 = .ok (Text.ofString "f") ∧ m.methodName 1 = .ok (Text.ofString "f") ∧
    m.HasPrototype 0 [oddClass, intType] noResult ∧
    m.HasPrototype 1 [intType, oddClass] noResult := by
  have hlies : LiesAt overloadsRegion 4096 overloadsModule := by decide +kernel
  obtain ⟨m, hm, _, hfields⟩ := hlies.exists_load
    (p := fun m => decide
      ((m.methodName 0 = .ok (Text.ofString "f") ∧ m.methodName 1 = .ok (Text.ofString "f")) ∧
        (m.methodId 0 = .ok ⟨0, 0⟩ ∧ m.prototype 0 = .ok ⟨2, 180⟩ ∧
          m.parameters ⟨2, 180⟩ = .ok [oddClass, intType] ∧
          m.typeDescriptor 2 = .ok noResult) ∧
        m.methodId 1 = .ok ⟨1, 0⟩ ∧ m.prototype 1 = .ok ⟨2, 188⟩ ∧
          m.parameters ⟨2, 188⟩ = .ok [intType, oddClass] ∧
          m.typeDescriptor 2 = .ok noResult))
    (by decide +kernel)
  obtain ⟨⟨hname, hname'⟩, hfirst, hsecond⟩ := of_decide_eq_true hfields
  exact ⟨m, hm, hname, hname', ⟨_, _, hfirst⟩, _, _, hsecond⟩

/-- The signatures of the two methods are different, and the signature of the second one selects
it behind the first. -/
theorem methodSignature_selects_overloadsModule : ∃ m t u,
    load overloadsRegion 4096 = .ok m ∧ m.methodSignature 0 = .ok u ∧
      m.methodSignature 1 = .ok t ∧ t ≠ u ∧
      m.search (Text.ofString "f") t [⟨0, 0, 0, 0, true⟩, ⟨1, 0, 0, 1, true⟩] =
        .ok (some ⟨1, 0, 0, 1, true⟩) := by
  obtain ⟨m, hm, hname, hname', h0, h1⟩ := overloadsModule_load
  have hwell0 : m.IsWellTyped 0 :=
    h0.isWellTyped (by simp [isDescriptor_oddClass, isDescriptor_intType]) isDescriptor_noResult
  have hwell1 : m.IsWellTyped 1 :=
    h1.isWellTyped (by simp [isDescriptor_oddClass, isDescriptor_intType]) isDescriptor_noResult
  have hsignature0 := methodSignature_eq_ok_iff.mpr ⟨_, _, h0, rfl⟩
  have hsignature1 := methodSignature_eq_ok_iff.mpr ⟨_, _, h1, rfl⟩
  obtain ⟨ps, r, hps, hequal, hsearch⟩ := methodSignature_selects hsignature1 hwell1
  obtain ⟨rfl, rfl⟩ := h1.unique hps
  obtain ⟨qs, s, hqs, hsame⟩ := hequal 0 _ hsignature0 hwell0
  obtain ⟨rfl, rfl⟩ := h0.unique hqs
  refine ⟨m, _, _, hm, hsignature0, hsignature1, fun h => ?_, ?_⟩
  · exact absurd (hsame.mp h).1 (by decide)
  · refine ((hsearch _ _ (by simp [hwell0, hwell1])).found _).mpr ⟨[_], [], rfl, ⟨hname', h1⟩, ?_⟩
    intro y hy
    cases List.mem_singleton.mp hy
    exact ⟨_, hname, fun _ => ⟨_, _, h0, by decide⟩⟩

end Module

end Dex

end OatImage
