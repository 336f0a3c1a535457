import OatImage.Proofs.Outcomes

/-!
# Moved outcomes

The same bytes may lie at other addresses. What an operation then comes to is moved: each
absolute address in its answer, and in its failure if it fails, is greater by one distance.
One outcome tracks another one if it is the other one moved. Where the bytes that the first
operation reads may be cut short, a failure to decode is tracked by every outcome, since the
operation on all the bytes may get past the failure. Each way of putting steps together
keeps tracking.
-/
namespace OatImage

/-- The range in a cause moves; a cause holds no other address. -/
def Cause.moveBy (d : Int) : Cause → Cause
  | .outside what begin stop size => .outside what (begin + d) (stop + d) size
  | other => other

def DecodeFault.moveBy (d : Int) (e : DecodeFault) : DecodeFault :=
  { e with cause := e.cause.moveBy d, address := e.address.map (· + d) }

def SetupFault.moveBy (d : Int) : SetupFault → SetupFault
  | .inverted begin stop => .inverted (begin + d) (stop + d)
  | other => other

/-- A failure of an operation on an image that lies elsewhere. -/
def Fault.moveBy (d : Int) : Fault → Fault
  | .decode e => .decode (e.moveBy d)
  | .setup e => .setup (e.moveBy d)
  | other => other

/-- An outcome on an image that lies elsewhere, given how an answer moves. -/
def Decode.moveBy {α β : Type} (d : Int) (move : α → β) : Decode α → Decode β
  | .ok a => .ok (move a)
  | .error e => .error (e.moveBy d)

theorem Cause.moveBy_zero (c : Cause) : c.moveBy 0 = c := by
  cases c <;> simp only [Cause.moveBy, Int.add_zero]

theorem map_add_zero (address : Option Int) : address.map (· + 0) = address := by
  simp only [Int.add_zero, Option.map_id']

theorem DecodeFault.moveBy_zero (e : DecodeFault) : e.moveBy 0 = e := by
  simp only [DecodeFault.moveBy, Cause.moveBy_zero, map_add_zero]

theorem SetupFault.moveBy_zero (e : SetupFault) : e.moveBy 0 = e := by
  cases e <;> simp only [SetupFault.moveBy, Int.add_zero]

theorem Fault.moveBy_zero (e : Fault) : e.moveBy 0 = e := by
  cases e <;> simp only [Fault.moveBy, DecodeFault.moveBy_zero, SetupFault.moveBy_zero]

theorem Fault.moveBy_asModule (d : Int) (e : Fault) :
    (e.moveBy d).asModule = e.asModule.moveBy d := by
  cases e <;> rfl

theorem Fault.moveBy_withContext (d : Int) (e : Fault) (index : Option Int)
    (location : Option String) (descriptor : Option Text) :
    (e.moveBy d).withContext index location descriptor =
      (e.withContext index location descriptor).moveBy d := by
  cases e <;> rfl

namespace Decode

variable {α β γ δ : Type} {d : Int} {cut : Prop} {move : α → β}

theorem moveBy_id_zero (x : Decode α) : x.moveBy 0 (fun a => a) = x := by
  cases x with
  | ok a => rfl
  | error e => exact congrArg Except.error e.moveBy_zero

/-- The second outcome is the first one moved, or the first one is a failure to decode where
bytes may be cut off. -/
def Tracks (d : Int) (cut : Prop) (move : α → β) (x : Decode α) (x' : Decode β) : Prop :=
  x' = x.moveBy d move ∨ cut ∧ ∃ e, x = .error (.decode e)

theorem Tracks.ok (a : α) : Tracks d cut move (.ok a) (.ok (move a)) := .inl rfl

theorem Tracks.pure (a : α) : Tracks d cut move (Pure.pure a) (Pure.pure (move a)) := .inl rfl

theorem Tracks.error (e : Fault) : Tracks d cut move (.error e) (.error (e.moveBy d)) := .inl rfl

theorem Tracks.inImage (cause : Cause) {address address' : Int} (h : address' = address + d) :
    Tracks d cut move (.error (.inImage cause address))
      (.error (.inImage (cause.moveBy d) address')) := by
  subst h
  exact Tracks.error (.inImage cause address)

/-- A failure to decode, where bytes may be cut off. -/
theorem Tracks.ofCut {x' : Decode β} (hc : cut) (cause : Cause) (address : Int) :
    Tracks d cut move (.error (.inImage cause address)) x' := .inr ⟨hc, _, rfl⟩

/-- Without a cut the second outcome is the first one moved. -/
theorem Tracks.eq_moveBy {x : Decode α} {x' : Decode β} (h : Tracks d False move x x') :
    x' = x.moveBy d move := h.resolve_right fun hcut => hcut.1

theorem Tracks.bind {x : Decode α} {x' : Decode β} {f : α → Decode γ} {f' : β → Decode δ}
    {next : γ → δ} (h : Tracks d cut move x x')
    (hf : ∀ a, x = .ok a → Tracks d cut next (f a) (f' (move a))) :
    Tracks d cut next (x >>= f) (x' >>= f') := by
  rcases h with rfl | ⟨hcut, e, rfl⟩
  · cases x with
    | ok a => exact hf a rfl
    | error e => exact .inl rfl
  · exact .inr ⟨hcut, e, rfl⟩

theorem Tracks.map {x : Decode α} {x' : Decode β} {f : α → γ} {f' : β → δ} {next : γ → δ}
    (h : Tracks d cut move x x') (hf : ∀ a, f' (move a) = next (f a)) :
    Tracks d cut next (f <$> x) (f' <$> x') := by
  rcases h with rfl | ⟨hcut, e, rfl⟩
  · cases x with
    | ok a => exact .inl (congrArg Except.ok (hf a))
    | error e => exact .inl rfl
  · exact .inr ⟨hcut, e, rfl⟩

/-- Both sides decide the same. -/
theorem Tracks.ite {c c' : Prop} [Decidable c] [Decidable c'] {x y : Decode α}
    {x' y' : Decode β} (hcc : c' ↔ c) (ht : c → Tracks d cut move x x')
    (he : ¬ c → Tracks d cut move y y') :
    Tracks d cut move (if c then x else y) (if c' then x' else y') := by
  by_cases h : c
  · rw [if_pos h, if_pos (hcc.mpr h)]
    exact ht h
  · rw [if_neg h, if_neg (mt hcc.mp h)]
    exact he h

theorem Tracks.asModule {x : Decode α} {x' : Decode β} (h : Tracks d cut move x x') :
    Tracks d cut move x.asModule x'.asModule := by
  rcases h with rfl | ⟨hcut, e, rfl⟩
  · cases x with
    | ok a => exact .inl rfl
    | error e => exact .inl (congrArg Except.error (e.moveBy_asModule d))
  · exact .inr ⟨hcut, _, rfl⟩

theorem Tracks.withContext {x : Decode α} {x' : Decode β} (h : Tracks d cut move x x')
    (index : Option Int) (location : Option String) (descriptor : Option Text) :
    Tracks d cut move (x.withContext index location descriptor)
      (x'.withContext index location descriptor) := by
  rcases h with rfl | ⟨hcut, e, rfl⟩
  · cases x with
    | ok a => exact .inl rfl
    | error e =>
        exact .inl (congrArg Except.error (e.moveBy_withContext d index location descriptor))
  · exact .inr ⟨hcut, _, rfl⟩

end Decode

end OatImage
