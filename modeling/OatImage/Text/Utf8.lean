import OatImage.Text.Basic

/-!
# UTF-8

One reader of a single encoded code point serves two decoders. `decodeReplacing` puts
one U+FFFD in place of each longest prefix of a well-formed sequence that is cut short
or broken, and so always gives a string. `decodeGeneral` refuses ill-formed bytes and
says why, except that the three-byte form of a surrogate stands for that surrogate.
-/
namespace OatImage.Utf8

/-- Why bytes are not the encoding of a code point. -/
inductive Flaw
  | start
  | continuation
  | truncated
deriving DecidableEq, Repr

def Flaw.message : Flaw → String
  | .start => "invalid start byte"
  | .continuation => "invalid continuation byte"
  | .truncated => "unexpected end of data"

def isTail (b : UInt8) : Bool := 0x80 ≤ b && b ≤ 0xBF

/-- A broken sequence: the reason, and how many bytes after the first belong to it. -/
structure Break where
  flaw : Flaw
  extra : Nat
deriving DecidableEq, Repr

/-- Reads `needed` continuation bytes. The first must lie between `low` and `high`; the
value is extended by six bits a byte, and `taken` counts the bytes read. -/
def tails : (needed : Nat) → (low high : UInt8) → (value taken : Nat) → List UInt8 →
    Except Break (Nat × Nat)
  | 0, _, _, value, taken, _ => .ok (value, taken)
  | _ + 1, _, _, _, taken, [] => .error ⟨.truncated, taken⟩
  | needed + 1, low, high, value, taken, b :: rest =>
    if low ≤ b && b ≤ high then
      tails needed 0x80 0xBF (value * 64 + b.toNat % 64) (taken + 1) rest
    else .error ⟨.continuation, taken⟩

/-- Reads the code point whose first byte is `a`: its number, and how many bytes after
the first it takes. -/
def point (a : UInt8) (rest : List UInt8) : Except Break (Nat × Nat) :=
  if a < 0x80 then .ok (a.toNat, 0)
  else if a < 0xC2 then .error ⟨.start, 0⟩
  else if a < 0xE0 then tails 1 0x80 0xBF (a.toNat % 32) 0 rest
  else if a = 0xE0 then tails 2 0xA0 0xBF 0 0 rest
  else if a = 0xED then tails 2 0x80 0x9F 13 0 rest
  else if a < 0xF0 then tails 2 0x80 0xBF (a.toNat % 16) 0 rest
  else if a = 0xF0 then tails 3 0x90 0xBF 0 0 rest
  else if a < 0xF4 then tails 3 0x80 0xBF (a.toNat % 8) 0 rest
  else if a = 0xF4 then tails 3 0x80 0x8F 4 0 rest
  else .error ⟨.start, 0⟩

/-- The characters of a byte string, each broken sequence read as U+FFFD. -/
def replacing : List UInt8 → List Char
  | [] => []
  | a :: rest =>
    match point a rest with
    | .ok (value, extra) => Char.ofNat value :: replacing (rest.drop extra)
    | .error b => '\uFFFD' :: replacing (rest.drop b.extra)
termination_by bytes => bytes.length
decreasing_by all_goals (simp only [List.length_drop, List.length_cons]; omega)

def decodeReplacing (bytes : List UInt8) : String := String.ofList (replacing bytes)

/-- The number of the surrogate encoded in three bytes at the head of a byte string. -/
def surrogate? : List UInt8 → Option Nat
  | a :: b :: c :: _ =>
    if a = 0xED && (0xA0 ≤ b && b ≤ 0xBF) && isTail c then
      some (0xD000 + b.toNat % 64 * 64 + c.toNat % 64)
    else none
  | _ => none

/-- The code points of a byte string, surrogates included, or the first flaw. -/
def decodeGeneral : List UInt8 → Except Flaw Text
  | [] => .ok []
  | a :: rest =>
    match surrogate? (a :: rest) with
    | some value => do
      let more ← decodeGeneral (rest.drop 2)
      pure (CodePoint.ofNat value :: more)
    | none =>
      match point a rest with
      | .ok (value, extra) => do
        let more ← decodeGeneral (rest.drop extra)
        pure (CodePoint.ofNat value :: more)
      | .error b => .error b.flaw
termination_by bytes => bytes.length
decreasing_by all_goals (simp only [List.length_drop, List.length_cons]; omega)

def decode? (bytes : List UInt8) : Option String :=
  match decodeGeneral bytes with
  | .ok t => t.toString?
  | .error _ => none

def byte (n : Nat) : UInt8 := UInt8.ofNat n

/-- The shortest encoding of a code point; a surrogate takes three bytes. -/
def encodePoint (c : CodePoint) : List UInt8 :=
  if c.val < 0x80 then [byte c.val]
  else if c.val < 0x800 then [byte (0xC0 + c.val / 64), byte (0x80 + c.val % 64)]
  else if c.val < 0x10000 then
    [byte (0xE0 + c.val / 4096), byte (0x80 + c.val / 64 % 64), byte (0x80 + c.val % 64)]
  else
    [byte (0xF0 + c.val / 262144), byte (0x80 + c.val / 4096 % 64),
      byte (0x80 + c.val / 64 % 64), byte (0x80 + c.val % 64)]

/-- The bytes of a text, each surrogate in its three-byte form. -/
def encodeGeneral (t : Text) : List UInt8 := t.flatMap encodePoint

/-- The UTF-8 form of a text; a text with a lone surrogate has none. -/
def encode? (t : Text) : Option (List UInt8) :=
  if t.isScalar then some (encodeGeneral t) else none

end OatImage.Utf8

namespace OatImage.Ascii

/-- The characters of a byte string, each byte from 0x80 on read as U+FFFD. -/
def decodeReplacing (bytes : List UInt8) : String :=
  String.ofList (bytes.map fun b => if b < 0x80 then Char.ofNat b.toNat else '\uFFFD')

/-- The characters of a byte string that lies below 0x80. -/
def decode? (bytes : List UInt8) : Option String :=
  if bytes.all (· < 0x80) then some (decodeReplacing bytes) else none

end OatImage.Ascii
