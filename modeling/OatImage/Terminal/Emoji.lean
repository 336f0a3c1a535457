import OatImage.Terminal.EmojiFlags
import OatImage.Terminal.EmojiPictures
import OatImage.Terminal.EmojiSigns
import OatImage.Text.Blank
import OatImage.Text.LetterCase

/-!
# Emoji

A name between two colons stands for an emoji, in letters of either case. Behind the name a
dash and one of the words `emoji` and `text` may choose a variant. A name that is not known is
text like any other, both colons included.
-/
namespace OatImage.Emoji

structure Entry where
  name : String
  chars : List Char
  /-- There are more emoji that are named after it. -/
  varies : Bool
deriving DecidableEq, Repr

def hexNumber (digits : String) : Nat :=
  digits.toList.foldl (fun n c => 16 * n + (if c.isDigit then c.toNat - 48 else c.toNat - 55)) 0

def ofNumbers (numbers : String) : List Char :=
  (numbers.splitOn "-").map fun digits => Char.ofNat (hexNumber digits)

def ofLetters (letters : String) : List Char :=
  letters.toList.map fun c => Char.ofNat (0x1F1E6 + (c.toNat - 65))

/-- The entry of a name, which may have a plus sign behind it. -/
def entryOf (chars : List Char) (name : String) : Entry :=
  if name.endsWith "+" then ⟨(name.dropEnd 1).toString, chars, true⟩ else ⟨name, chars, false⟩

def entriesOf (chars : String → List Char) (rows : List String) : List Entry :=
  (rows.flatMap fun row => row.splitOn ";").flatMap fun row =>
    match row.splitOn " " with
    | [] => []
    | first :: names => names.map (entryOf (chars first))

def flags : List Entry := entriesOf ofLetters flagRows

def signs : List Entry := entriesOf ofNumbers (signRows ++ pictureRows)

/-- The words behind a name for a skin tone, and the tone. -/
def tones : List (String × Char) :=
  [("_medium-light_skin_tone", Char.ofNat 0x1F3FC), ("_medium-dark_skin_tone", Char.ofNat 0x1F3FE),
   ("_light_skin_tone", Char.ofNat 0x1F3FB), ("_medium_skin_tone", Char.ofNat 0x1F3FD),
   ("_dark_skin_tone", Char.ofNat 0x1F3FF)]

/-- An emoji with a skin tone, which stands behind the first character in place of a selector
of the variant. -/
def withTone (tone : Char) : List Char → List Char
  | c :: '\ufe0f' :: rest => c :: tone :: rest
  | c :: rest => c :: tone :: rest
  | [] => []

def front? (ending text : String) : Option String :=
  if text.endsWith ending then some (text.dropEnd ending.length).toString else none

/-- The emoji of a name with the words for a skin tone behind it. -/
def toned? (name : String) : Option (List Char) :=
  tones.findSome? fun (ending, tone) => do
    let base ← front? ending name
    let entry ← signs.find? fun e => e.name = base ∧ e.varies
    pure (withTone tone entry.chars)

/-- The flag of a name with the words for a flag in front of it. -/
def flag? (name : String) : Option (List Char) := do
  guard (name.startsWith "flag_for_")
  let entry ← flags.find? fun e => e.name = (name.drop 9).toString ∧ e.varies
  pure entry.chars

def find? (name : String) : Option (List Char) :=
  (((signs.find? fun e => e.name = name).or (flags.find? fun e => e.name = name)).map
    Entry.chars).or ((toned? name).or (flag? name))

/-- A name without the word for a variant, and the selector of the variant. -/
def variant (name : String) : String × List Char :=
  match front? "-emoji" name, front? "-text" name with
  | some base, _ => (base, ['\ufe0f'])
  | none, some base => (base, ['\ufe0e'])
  | none, none => (name, [])

def shown (name : List Char) : List Char :=
  let (base, selector) := variant (String.ofList name)
  match find? (LetterCase.lower base) with
  | some chars => chars ++ selector
  | none => ':' :: name ++ [':']

/-- The text up to the next colon and the text behind that, if no blank stands before it. -/
def upToColon : List Char → Option (List Char × List Char)
  | [] => none
  | c :: rest =>
    if c = ':' then some ([], rest)
    else if (CodePoint.ofChar c).isBlank then none
    else (upToColon rest).map fun (name, after) => (c :: name, after)

theorem upToColon_length {text name after : List Char}
    (h : upToColon text = some (name, after)) : after.length < text.length := by
  induction text generalizing name with
  | nil => simp [upToColon] at h
  | cons c rest ih =>
    unfold upToColon at h
    split at h
    · simp only [Option.some.injEq, Prod.mk.injEq] at h
      simp [← h.2]
    · split at h
      · simp at h
      · simp only [Option.map_eq_some_iff] at h
        obtain ⟨⟨n, a⟩, hn, hp⟩ := h
        simp only [Prod.mk.injEq] at hp
        rw [hp.2] at hn
        have := ih hn
        simp only [List.length_cons]
        omega

def replace (text : List Char) : List Char :=
  match text with
  | [] => []
  | c :: rest =>
    if c = ':' then
      match _h : upToColon rest with
      | some (name, after) => shown name ++ replace after
      | none => c :: replace rest
    else c :: replace rest
termination_by text.length
decreasing_by
  · have := upToColon_length _h
    simp only [List.length_cons]
    omega
  · simp
  · simp

end OatImage.Emoji
