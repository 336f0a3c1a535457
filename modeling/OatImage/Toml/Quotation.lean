import OatImage.Text.Numeral

/-!
# Strings of a settings file

A string stands between quotation marks, where a backslash starts an escape, or between
apostrophes, where nothing does. Three marks open a string that may run over lines: a line
feed right after them is dropped, a backslash at the end of a line joins it to the next text,
and up to two marks may stand before the three that close it. Controls other than the tab
must be escaped.
-/
namespace OatImage.Toml.Quotation

/-- A character that may not stand for itself on a line. -/
def isControl (c : Char) : Bool := (c.toNat < 0x20 && c ≠ '\t') || c.toNat = 0x7F

def isBlank (c : Char) : Bool := c = ' ' || c = '\t'

def isAllowed (multiline : Bool) (c : Char) : Bool :=
  !isControl c || (multiline && c = '\n')

def digitValue? (c : Char) : Option Nat :=
  if '0' ≤ c ∧ c ≤ '9' then some (c.toNat - 48)
  else if 'a' ≤ c ∧ c ≤ 'f' then some (c.toNat - 87)
  else if 'A' ≤ c ∧ c ≤ 'F' then some (c.toNat - 55)
  else none

/-- The character with a number in hexadecimal digits; surrogates are no characters. -/
def scalar? (digits : List Char) : Option Char := do
  let values ← digits.mapM digitValue?
  let n := values.foldl (fun n d => n * 16 + d) 0
  if h : n.isValidChar then some (Char.ofNatAux n h) else none

def letter? : Char → Option Char
  | 'b' => some '\x08'
  | 't' => some '\t'
  | 'n' => some '\n'
  | 'f' => some '\x0C'
  | 'r' => some '\r'
  | '"' => some '"'
  | '\\' => some '\\'
  | _ => none

/-- The escape after a backslash: its character and the text behind it. -/
def escape? : List Char → Option (Char × List Char)
  | 'u' :: rest =>
    if rest.length < 4 then none else (scalar? (rest.take 4)).map fun c => (c, rest.drop 4)
  | 'U' :: rest =>
    if rest.length < 8 then none else (scalar? (rest.take 8)).map fun c => (c, rest.drop 8)
  | c :: rest => (letter? c).map fun c => (c, rest)
  | [] => none

/-- The text behind a backslash that ends its line: blanks and line feeds are skipped. -/
def joined? (s : List Char) : Option (List Char) :=
  match s.dropWhile isBlank with
  | '\n' :: rest => some (rest.dropWhile fun c => isBlank c || c = '\n')
  | _ => none

/-- A backslash with a blank or a line feed behind it ends its line. -/
def endsLine : List Char → Bool
  | c :: _ => isBlank c || c = '\n'
  | [] => false

theorem joined_length {s rest : List Char} (h : joined? s = some rest) :
    rest.length < s.length := by
  unfold joined? at h
  split at h
  · rename_i more hs
    have h₁ := (List.dropWhile_suffix (l := s) isBlank).length_le
    have h₂ := (List.dropWhile_suffix (l := more) fun c => isBlank c || c = '\n').length_le
    rw [hs] at h₁
    simp only [Option.some.injEq] at h
    rw [← h]
    simp only [List.length_cons] at h₁
    omega
  · simp at h

theorem escape_length {s rest : List Char} {c : Char} (h : escape? s = some (c, rest)) :
    rest.length < s.length := by
  unfold escape? at h
  split at h
  · split at h
    · simp at h
    · obtain ⟨d, -, hd⟩ := Option.map_eq_some_iff.1 h
      simp only [Prod.mk.injEq] at hd
      rw [← hd.2, List.length_drop, List.length_cons]
      omega
  · split at h
    · simp at h
    · obtain ⟨d, -, hd⟩ := Option.map_eq_some_iff.1 h
      simp only [Prod.mk.injEq] at hd
      rw [← hd.2, List.length_drop, List.length_cons]
      omega
  · obtain ⟨d, -, hd⟩ := Option.map_eq_some_iff.1 h
    simp only [Prod.mk.injEq] at hd
    rw [← hd.2, List.length_cons]
    omega
  · simp at h

def keep (c : Char) (s : List Char × List Char) : List Char × List Char := (c :: s.1, s.2)

/-- The string up to its closing quotation marks, and the text behind them. -/
def basic? (multiline : Bool) (s : List Char) : Option (List Char × List Char) :=
  match s with
  | [] => none
  | '"' :: rest =>
    if !multiline then some ([], rest)
    else if rest.take 2 = ['"', '"'] then some ([], rest.drop 2)
    else (basic? multiline rest).map (keep '"')
  | '\\' :: rest =>
    if multiline && endsLine rest then
      match _ : joined? rest with
      | none => none
      | some more => basic? multiline more
    else
      match _ : escape? rest with
      | none => none
      | some (c, more) => (basic? multiline more).map (keep c)
  | c :: rest =>
    if isAllowed multiline c then (basic? multiline rest).map (keep c) else none
termination_by s.length
decreasing_by
  all_goals first
    | (simp only [List.length_cons]; omega)
    | (rename_i h; have := joined_length h; simp only [List.length_cons]; omega)
    | (rename_i h; have := escape_length h; simp only [List.length_cons]; omega)

/-- The string up to its closing apostrophes, and the text behind them. -/
def literal? (multiline : Bool) : List Char → Option (List Char × List Char)
  | [] => none
  | '\'' :: rest =>
    if !multiline then some ([], rest)
    else if rest.take 2 = ['\'', '\''] then some ([], rest.drop 2)
    else (literal? multiline rest).map (keep '\'')
  | c :: rest =>
    if isAllowed multiline c then (literal? multiline rest).map (keep c) else none

/-- Up to two marks that stand before the closing ones belong to the string. -/
def withMarks (mark : Char) (s : List Char × List Char) : List Char × List Char :=
  match s.2 with
  | a :: b :: rest =>
    if a = mark ∧ b = mark then (s.1 ++ [mark, mark], rest)
    else if a = mark then (s.1 ++ [mark], b :: rest)
    else s
  | [a] => if a = mark then (s.1 ++ [mark], []) else s
  | [] => s

/-- The text without the line feed at its head. -/
def withoutLineFeed : List Char → List Char
  | '\n' :: rest => rest
  | s => s

/-- The string of a text that starts with a mark of either kind, and the text behind it. -/
def read? (s : List Char) : Option (List Char × List Char) :=
  match s with
  | '"' :: '"' :: '"' :: rest => (basic? true (withoutLineFeed rest)).map (withMarks '"')
  | '"' :: rest => basic? false rest
  | '\'' :: '\'' :: '\'' :: rest =>
    (literal? true (withoutLineFeed rest)).map (withMarks '\'')
  | '\'' :: rest => literal? false rest
  | _ => none

/-- The string of a text that starts with a mark, on one line. -/
def readLine? : List Char → Option (List Char × List Char)
  | '"' :: rest => basic? false rest
  | '\'' :: rest => literal? false rest
  | _ => none

end OatImage.Toml.Quotation
