import OatImage.Terminal.Markup

/-!
# Escaped texts

An escaped text holds no tag: it is read as plain text, whatever stands before it and as long as
no bracket stands behind it. Between two escaped texts a tag may arise, as a bracket that opens in
the first one may close in the second.
-/
namespace OatImage.Markup

variable {c : Char} {text rest inner after : List Char}

/-! What is a tag. -/

theorem tag?_of_ne (h : c ≠ '[') (rest : List Char) : tag? (c :: rest) = none := by
  cases rest with
  | nil => rfl
  | cons d rest => simp only [tag?, h, decide_false, Bool.false_and, Bool.false_eq_true, if_false]

theorem upToClose_of_notMem (h : ']' ∉ text) : upToClose text = none := by
  induction text with
  | nil => rfl
  | cons c text ih =>
      rw [List.mem_cons, not_or] at h
      rw [upToClose, if_neg (Ne.symm h.1), ih h.2]
      split <;> rfl

/-- What is up to the closing bracket does not depend on what is behind it. -/
theorem upToClose_inner (h : upToClose text = some (inner, after)) (rest : List Char) :
    upToClose (inner ++ ']' :: rest) = some (inner, rest) := by
  induction text generalizing inner after with
  | nil => cases h
  | cons c text ih =>
      rw [upToClose] at h
      by_cases hclose : c = ']'
      · rw [if_pos hclose] at h
        cases h
        rfl
      by_cases hopen : c = '['
      · rw [if_neg hclose, if_pos hopen] at h
        cases h
      rw [if_neg hclose, if_neg hopen] at h
      obtain ⟨⟨inner', after'⟩, hrest, heq⟩ := Option.map_eq_some_iff.mp h
      cases heq
      rw [List.cons_append, upToClose, if_neg hclose, if_neg hopen, ih hrest]
      rfl

theorem tag?_inner (h : tag? text = some (inner, after)) (rest : List Char) :
    tag? ('[' :: (inner ++ ']' :: rest)) = some (inner, rest) := by
  unfold tag? at h
  split at h
  · rename_i bracket start text
    split at h
    · rename_i hstart
      rw [Bool.and_eq_true, decide_eq_true_eq] at hstart
      obtain ⟨⟨inner', after'⟩, hclose, heq⟩ := Option.map_eq_some_iff.mp h
      cases heq
      simp only [List.cons_append, tag?, decide_true, Bool.true_and, hstart.2, if_true,
        upToClose_inner hclose, Option.map_some]
    · cases h
  · cases h

/-! What is escaped. -/

theorem escapeTags_tag (h : tag? text = some (inner, after)) (pending : Nat) :
    escapeTags pending text =
      List.replicate (2 * pending + 1) '\\' ++ '[' :: (inner ++ ']' :: escapeTags 0 after) := by
  rw [escapeTags]
  split
  · rename_i inner' after' h'
    cases h.symm.trans h'
    rw [List.append_assoc, List.cons_append]
  · rename_i h'
    cases h.symm.trans h'

theorem escapeTags_nil (pending : Nat) : escapeTags pending [] = List.replicate pending '\\' := by
  rw [escapeTags]
  rfl

theorem escapeTags_backslash (pending : Nat) (rest : List Char) :
    escapeTags pending ('\\' :: rest) = escapeTags (pending + 1) rest := by
  rw [escapeTags]
  split
  · rename_i h
    rw [tag?_of_ne (by decide)] at h
    cases h
  · rfl

theorem escapeTags_cons (h : tag? (c :: rest) = none) (hc : c ≠ '\\') (pending : Nat) :
    escapeTags pending (c :: rest) = List.replicate pending '\\' ++ c :: escapeTags 0 rest := by
  rw [escapeTags]
  split
  · rename_i h'
    cases h.symm.trans h'
  · exact if_neg hc

/-- No bracket closes in an escaped text before one opens, unless that is so in the text itself. -/
theorem upToClose_replicate (n : Nat) (h : upToClose text = none) :
    upToClose (List.replicate n '\\' ++ text) = none := by
  induction n with
  | zero => exact h
  | succ n ih =>
      rw [List.replicate_succ, List.cons_append, upToClose, if_neg (by decide),
        if_neg (by decide), ih]
      rfl

theorem upToClose_open (text : List Char) : upToClose ('[' :: text) = none := by
  rw [upToClose, if_neg (by decide), if_pos rfl]

theorem upToClose_escapeTags (hrest : ']' ∉ rest) (pending : Nat) (text : List Char)
    (h : upToClose text = none) : upToClose (escapeTags pending text ++ rest) = none := by
  induction pending, text using escapeTags.induct with
  | case1 pending text inner after htag _ _ =>
      rw [escapeTags_tag htag, List.append_assoc]
      exact upToClose_replicate _ (upToClose_open _)
  | case2 pending _ =>
      rw [escapeTags_nil]
      exact upToClose_replicate _ (upToClose_of_notMem hrest)
  | case3 pending more _ ih =>
      rw [upToClose, if_neg (by decide), if_neg (by decide), Option.map_eq_none_iff] at h
      rw [escapeTags_backslash]
      exact ih h
  | case4 pending c more htag hc ih =>
      rw [escapeTags_cons htag hc, List.append_assoc, List.cons_append]
      apply upToClose_replicate
      by_cases hopen : c = '['
      · rw [hopen]
        exact upToClose_open _
      rw [upToClose] at h ⊢
      by_cases hclose : c = ']'
      · rw [if_pos hclose] at h
        cases h
      rw [if_neg hclose, if_neg hopen, Option.map_eq_none_iff] at h ⊢
      exact ih h

/-- Backslashes that are pending are written first. -/
theorem exists_escapeTags (pending : Nat) (text : List Char) :
    ∃ more, escapeTags (pending + 1) text = '\\' :: more := by
  generalize hn : pending + 1 = n
  have hpos : 0 < n := by omega
  clear hn
  induction n, text using escapeTags.induct with
  | case1 n text inner after htag _ _ =>
      rw [escapeTags_tag htag, List.replicate_succ]
      exact ⟨_, rfl⟩
  | case2 n _ =>
      obtain ⟨n, rfl⟩ := Nat.exists_eq_succ_of_ne_zero (Nat.ne_of_gt hpos)
      rw [escapeTags_nil, List.replicate_succ]
      exact ⟨_, rfl⟩
  | case3 n more _ ih =>
      rw [escapeTags_backslash]
      exact ih (Nat.succ_pos n)
  | case4 n c more htag hc _ =>
      obtain ⟨n, rfl⟩ := Nat.exists_eq_succ_of_ne_zero (Nat.ne_of_gt hpos)
      rw [escapeTags_cons htag hc, List.replicate_succ]
      exact ⟨_, rfl⟩

theorem tag?_open_eq_none_iff {d : Char} :
    tag? ('[' :: d :: text) = none ↔ isTagStart d = false ∨ upToClose text = none := by
  cases hstart : isTagStart d with
  | false => simp [tag?, hstart]
  | true => simp [tag?, hstart]

/-- Where no tag starts in a text none starts in the escaped text. -/
theorem tag?_cons_escapeTags (hrest : ']' ∉ rest) (h : tag? (c :: text) = none) :
    tag? (c :: (escapeTags 0 text ++ rest)) = none := by
  by_cases hopen : c = '['
  · subst hopen
    have hbackslash : ∀ more, tag? ('[' :: '\\' :: more) = none := fun more =>
      tag?_open_eq_none_iff.mpr (.inl (by decide))
    cases text with
    | nil =>
        rw [escapeTags_nil]
        cases rest with
        | nil => rfl
        | cons d rest =>
            rw [List.mem_cons, not_or] at hrest
            exact tag?_open_eq_none_iff.mpr (.inr (upToClose_of_notMem hrest.2))
    | cons d text =>
        cases htag : tag? (d :: text) with
        | some found =>
            rw [escapeTags_tag htag]
            exact hbackslash _
        | none =>
            by_cases hd : d = '\\'
            · obtain ⟨more, hmore⟩ := exists_escapeTags 0 text
              rw [hd, escapeTags_backslash, hmore]
              exact hbackslash _
            · have hnone := tag?_open_eq_none_iff.mp h
              rw [escapeTags_cons htag hd]
              exact tag?_open_eq_none_iff.mpr (hnone.imp_right (upToClose_escapeTags hrest 0 text))
  · exact tag?_of_ne hopen _

/-! How a text is read. -/

variable {before : List Char} {pending position : Nat}

theorem pieces_escaped_tag (h : tag? text = some (inner, after)) (hodd : pending % 2 = 1) :
    pieces before pending position text =
      plainThen before
        ((if (List.replicate (pending / 2) '\\').isEmpty then []
          else [.plain (List.replicate (pending / 2) '\\')]) ++
        .plain ('[' :: inner ++ [']']) :: pieces [] 0 (position + inner.length + 2) after) := by
  rw [pieces]
  split
  · rename_i inner' after' h'
    cases h.symm.trans h'
    exact if_pos hodd
  · rename_i h'
    cases h.symm.trans h'

theorem pieces_tag (h : tag? text = some (inner, after)) :
    pieces before 0 position text =
      plainThen before
        (.tag inner position :: pieces [] 0 (position + inner.length + 2) after) := by
  rw [pieces]
  split
  · rename_i inner' after' h'
    cases h.symm.trans h'
    rfl
  · rename_i h'
    cases h.symm.trans h'

theorem pieces_nil : pieces before pending position [] =
    plainThen (List.replicate pending '\\' ++ before) [] := by
  rw [pieces]
  rfl

theorem pieces_backslash : pieces before pending position ('\\' :: rest) =
    pieces before (pending + 1) (position + 1) rest := by
  rw [pieces]
  split
  · rename_i h
    rw [tag?_of_ne (by decide)] at h
    cases h
  · rfl

theorem pieces_cons (h : tag? (c :: rest) = none) (hc : c ≠ '\\') :
    pieces before pending position (c :: rest) =
      pieces (c :: List.replicate pending '\\' ++ before) 0 (position + 1) rest := by
  rw [pieces]
  split
  · rename_i h'
    cases h.symm.trans h'
  · exact if_neg hc

theorem pieces_replicate (n : Nat) :
    pieces before pending position (List.replicate n '\\' ++ rest) =
      pieces before (pending + n) (position + n) rest := by
  induction n generalizing pending position with
  | zero => rfl
  | succ n ih =>
      rw [List.replicate_succ, List.cons_append, pieces_backslash, ih, Nat.add_right_comm,
        Nat.add_right_comm position, Nat.add_assoc, Nat.add_assoc]

/-- No piece is a tag. -/
def ArePlain (ps : List Piece) : Prop := ∀ p ∈ ps, ∃ text, p = .plain text

theorem ArePlain.cons {ps : List Piece} (h : ArePlain ps) (text : List Char) :
    ArePlain (.plain text :: ps) := by
  intro p hp
  rcases List.mem_cons.mp hp with rfl | hp
  · exact ⟨text, rfl⟩
  · exact h p hp

theorem ArePlain.plainThen {ps : List Piece} (h : ArePlain ps) (reversed : List Char) :
    ArePlain (plainThen reversed ps) := by
  unfold Markup.plainThen
  split
  · exact h
  · exact h.cons _

theorem arePlain_of_notMem (h : '[' ∉ text) : ArePlain (pieces before pending position text) := by
  induction text generalizing before pending position with
  | nil =>
      rw [pieces_nil]
      exact ArePlain.plainThen (fun _ hp => absurd hp List.not_mem_nil) _
  | cons c text ih =>
      rw [List.mem_cons, not_or] at h
      by_cases hc : c = '\\'
      · rw [hc, pieces_backslash]
        exact ih h.2
      · rw [pieces_cons (tag?_of_ne (Ne.symm h.1) _) hc]
        exact ih h.2

/-- An escaped text is read without a tag. -/
theorem arePlain_escapeTags (hopen : '[' ∉ rest) (hclose : ']' ∉ rest) (n : Nat)
    (text : List Char) : ArePlain (pieces before 0 position (escapeTags n text ++ rest)) := by
  induction n, text using escapeTags.induct generalizing before position with
  | case1 n text inner after htag _ ih =>
      have hodd : (0 + (2 * n + 1)) % 2 = 1 := by omega
      rw [escapeTags_tag htag, List.append_assoc, pieces_replicate, List.cons_append,
        List.append_assoc, List.cons_append, pieces_escaped_tag (tag?_inner htag _) hodd]
      apply ArePlain.plainThen
      split
      · exact ih.cons _
      · exact (ih.cons _).cons _
  | case2 n _ =>
      rw [escapeTags_nil, pieces_replicate]
      exact arePlain_of_notMem hopen
  | case3 n more _ ih =>
      rw [escapeTags_backslash]
      exact ih
  | case4 n c more htag hc ih =>
      rw [escapeTags_cons htag hc, List.append_assoc, List.cons_append, pieces_replicate,
        pieces_cons (tag?_cons_escapeTags hclose htag) hc]
      exact ih

/-- Plain text is put in front of what is read last. -/
theorem pieces_append (hopen : '[' ∉ text) (hslash : '\\' ∉ text) :
    pieces before 0 position (text ++ rest) =
      pieces (text.reverse ++ before) 0 (position + text.length) rest := by
  induction text generalizing before position with
  | nil => rfl
  | cons c text ih =>
      rw [List.mem_cons, not_or] at hopen hslash
      rw [List.cons_append, pieces_cons (tag?_of_ne (Ne.symm hopen.1) _) (Ne.symm hslash.1),
        ih hopen.2 hslash.2, List.reverse_cons, List.append_assoc, List.length_cons,
        Nat.add_right_comm, Nat.add_assoc]
      rfl

theorem exists_doubleLast (text : List Char) :
    ∃ extra, (extra = [] ∨ extra = ['\\']) ∧ doubleLast text = text ++ extra := by
  unfold doubleLast
  split
  · exact ⟨[], .inl rfl, (List.append_nil text).symm⟩
  · exact ⟨_, .inr rfl, rfl⟩
  · exact ⟨[], .inl rfl, (List.append_nil text).symm⟩

/-- An escaped text in front of a text without brackets holds no tag. -/
theorem arePlain_escape (s : String) (hopen : '[' ∉ rest) (hclose : ']' ∉ rest) :
    ArePlain (pieces before 0 position ((escape s).toList ++ rest)) := by
  obtain ⟨extra, hextra, hdouble⟩ := exists_doubleLast (escapeTags 0 s.toList)
  rw [escape, String.toList_ofList, hdouble, List.append_assoc]
  apply arePlain_escapeTags
  · rcases hextra with rfl | rfl
    · exact hopen
    · simpa using hopen
  · rcases hextra with rfl | rfl
    · exact hclose
    · simpa using hclose

end OatImage.Markup
