import OatImage.Text.LetterCase

/-!
# Texts in one case

A name in the capitals A to Z is its own upper case, and one in the letters a to z its own lower
case: the runs and the lists of letters that change hold none of these letters.
-/
namespace OatImage.LetterCase

theorem change?_eq (runs : Array Run) (n : Nat) :
    change? runs n = (runs.toList.find? fun (first, last, step, _) =>
      first ≤ n && n ≤ last && (n - first) % step = 0).map fun (_, _, _, change) => change := by
  rw [change?, ← Array.find?_toList]

theorem changed_eq_self {runs : Array Run} {n : Nat} (h : change? runs n = none) :
    changed runs n = n := by
  rw [changed, h]

theorem map_ofNat_toNat (s : String) :
    String.ofList ((s.toList.map Char.toNat).map Char.ofNat) = s := by
  rw [List.map_map]
  have hid : Char.ofNat ∘ Char.toNat = id := funext Char.ofNat_toNat
  rw [hid, List.map_id, String.ofList_toList]

theorem change?_eq_none {runs : Array Run} {n : Nat}
    (h : ∀ r ∈ runs.toList, n < r.1 ∨ r.2.1 < n) : change? runs n = none := by
  rw [change?_eq, Option.map_eq_none_iff, List.find?_eq_none]
  rintro ⟨first, last, step, change⟩ hr
  have hout : n < first ∨ last < n := h _ hr
  simp only [Bool.and_eq_true, decide_eq_true_eq]
  omega

/-! The letters A to Z and a to z stand before, between and behind the runs that change them. -/

section
set_option maxRecDepth 2000

theorem titleRuns_behind : ∀ r ∈ titleRuns.toList, 90 < r.1 := by decide

theorem titleLists_behind : ∀ p ∈ titleLists.toList, 90 < p.1 := by decide

theorem lowerRuns_around : ∀ r ∈ lowerRuns.toList, 122 < r.1 ∨ 46 < r.1 ∧ r.2.1 < 97 := by
  decide

end

theorem title_of_capital {n : Nat} (h : 65 ≤ n ∧ n ≤ 90) : title n = [n] := by
  have hchange : change? titleRuns n = none := by
    apply change?_eq_none
    intro r hr
    have hbehind := titleRuns_behind r hr
    omega
  have hseveral : titleLists.find? (fun p => p.1 == n) = none := by
    rw [← Array.find?_toList, List.find?_eq_none]
    intro p hp
    have hbehind := titleLists_behind p hp
    rw [beq_iff_eq]
    omega
  rw [title, hseveral, changed_eq_self hchange]

theorem capital_of_capital {n : Nat} (h : 65 ≤ n ∧ n ≤ 90) : capital n = [n] := by
  unfold capital
  rw [if_neg, if_neg, if_neg, if_neg, if_neg, if_neg, title_of_capital h]
  all_goals try simp only [Bool.or_eq_true, Bool.and_eq_true, decide_eq_true_eq, List.mem_cons,
    List.not_mem_nil, or_false]
  all_goals omega

/-- A text in the capitals A to Z is its own upper case. -/
theorem upper_of_capitals {s : String} (h : ∀ c ∈ s.toList, 65 ≤ c.toNat ∧ c.toNat ≤ 90) :
    upper s = s := by
  have hpoints : ∀ c ∈ s.toList, (title c.toNat).flatMap capital = [c.toNat] := by
    intro c hc
    rw [title_of_capital (h c hc), List.flatMap_singleton, capital_of_capital (h c hc)]
  rw [upper, List.flatMap_def, List.map_congr_left hpoints, ← List.flatMap_def,
    ← List.map_eq_flatMap]
  exact map_ofNat_toNat s

theorem lowerBehind_of_small (ns : List Nat) (h : ∀ n ∈ ns, n = 46 ∨ 97 ≤ n ∧ n ≤ 122)
    (before : List Nat) : lowerBehind before ns = ns := by
  induction ns generalizing before with
  | nil => rfl
  | cons n rest ih =>
      have hn := h n List.mem_cons_self
      have hchange : change? lowerRuns n = none := by
        apply change?_eq_none
        intro r hr
        have haround := lowerRuns_around r hr
        omega
      rw [lowerBehind, lowerPoint, if_neg (by omega), if_neg (by omega),
        changed_eq_self hchange, ih fun m hm => h m (List.mem_cons_of_mem n hm)]
      rfl

/-- A text in the letters a to z and full stops is its own lower case. -/
theorem lower_of_small {s : String}
    (h : ∀ c ∈ s.toList, c.toNat = 46 ∨ 97 ≤ c.toNat ∧ c.toNat ≤ 122) : lower s = s := by
  rw [lower, lowerBehind_of_small]
  · exact map_ofNat_toNat s
  · intro n hn
    obtain ⟨c, hc, rfl⟩ := List.mem_map.mp hn
    exact h c hc

end OatImage.LetterCase
