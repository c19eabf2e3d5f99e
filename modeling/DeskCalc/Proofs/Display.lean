import DeskCalc.Display
import Mathlib.Tactic.Common

namespace DeskCalc

theorem Transcript.at?_natCast (t : Transcript) (n : Nat) : t.at? n = t.cells[n]? := by
  have hn : ¬ (n : Int) < 0 := by omega
  simp only [at?, if_neg hn, Int.toNat_natCast]

namespace Display

/-- The text of cells without hints, where the first of them has the index `n`. -/
def cellsText (n : Nat) : List Cell → String
  | [] => ""
  | c :: cs => cell n false false c ++ cellsText (n + 1) cs

theorem cellsText_append (n : Nat) (cs ds : List Cell) :
    cellsText n (cs ++ ds) = cellsText n cs ++ cellsText (n + cs.length) ds := by
  induction cs generalizing n with
  | nil => simp [cellsText]
  | cons c cs ih =>
    have hn : n + 1 + cs.length = n + (cs.length + 1) := by omega
    rw [List.cons_append, cellsText, ih, cellsText, List.length_cons, hn, String.append_assoc]

theorem cell_no_hints (index : Int) (active : Bool) (c : Cell) :
    cell index active false c = cell index false false c := by
  cases c with
  | input text => simp [cell]
  | output | error | message => rfl

/-- A stretch of a transcript is shown as the text of its cells, one after the other, each with its
index. -/
theorem cellsFrom_eq {t : Transcript} {n : Nat} {cs rest : List Cell}
    (h : t.cells.drop n = cs ++ rest) :
    cellsFrom t false n cs.length = .ok (cellsText n cs) := by
  induction cs generalizing n with
  | nil => rfl
  | cons c cs ih =>
    have hc : t.cells[n]? = some c := by
      rw [← List.head?_drop, h]
      rfl
    have hrest : t.cells.drop (n + 1) = cs ++ rest := by
      rw [← List.tail_drop, h]
      rfl
    rw [List.length_cons, cellsFrom, t.at?_natCast, hc]
    have hnext : cellsFrom t false ((n : Int) + 1) cs.length = .ok (cellsText (n + 1) cs) :=
      ih hrest
    simp only [hnext, cell_no_hints]
    rfl

/-- The cells from `m` on and before `n`, all of which are there, can be shown. -/
theorem transcript_eq {t : Transcript} {m n : Nat} (hmn : m ≤ n) (hn : n ≤ t.cells.length)
    (hne : t.cells ≠ []) :
    transcript t m (some (n : Int)) false = .ok (cellsText m ((t.cells.take n).drop m)) := by
  have hcount : ((n : Int) - m).toNat = ((t.cells.take n).drop m).length := by
    simp only [List.length_drop, List.length_take]
    omega
  have hsplit : t.cells.drop m = (t.cells.take n).drop m ++ t.cells.drop n := by
    rw [← List.drop_append_of_le_length (by rw [List.length_take]; omega), List.take_append_drop]
  rw [transcript, if_neg hne]
  simp only [Option.getD_some, hcount]
  exact cellsFrom_eq hsplit

theorem cellsFrom_ok {t : Transcript} (hints : Bool) {n count : Nat}
    (h : n + count ≤ t.cells.length) : ∃ shown, cellsFrom t hints n count = .ok shown := by
  induction count generalizing n with
  | zero => exact ⟨"", rfl⟩
  | succ count ih =>
    have hn : n < t.cells.length := by omega
    have hcell : t.at? n = some t.cells[n] := by rw [t.at?_natCast, List.getElem?_eq_getElem hn]
    have hlater : n + 1 + count ≤ t.cells.length := by omega
    obtain ⟨rest, hrest⟩ : ∃ shown, cellsFrom t hints ((n : Int) + 1) count = .ok shown :=
      ih hlater
    simp only [cellsFrom, hcell, hrest]
    exact ⟨_, rfl⟩

/-- What is shown of a transcript is there, if it stops where the transcript does or before. -/
theorem transcript_ok (t : Transcript) (m : Nat) (stop : Option Nat) (hints : Bool)
    (h : ∀ n, stop = some n → n ≤ t.cells.length) :
    ∃ shown, transcript t m (stop.map Int.ofNat) hints = .ok shown := by
  by_cases hne : t.cells = []
  · exact ⟨_, by rw [transcript, if_pos hne]⟩
  have hstop : ∃ n : Nat, (stop.map Int.ofNat).getD t.cells.length = (n : Int) ∧
      n ≤ t.cells.length := by
    cases stop with
    | none => exact ⟨_, rfl, Nat.le_refl _⟩
    | some n => exact ⟨n, rfl, h n rfl⟩
  obtain ⟨n, hn, hle⟩ := hstop
  rw [transcript, if_neg hne]
  simp only [hn]
  by_cases hmn : m ≤ n
  · exact cellsFrom_ok hints (by omega)
  · have hcount : ((n : Int) - m).toNat = 0 := by omega
    rw [hcount]
    exact ⟨"", rfl⟩

/-- What has been shown before and what is shown now make the text of all. -/
theorem cellsText_take_drop (cs : List Cell) {m n : Nat} (hmn : m ≤ n) (hm : m ≤ cs.length) :
    cellsText 0 (cs.take m) ++ cellsText m ((cs.take n).drop m) = cellsText 0 (cs.take n) := by
  have htake : (cs.take n).take m = cs.take m := by rw [List.take_take, Nat.min_eq_left hmn]
  have hlen : 0 + (cs.take m).length = m := by
    rw [List.length_take]
    omega
  calc
    _ = cellsText 0 (cs.take m ++ (cs.take n).drop m) := by rw [cellsText_append, hlen]
    _ = _ := by rw [← htake, List.take_append_drop]

end Display

end DeskCalc
