import DeskCalc.Transcript
import Mathlib.Tactic.Common

namespace DeskCalc

namespace Transcript

theorem extend_cells (t : Transcript) (batch : List Cell) :
    (t.extend batch).cells = t.cells ++ batch := by
  unfold extend
  split
  · rename_i h
    rw [h, List.append_nil]
  · rfl

theorem foldl_append_cells (t : Transcript) (cs : List Cell) :
    (cs.foldl append t).cells = t.cells ++ cs := by
  induction cs generalizing t with
  | nil => exact (List.append_nil _).symm
  | cons c cs ih =>
    have hc : (t.append c).cells = t.cells ++ [c] := rfl
    rw [List.foldl_cons, ih, hc, List.append_assoc, List.singleton_append]

/-- An update overwrites the active cell, and is refused where there is none. -/
theorem update?_eq_some_iff {t u : Transcript} {text : String} :
    t.update? text = some u ↔
      ∃ i, t.activeIndex = some i ∧ u = { t with cells := t.cells.set i (.input text) } := by
  rw [update?, Option.map_eq_some_iff]
  constructor
  · rintro ⟨i, hi, rfl⟩
    exact ⟨i, hi, rfl⟩
  · rintro ⟨i, hi, rfl⟩
    exact ⟨i, hi, rfl⟩

theorem active?_eq_some_iff {t : Transcript} {text : String} :
    t.active? = some text ↔ ∃ i, t.activeIndex = some i ∧ t.cells[i]? = some (.input text) := by
  constructor
  · intro h
    obtain ⟨i, hi, h⟩ := Option.bind_eq_some_iff.mp h
    obtain ⟨c, hc, h⟩ := Option.bind_eq_some_iff.mp h
    refine ⟨i, hi, ?_⟩
    cases c with
    | input text' => rw [hc, Option.some.inj h]
    | _ => simp [Cell.inputText?] at h
  · rintro ⟨i, hi, hc⟩
    simp [active?, hi, hc, Cell.inputText?]

theorem active?_update? {t u : Transcript} {old text : String} (ha : t.active? = some old)
    (hu : t.update? text = some u) : u.active? = some text := by
  obtain ⟨i, hi, hc⟩ := active?_eq_some_iff.mp ha
  obtain ⟨j, hj, rfl⟩ := update?_eq_some_iff.mp hu
  obtain rfl : i = j := Option.some.inj (hi.symm.trans hj)
  have hlt : i < t.cells.length := (List.getElem?_eq_some_iff.mp hc).1
  exact active?_eq_some_iff.mpr ⟨i, hj, by simp [hlt]⟩

/-- The text of an active cell can be replaced. -/
theorem update?_active {t : Transcript} {old : String} (h : t.active? = some old) (new : String) :
    ∃ u, t.update? new = some u ∧ u.active? = some new ∧ u.generation = t.generation := by
  obtain ⟨i, hi, -⟩ := active?_eq_some_iff.mp h
  have hu : t.update? new = some { t with cells := t.cells.set i (.input new) } :=
    update?_eq_some_iff.mpr ⟨i, hi, rfl⟩
  exact ⟨_, hu, active?_update? h hu, rfl⟩

/-- No cell is an input cell, and none is active. -/
structure Closed (t : Transcript) : Prop where
  noInput : ∀ c ∈ t.cells, c.isInput = false
  inactive : t.activeIndex = none

/-- The last cell is an input cell, with the given text, and it is the active one. -/
structure Open (t : Transcript) (text : String) : Prop where
  last : t.cells.getLast? = some (.input text)
  active : t.activeIndex = some (t.cells.length - 1)

theorem empty_closed : empty.Closed := ⟨by simp [empty], rfl⟩

theorem Closed.active? {t : Transcript} (h : t.Closed) : t.active? = none := by
  simp [Transcript.active?, h.inactive]

theorem Closed.append {t : Transcript} {c : Cell} (h : t.Closed) (hc : c.isInput = false) :
    (t.append c).Closed := by
  constructor
  · intro d hd
    rcases List.mem_append.mp hd with hd | hd
    · exact h.noInput d hd
    · rw [List.mem_singleton.mp hd, hc]
  · simp [Transcript.append, refresh, lastInput, hc]

theorem Closed.foldl_append {t : Transcript} {cs : List Cell} (h : t.Closed)
    (hcs : ∀ c ∈ cs, c.isInput = false) : (cs.foldl Transcript.append t).Closed := by
  induction cs generalizing t with
  | nil => exact h
  | cons c cs ih =>
    exact ih (h.append (hcs c (by simp))) (fun d hd => hcs d (by simp [hd]))

theorem refresh_open (t : Transcript) (cs : List Cell) (text : String) :
    (t.refresh (cs ++ [.input text])).Open text := by
  constructor
  · simp [refresh]
  · simp [refresh, lastInput, Cell.isInput]

theorem append_open (t : Transcript) (text : String) : (t.append (.input text)).Open text :=
  refresh_open t t.cells text

/-- A batch that ends in an input opens the transcript, or moves the active cell on. -/
theorem extend_open (t : Transcript) (cs : List Cell) (text : String) :
    (t.extend (cs ++ [.input text])).Open text := by
  rw [extend, if_neg (by simp), ← List.append_assoc]
  exact refresh_open t (t.cells ++ cs) text

theorem Open.nonempty {t : Transcript} {text : String} (h : t.Open text) : 0 < t.cells.length := by
  have hne : t.cells ≠ [] := by
    intro hn
    simpa [hn] using h.last
  exact List.length_pos_iff.mpr hne

theorem Open.active? {t : Transcript} {text : String} (h : t.Open text) :
    t.active? = some text := by
  rw [active?_eq_some_iff]
  exact ⟨_, h.active, by rw [← List.getLast?_eq_getElem?, h.last]⟩

theorem Open.update? {t u : Transcript} {old text : String} (h : t.Open old)
    (hu : t.update? text = some u) : u.Open text := by
  obtain ⟨i, hi, rfl⟩ := update?_eq_some_iff.mp hu
  obtain rfl : t.cells.length - 1 = i := Option.some.inj (h.active.symm.trans hi)
  have hpos := h.nonempty
  constructor
  · rw [List.getLast?_eq_getElem?, List.length_set]
    exact List.getElem?_set_self (by omega)
  · simpa using h.active

end Transcript

end DeskCalc
