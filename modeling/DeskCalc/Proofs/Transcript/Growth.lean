import DeskCalc.Proofs.Transcript

namespace DeskCalc.Transcript

/-- The second transcript is what the first may have become. -/
structure Grows (t u : Transcript) : Prop where
  length : t.cells.length ≤ u.cells.length
  kept : ∀ i : Nat, i < t.cells.length → t.activeIndex ≠ some i → u.cells[i]? = t.cells[i]?
  input : ∀ (i : Nat) (text : String), t.cells[i]? = some (.input text) →
    ∃ new, u.cells[i]? = some (.input new)
  moved : ∀ i, u.activeIndex = some i → t.activeIndex = some i ∨ t.cells.length ≤ i

variable {t u v : Transcript}

theorem Grows.refl (t : Transcript) : Grows t t :=
  ⟨Nat.le_refl _, fun _ _ _ => rfl, fun _ text h => ⟨text, h⟩, fun _ h => .inl h⟩

/-- A cell that is not active now cannot have become active in between. -/
theorem Grows.trans (h : Grows t u) (k : Grows u v) : Grows t v := by
  refine ⟨Nat.le_trans h.length k.length, ?_, ?_, ?_⟩
  · intro i hi ha
    have hu : u.activeIndex ≠ some i := by
      intro hu
      rcases h.moved i hu with ht | ht
      · exact ha ht
      · omega
    rw [k.kept i (Nat.lt_of_lt_of_le hi h.length) hu, h.kept i hi ha]
  · intro i text ht
    obtain ⟨new, hu⟩ := h.input i text ht
    exact k.input i new hu
  · intro i hv
    rcases k.moved i hv with hu | hu
    · exact h.moved i hu
    · exact .inr (Nat.le_trans h.length hu)

theorem lastInput_eq_some_iff {cells : List Cell} {i : Nat} :
    lastInput cells = some i ↔
      i = cells.length - 1 ∧ ∃ text, cells.getLast? = some (.input text) := by
  unfold lastInput
  constructor
  · intro h
    split at h
    · rename_i hany
      obtain ⟨c, hc, hinput⟩ := (Option.any_eq_true _ _).mp hany
      cases c with
      | input text => exact ⟨(Option.some.inj h).symm, text, hc⟩
      | output | message | error => cases hinput
    · cases h
  · rintro ⟨rfl, text, hlast⟩
    rw [hlast]
    rfl

theorem grows_refresh (t : Transcript) {batch : List Cell} (hb : batch ≠ []) :
    Grows t (t.refresh (t.cells ++ batch)) := by
  have hpos : 0 < batch.length := List.length_pos_iff.mpr hb
  refine ⟨by simp [refresh], ?_, ?_, ?_⟩
  · intro i hi _
    exact List.getElem?_append_left hi
  · intro i text ht
    have hi : i < t.cells.length := (List.getElem?_eq_some_iff.mp ht).1
    exact ⟨text, (List.getElem?_append_left hi).trans ht⟩
  · intro i hi
    have hlast : i = (t.cells ++ batch).length - 1 := (lastInput_eq_some_iff.mp hi).1
    rw [List.length_append] at hlast
    exact .inr (by omega)

theorem grows_append (t : Transcript) (c : Cell) : Grows t (t.append c) :=
  grows_refresh t (List.cons_ne_nil c [])

theorem grows_foldl_append (t : Transcript) (cs : List Cell) :
    Grows t (cs.foldl Transcript.append t) := by
  induction cs generalizing t with
  | nil => exact .refl t
  | cons c cs ih => exact (grows_append t c).trans (ih (t.append c))

theorem grows_extend (t : Transcript) (batch : List Cell) : Grows t (t.extend batch) := by
  unfold extend
  split
  · exact .refl t
  · rename_i hb
    exact grows_refresh t hb

/-- Editing writes into the active cell alone. -/
theorem grows_update? {text : String} (h : t.update? text = some u) : Grows t u := by
  obtain ⟨a, ha, rfl⟩ := update?_eq_some_iff.mp h
  refine ⟨by simp, ?_, ?_, fun i hi => .inl hi⟩
  · intro i _ hne
    have hai : a ≠ i := by
      intro hai
      exact hne (hai ▸ ha)
    exact List.getElem?_set_ne hai
  · intro i old hold
    by_cases hai : a = i
    · have hi : i < t.cells.length := (List.getElem?_eq_some_iff.mp hold).1
      subst hai
      exact ⟨text, List.getElem?_set_self hi⟩
    · exact ⟨old, (List.getElem?_set_ne hai).trans hold⟩

end DeskCalc.Transcript
