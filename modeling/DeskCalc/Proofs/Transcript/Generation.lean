import DeskCalc.Proofs.Transcript.Growth
import Mathlib.Data.List.Induction

namespace DeskCalc.Transcript

variable {t u v : Transcript} {i : Nat}

theorem generation_refresh (t : Transcript) (cells : List Cell) :
    (t.refresh cells).generation =
      if lastInput cells = t.activeIndex then t.generation else t.generation + 1 :=
  rfl

theorem generation_le_refresh (t : Transcript) (cells : List Cell) :
    t.generation ≤ (t.refresh cells).generation := by
  rw [generation_refresh]
  split <;> omega

theorem generation_le_append (t : Transcript) (c : Cell) :
    t.generation ≤ (t.append c).generation :=
  generation_le_refresh t _

theorem generation_le_foldl_append (t : Transcript) (cs : List Cell) :
    t.generation ≤ (cs.foldl append t).generation := by
  induction cs generalizing t with
  | nil => exact Nat.le_refl _
  | cons c cs ih => exact Nat.le_trans (generation_le_append t c) (ih (t.append c))

theorem generation_le_extend (t : Transcript) (batch : List Cell) :
    t.generation ≤ (t.extend batch).generation := by
  unfold extend
  split
  · exact Nat.le_refl _
  · exact generation_le_refresh t _

theorem generation_update? {text : String} (h : t.update? text = some u) :
    u.generation = t.generation := by
  obtain ⟨i, -, rfl⟩ := update?_eq_some_iff.mp h
  rfl

/-- What a transcript can be asked to do. -/
inductive Change
  | append (c : Cell)
  | extend (batch : List Cell)
  | update (text : String)

/-- The transcript after a change. A text for an active cell that is not there is refused, which
leaves it as it was. -/
def changed (t : Transcript) : Change → Transcript
  | .append c => t.append c
  | .extend batch => t.extend batch
  | .update text => (t.update? text).getD t

/-- What becomes of the empty transcript. -/
def grown (changes : List Change) : Transcript := changes.foldl changed empty

theorem grown_snoc (changes : List Change) (c : Change) :
    grown (changes ++ [c]) = (grown changes).changed c := by
  simp [grown]

/-- A change adds cells and finds the active one anew, or replaces the text of the active cell, or
does nothing at all. -/
theorem changed_cases (t : Transcript) (c : Change) :
    (∃ batch, batch ≠ [] ∧ t.changed c = t.refresh (t.cells ++ batch)) ∨
    (∃ text, t.update? text = some (t.changed c)) ∨ t.changed c = t := by
  cases c with
  | append c => exact .inl ⟨[c], by simp, rfl⟩
  | extend batch =>
    by_cases hb : batch = []
    · exact .inr (.inr (if_pos hb))
    · exact .inl ⟨batch, hb, if_neg hb⟩
  | update text =>
    cases hu : t.update? text with
    | none => exact .inr (.inr (by simp [changed, hu]))
    | some u => exact .inr (.inl ⟨text, by simp [changed, hu]⟩)

/-- The index kept beside the cells is the one that the cells give. -/
def Found (t : Transcript) : Prop := t.activeIndex = lastInput t.cells

theorem empty_found : empty.Found := rfl

/-- What is kept beside the cells is what would be found among them. -/
theorem Found.activeIndex_eq (h : t.Found) :
    t.activeIndex = match t.cells.getLast? with
      | some (.input _) => some (t.cells.length - 1)
      | _ => none := by
  rw [h, lastInput]
  cases t.cells.getLast? with
  | none => rfl
  | some c => cases c <;> rfl

theorem Open.found {text : String} (h : t.Open text) : t.Found := by
  rw [Found, h.active, lastInput, h.last]
  rfl

/-- A cell can only be active as the last one. -/
theorem Found.isOpen (h : t.Found) (hi : t.activeIndex = some i) : ∃ text, t.Open text := by
  obtain ⟨hindex, text, hlast⟩ := lastInput_eq_some_iff.mp (h.symm.trans hi)
  exact ⟨text, hlast, hindex ▸ hi⟩

theorem Found.lt_length (h : t.Found) (hi : t.activeIndex = some i) : i < t.cells.length := by
  obtain ⟨text, hopen⟩ := h.isOpen hi
  have hlast : t.cells.length - 1 = i := Option.some.inj (hopen.active.symm.trans hi)
  have hpos := hopen.nonempty
  omega

/-- Each change seeks the active cell anew, or leaves it alone. -/
theorem Found.changed (h : t.Found) (c : Change) : (t.changed c).Found := by
  rcases t.changed_cases c with ⟨batch, -, hc⟩ | ⟨text, hu⟩ | hc
  · rw [hc]
    rfl
  · obtain ⟨i, hi, -⟩ := update?_eq_some_iff.mp hu
    obtain ⟨old, hopen⟩ := h.isOpen hi
    exact (hopen.update? hu).found
  · rwa [hc]

theorem grown_found (changes : List Change) : (grown changes).Found := by
  induction changes using List.reverseRecOn with
  | nil => exact empty_found
  | append_singleton changes c ih =>
    rw [grown_snoc]
    exact ih.changed c

/-- The second transcript is what the first may have become, and its generation tells whether the
active cell has changed in between. -/
structure Counts (t u : Transcript) : Prop extends Grows t u where
  mono : t.generation ≤ u.generation
  same : u.generation = t.generation → u.activeIndex = t.activeIndex
  lasting : ∀ i, t.activeIndex = some i → u.activeIndex = some i → u.generation = t.generation

theorem Counts.refl (t : Transcript) : Counts t t :=
  ⟨.refl t, Nat.le_refl _, fun _ => rfl, fun _ _ _ => rfl⟩

/-- A cell that was active before, and is now, has been active all the time. -/
theorem Counts.trans (ht : t.Found) (h : Counts t u) (k : Counts u v) : Counts t v := by
  have hmono := h.mono
  have kmono := k.mono
  refine ⟨h.toGrows.trans k.toGrows, Nat.le_trans hmono kmono, ?_, ?_⟩
  · intro hgen
    have hu : u.generation = t.generation := by omega
    have hv : v.generation = u.generation := by omega
    rw [k.same hv, h.same hu]
  · intro i hi hv
    have hu : u.activeIndex = some i := by
      rcases k.moved i hv with hu | hu
      · exact hu
      · have hlt := ht.lt_length hi
        have hlen := h.length
        omega
    rw [k.lasting i hu hv, h.lasting i hi hu]

theorem counts_refresh (t : Transcript) {batch : List Cell} (hb : batch ≠ []) :
    Counts t (t.refresh (t.cells ++ batch)) := by
  refine ⟨grows_refresh t hb, generation_le_refresh t _, ?_, ?_⟩
  · intro hgen
    rw [generation_refresh] at hgen
    split at hgen
    · assumption
    · omega
  · intro i hi hu
    rw [generation_refresh]
    exact if_pos (hu.trans hi.symm)

theorem counts_changed (t : Transcript) (c : Change) : Counts t (t.changed c) := by
  rcases t.changed_cases c with ⟨batch, hb, hc⟩ | ⟨text, hu⟩ | hc
  · rw [hc]
    exact counts_refresh t hb
  · have hgrows := grows_update? hu
    obtain ⟨i, -, hc⟩ := update?_eq_some_iff.mp hu
    rw [hc] at hgrows ⊢
    exact ⟨hgrows, Nat.le_refl _, fun _ => rfl, fun _ _ _ => rfl⟩
  · rw [hc]
    exact .refl t

theorem generation_changed_le (t : Transcript) (c : Change) :
    (t.changed c).generation ≤ t.generation + 1 := by
  rcases t.changed_cases c with ⟨batch, -, hc⟩ | ⟨text, hu⟩ | hc
  · rw [hc, generation_refresh]
    split <;> omega
  · rw [generation_update? hu]
    exact Nat.le_succ _
  · rw [hc]
    exact Nat.le_succ _

theorem counts_grown (earlier later : List Change) :
    Counts (grown earlier) (grown (earlier ++ later)) := by
  induction later using List.reverseRecOn with
  | nil =>
    rw [List.append_nil]
    exact .refl _
  | append_singleton later c ih =>
    rw [← List.append_assoc, grown_snoc]
    exact ih.trans (grown_found earlier) (counts_changed _ c)

/-- Of two moments, the one after fewer changes comes first. -/
theorem counts_take (changes : List Change) {i j : Nat} (h : i ≤ j) :
    Counts (grown (changes.take i)) (grown (changes.take j)) := by
  have hcut := List.take_append_drop i (changes.take j)
  rw [List.take_take, Nat.min_eq_left h] at hcut
  rw [← hcut]
  exact counts_grown _ _

/-- The active index and the generation change together; only where no cell is active at either
moment can the generation have gone on and the index be the same. -/
theorem Counts.activeIndex_eq_iff (h : Counts t u) :
    t.activeIndex = u.activeIndex ↔
      t.generation = u.generation ∨ (t.activeIndex = none ∧ u.activeIndex = none) := by
  constructor
  · intro he
    cases hi : t.activeIndex with
    | none => exact .inr ⟨rfl, he.symm.trans hi⟩
    | some i => exact .inl (h.lasting i hi (he.symm.trans hi)).symm
  · rintro (hgen | ⟨ht, hu⟩)
    · exact (h.same hgen.symm).symm
    · rw [ht, hu]

/-- Whatever is done to a transcript that was empty, its last cell is the active one if that is an
input cell, and none is active otherwise. The generation never goes back, and each change brings it
on by one at most. At any two moments the active index is the same exactly if the generation is, or
if no cell is active at either. -/
theorem generation_names_active (changes : List Change) :
    ((grown changes).activeIndex = match (grown changes).cells.getLast? with
      | some (.input _) => some ((grown changes).cells.length - 1)
      | _ => none) ∧
    (∀ c : Change, (grown changes).generation ≤ (grown (changes ++ [c])).generation ∧
      (grown (changes ++ [c])).generation ≤ (grown changes).generation + 1) ∧
    ∀ i j : Nat,
      let t := grown (changes.take i)
      let u := grown (changes.take j)
      t.activeIndex = u.activeIndex ↔
        t.generation = u.generation ∨ (t.activeIndex = none ∧ u.activeIndex = none) := by
  refine ⟨(grown_found changes).activeIndex_eq, ?_, ?_⟩
  · intro c
    rw [grown_snoc]
    exact ⟨(counts_changed _ c).mono, generation_changed_le _ c⟩
  · intro i j t u
    rcases Nat.le_total i j with h | h
    · exact (counts_take changes h).activeIndex_eq_iff
    · have hback := (counts_take changes h).activeIndex_eq_iff
      rw [eq_comm, hback, eq_comm, and_comm]

end DeskCalc.Transcript
