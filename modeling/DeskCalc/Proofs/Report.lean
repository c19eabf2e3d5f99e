import DeskCalc.Proofs.Engine.Relay

namespace DeskCalc

theorem forall₂_of_mapM {α β ε : Type} {f : α → Except ε β} {xs : List α} {ys : List β}
    (h : xs.mapM f = .ok ys) : List.Forall₂ (fun x y => f x = .ok y) xs ys := by
  induction xs generalizing ys with
  | nil =>
    obtain rfl : [] = ys := Except.ok.inj h
    exact .nil
  | cons x xs ih =>
    rw [List.mapM_cons] at h
    cases hx : f x with
    | error e => simp [hx, bind, Except.bind] at h
    | ok y =>
      cases hxs : xs.mapM f with
      | error e => simp [hx, hxs, bind, Except.bind] at h
      | ok ys' =>
        obtain rfl : y :: ys' = ys := by
          simpa [hx, hxs, bind, Except.bind, pure, Except.pure] using h
        exact .cons hx (ih hxs)

theorem any_eq_of_forall₂ {α β : Type} {R : α → β → Prop} {p : α → Bool} {q : β → Bool}
    (hR : ∀ x y, R x y → q y = p x) {xs : List α} {ys : List β} (h : List.Forall₂ R xs ys) :
    ys.any q = xs.any p := by
  induction h with
  | nil => rfl
  | cons hxy _ ih => rw [List.any_cons, List.any_cons, hR _ _ hxy, ih]

def Double.isInfinite : Double → Bool
  | infinite _ => true
  | _ => false

theorem Double.isInfinite_of_ofRat? {q : Rat} {x : Double} (h : ofRat? q = some x) :
    x.isInfinite = false := by
  unfold ofRat? at h
  dsimp only at h
  split at h
  · rename_i hfinite
    rw [Option.some.inj h] at hfinite
    cases x with
    | finite => rfl
    | nan | infinite => cases hfinite
  · cases h

def Cell.holdsInfinity : Cell → Bool
  | output results => results.any (·.value.isInfinite)
  | _ => false

namespace Payload

def readsInfinite : Payload → Bool
  | float x => x.isInfinite
  | text s => (Reading.double? s).any Double.isInfinite
  | _ => false

/-- Whether a payload states a result with an infinite number. -/
def statesInfinity : Payload → Bool
  | result r => r.value.isInfinite
  | dict entries => ((find? "number_float" entries).getD .null).readsInfinite
  | _ => false

/-- A payload is read as an infinite number if it is one or names one. No whole number is, for one
that is too large is refused. -/
theorem toDouble_isInfinite {p : Payload} {x : Double} (h : p.toDouble = .ok x) :
    x.isInfinite = p.readsInfinite := by
  have whole {n : Int} (hn : intToDouble n = .ok x) : x.isInfinite = false := by
    unfold intToDouble at hn
    split at hn
    · rename_i hq
      rw [← Except.ok.inj hn]
      exact Double.isInfinite_of_ofRat? hq
    · cases hn
  cases p with
  | bool b => exact whole h
  | int n => exact whole h
  | float y => rw [← Except.ok.inj h, readsInfinite]
  | text s =>
    cases hs : Reading.double? s with
    | none => simp [toDouble, hs] at h
    | some y =>
      obtain rfl : y = x := by simpa [toDouble, hs] using h
      rw [readsInfinite, hs, Option.any_some]
  | null | list | dict | result => cases h

theorem valueOfPayload_isInfinite {p : Payload} {x : Double}
    (h : Result.valueOfPayload p = .ok x) : x.isInfinite = p.readsInfinite := by
  cases p with
  | null =>
    rw [← Except.ok.inj h]
    rfl
  | _ => exact toDouble_isInfinite h

theorem ofPayload_isInfinite {p : Payload} {r : Result} (h : Result.ofPayload p = .ok r) :
    r.value.isInfinite = p.statesInfinity := by
  cases p with
  | result r' => rw [← Except.ok.inj h, statesInfinity]
  | dict entries =>
    unfold Result.ofPayload at h
    simp only [bind, Except.bind] at h
    split at h
    · cases h
    split at h
    · cases h
    split at h
    · cases h
    · rename_i x hx
      rw [← Except.ok.inj h]
      exact valueOfPayload_isInfinite hx
  | _ => cases h

end Payload

namespace Report

def statesInfinity (r : Report) : Bool :=
  match Kind.ofName? r.kind with
  | some .quantity => r.payload.statesInfinity
  | some .quantityList => (r.payload.elements.toOption.getD []).any Payload.statesInfinity
  | _ => false

/-- The cell of a report holds an infinite number exactly if the report states one. -/
theorem cell_holdsInfinity {r : Report} {c : Cell} (h : r.cell = .ok c) :
    c.holdsInfinity = r.statesInfinity := by
  unfold cell at h
  unfold statesInfinity
  split at h
  · cases h
  · rename_i hk
    cases hp : Result.ofPayload r.payload with
    | error e => simp [hp, Except.map] at h
    | ok result =>
      rw [hp] at h
      rw [← Except.ok.inj h, hk, Cell.holdsInfinity, List.any_cons,
        Payload.ofPayload_isInfinite hp, List.any_nil, Bool.or_false]
  · rename_i hk
    cases he : r.payload.elements with
    | error e => simp [he, bind, Except.bind] at h
    | ok items =>
      cases hm : items.mapM Result.ofPayload with
      | error e => simp [he, hm, bind, Except.bind] at h
      | ok results =>
        have hc : Cell.output results = c := by
          simpa [he, hm, bind, Except.bind, pure, Except.pure] using h
        rw [← hc, hk, Cell.holdsInfinity]
        exact any_eq_of_forall₂ (fun _ _ hr => Payload.ofPayload_isInfinite hr)
          (forall₂_of_mapM hm)
  · rename_i hk
    rw [← Except.ok.inj h, hk]
    rfl

/-- The same for all cells of some reports, none of which is refused. -/
theorem cells_holdInfinity {rs : List Report} (h : ∀ r ∈ rs, r.cell?.isSome = true) :
    (rs.filterMap cell?).any Cell.holdsInfinity = rs.any statesInfinity := by
  induction rs with
  | nil => rfl
  | cons r rs ih =>
    obtain ⟨hr, hrs⟩ := List.forall_mem_cons.mp h
    obtain ⟨c, hc⟩ := Option.isSome_iff_exists.mp hr
    rw [List.filterMap_cons_some hc, List.any_cons, List.any_cons, ih hrs,
      cell_holdsInfinity (cell?_eq_some_iff.mp hc)]

end Report

end DeskCalc
