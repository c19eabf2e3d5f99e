import DeskCalc.Units
import Mathlib.Data.List.Nodup
import Mathlib.Data.List.Perm.Basic
import Mathlib.Tactic.Ring

namespace DeskCalc.Units

def symbols (fs : List Factor) : List String := fs.map Factor.symbol

/-- Factors of which no two have one symbol, and each has one that stands for something. -/
structure Named (fs : List Factor) : Prop where
  nodup : (symbols fs).Nodup
  nonempty : "" ∉ symbols fs
  notOne : "1" ∉ symbols fs

structure Normal (u : Units) : Prop extends Named u.factors where
  nonzero : ∀ f ∈ u.factors, f.exponent ≠ 0

/-- A map from symbols to exponents that lists only exponents other than zero. -/
structure Reduced (u : Units) : Prop where
  nodup : (symbols u.factors).Nodup
  nonzero : ∀ f ∈ u.factors, f.exponent ≠ 0

/-- Every symbol has one power in both units. -/
def Agree (u v : Units) : Prop := ∀ s, u.exponent s = v.exponent s

variable {fs gs : List Factor} {f : Factor} {u v w : Units} {s symbol : String} {e sign : Int}

theorem Normal.isReduced (h : u.Normal) : u.Reduced := ⟨h.nodup, h.nonzero⟩

theorem Agree.symm (h : u.Agree v) : v.Agree u := fun s => (h s).symm

theorem Agree.trans (h : u.Agree v) (k : v.Agree w) : u.Agree w := fun s => (h s).trans (k s)

theorem exponent_cons (f : Factor) (fs : List Factor) (s : String) :
    (mk (f :: fs)).exponent s = if f.symbol = s then f.exponent else (mk fs).exponent s := by
  by_cases h : f.symbol = s <;> simp [exponent, h]

theorem exponent_absent (h : s ∉ symbols fs) : (mk fs).exponent s = 0 := by
  induction fs with
  | nil => rfl
  | cons f fs ih =>
    have hn : s ≠ f.symbol ∧ s ∉ symbols fs := by
      simpa only [symbols, List.map_cons, List.mem_cons, not_or] using h
    rw [exponent_cons, if_neg (Ne.symm hn.1), ih hn.2]

theorem exponent_mem (hn : (symbols fs).Nodup) (hf : f ∈ fs) :
    (mk fs).exponent f.symbol = f.exponent := by
  induction fs with
  | nil => cases hf
  | cons g fs ih =>
    obtain ⟨hg, hfs⟩ := List.nodup_cons.mp hn
    rw [exponent_cons]
    rcases List.mem_cons.mp hf with rfl | hf
    · rw [if_pos rfl]
    · have hne : g.symbol ≠ f.symbol := by
        intro he
        exact hg (he ▸ List.mem_map_of_mem hf)
      rw [if_neg hne, ih hfs hf]

/-- A symbol with a power is listed, and the factor that lists it has that power. -/
theorem Reduced.mem_iff (h : u.Reduced) :
    f ∈ u.factors ↔ u.exponent f.symbol = f.exponent ∧ f.exponent ≠ 0 := by
  constructor
  · intro hf
    exact ⟨exponent_mem h.nodup hf, h.nonzero f hf⟩
  · rintro ⟨he, hne⟩
    have hs : f.symbol ∈ symbols u.factors := by
      by_contra habsent
      exact hne (he.symm.trans (exponent_absent habsent))
    obtain ⟨g, hg, hsym⟩ := List.mem_map.mp hs
    have hexp : u.exponent g.symbol = g.exponent := exponent_mem h.nodup hg
    have hfg : g = f := by
      obtain ⟨gs, ge⟩ := g
      obtain ⟨fs, fe⟩ := f
      simp only at hsym hexp he
      rw [← hexp, ← he, hsym]
    rwa [hfg] at hg

theorem Reduced.nodup_factors (h : u.Reduced) : u.factors.Nodup := h.nodup.of_map _

/-- Reduced units of the same powers list the same factors, in whatever order. -/
theorem Reduced.perm (h : u.Reduced) (k : v.Reduced) (he : u.Agree v) :
    u.factors.Perm v.factors := by
  rw [List.perm_ext_iff_of_nodup h.nodup_factors k.nodup_factors]
  intro f
  rw [h.mem_iff, k.mem_iff, he]

/-- The order of the factors has no part in it. -/
theorem Reduced.same_iff (h : u.Reduced) (k : v.Reduced) : u.same v = true ↔ u.Agree v := by
  have hsame : u.same v = true ↔
      u.factors.length = v.factors.length ∧ ∀ f ∈ u.factors, f ∈ v.factors := by
    simp [same]
  rw [hsame]
  constructor
  · rintro ⟨hlen, hsub⟩ s
    have hp : u.factors.Perm v.factors :=
      (List.subperm_of_subset h.nodup_factors hsub).perm_of_length_le (le_of_eq hlen.symm)
    by_cases hs : s ∈ symbols u.factors
    · obtain ⟨f, hf, rfl⟩ := List.mem_map.mp hs
      rw [(h.mem_iff.mp hf).1, (k.mem_iff.mp (hp.subset hf)).1]
    · have hv : s ∉ symbols v.factors := by
        intro hv
        exact hs ((hp.map Factor.symbol).mem_iff.mpr hv)
      exact (exponent_absent hs).trans (exponent_absent hv).symm
  · intro he
    have hp := h.perm k he
    exact ⟨hp.length_eq, fun f hf => hp.subset hf⟩

theorem exponent_bump (symbol : String) (e : Int) (fs : List Factor) (s : String) :
    (mk (bump symbol e fs)).exponent s =
      (mk fs).exponent s + if symbol = s then e else 0 := by
  induction fs with
  | nil =>
    rw [bump, exponent_cons]
    simp [exponent]
  | cons f fs ih =>
    rw [bump]
    split
    · rename_i h
      rw [exponent_cons, exponent_cons, ← h]
      split <;> simp
    · rename_i h
      rw [exponent_cons, exponent_cons, ih]
      by_cases hf : f.symbol = s
      · have hs : symbol ≠ s := by
          intro hs
          exact h (hf.trans hs.symm)
        simp [hf, hs]
      · simp [hf]

/-- A symbol keeps its place, and a new one goes to the end. -/
theorem symbols_bump (symbol : String) (e : Int) (fs : List Factor) :
    symbols (bump symbol e fs) =
      if symbol ∈ symbols fs then symbols fs else symbols fs ++ [symbol] := by
  induction fs with
  | nil => rfl
  | cons f fs ih =>
    rw [bump]
    by_cases h : f.symbol = symbol
    · simp [h, symbols]
    · have hcons : symbols (f :: bump symbol e fs) = f.symbol :: symbols (bump symbol e fs) := rfl
      rw [if_neg h, hcons, ih]
      by_cases hs : symbol ∈ symbols fs
      · have hm : symbol ∈ symbols (f :: fs) := List.mem_cons_of_mem _ hs
        rw [if_pos hs, if_pos hm]
        rfl
      · have hm : symbol ∉ symbols (f :: fs) := by
          intro hm
          rcases List.mem_cons.mp hm with he | hm
          · exact h he.symm
          · exact hs hm
        rw [if_neg hs, if_neg hm]
        rfl

theorem nodup_bump (h : (symbols fs).Nodup) (symbol : String) (e : Int) :
    (symbols (bump symbol e fs)).Nodup := by
  rw [symbols_bump]
  split
  · exact h
  · rename_i hnew
    rw [List.nodup_append_comm]
    exact List.nodup_cons.mpr ⟨hnew, h⟩

/-- Bumping a proper symbol makes no improper one. -/
theorem Named.bump (h : Named fs) (hempty : symbol ≠ "") (hone : symbol ≠ "1") (e : Int) :
    Named (bump symbol e fs) := by
  have hsym := symbols_bump symbol e fs
  refine ⟨nodup_bump h.nodup symbol e, ?_, ?_⟩
  · rw [hsym]
    split
    · exact h.nonempty
    · simp [h.nonempty, Ne.symm hempty]
  · rw [hsym]
    split
    · exact h.notOne
    · simp [h.notOne, Ne.symm hone]

theorem symbols_filter_sublist (p : Factor → Bool) (fs : List Factor) :
    (symbols (fs.filter p)).Sublist (symbols fs) := List.filter_sublist.map _

theorem nonzero_reduced (fs : List Factor) : ∀ f ∈ (reduced fs).factors, f.exponent ≠ 0 := by
  intro f hf
  simpa using (List.mem_filter.mp hf).2

theorem reduced_reduced (h : (symbols fs).Nodup) : (reduced fs).Reduced :=
  ⟨h.sublist (symbols_filter_sublist (·.exponent ≠ 0) fs), nonzero_reduced fs⟩

theorem Named.reduced (h : Named fs) : (reduced fs).Normal := by
  have hsub := symbols_filter_sublist (·.exponent ≠ 0) fs
  refine ⟨⟨h.nodup.sublist hsub, ?_, ?_⟩, nonzero_reduced fs⟩
  · exact fun hm => h.nonempty (hsub.subset hm)
  · exact fun hm => h.notOne (hsub.subset hm)

/-- The factors left out have power zero, and no other one has their symbols. -/
theorem exponent_reduced (hn : (symbols fs).Nodup) (s : String) :
    (reduced fs).exponent s = (mk fs).exponent s := by
  induction fs with
  | nil => rfl
  | cons f fs ih =>
    obtain ⟨hf, hfs⟩ := List.nodup_cons.mp hn
    have hrest : (mk (fs.filter (·.exponent ≠ 0))).exponent s = (mk fs).exponent s := ih hfs
    rw [Units.reduced, List.filter_cons]
    by_cases hz : f.exponent = 0
    · rw [if_neg (by simp [hz]), hrest, exponent_cons]
      split
      · rename_i hs
        rw [hz, ← hs]
        exact exponent_absent hf
      · rfl
    · rw [if_pos (by simp [hz]), exponent_cons, exponent_cons, hrest]

/-- Factors with `sign` times the powers of others. -/
theorem exponent_foldl (hn : (symbols gs).Nodup) (sign : Int) (fs : List Factor) (s : String) :
    (mk (gs.foldl (fun fs f => bump f.symbol (sign * f.exponent) fs) fs)).exponent s =
      (mk fs).exponent s + sign * (mk gs).exponent s := by
  induction gs generalizing fs with
  | nil => simp [exponent]
  | cons g gs ih =>
    obtain ⟨hg, hgs⟩ := List.nodup_cons.mp hn
    rw [List.foldl_cons, ih hgs, exponent_bump, exponent_cons]
    split
    · rename_i hs
      have hzero : (mk gs).exponent s = 0 := hs ▸ exponent_absent hg
      rw [hzero]
      ring
    · ring

theorem nodup_foldl (h : (symbols fs).Nodup) (gs : List Factor) (sign : Int) :
    (symbols (gs.foldl (fun fs f => bump f.symbol (sign * f.exponent) fs) fs)).Nodup := by
  induction gs generalizing fs with
  | nil => exact h
  | cons g gs ih =>
    rw [List.foldl_cons]
    exact ih (nodup_bump h _ _)

theorem Named.foldl (h : Named fs) (k : Named gs) (sign : Int) :
    Named (gs.foldl (fun fs f => Units.bump f.symbol (sign * f.exponent) fs) fs) := by
  induction gs generalizing fs with
  | nil => exact h
  | cons g gs ih =>
    have apart {s : String} (hs : s ∉ symbols (g :: gs)) : g.symbol ≠ s ∧ s ∉ symbols gs := by
      refine ⟨?_, fun hm => hs (List.mem_cons_of_mem _ hm)⟩
      rintro rfl
      exact hs List.mem_cons_self
    obtain ⟨hempty, hempties⟩ := apart k.nonempty
    obtain ⟨hone, hones⟩ := apart k.notOne
    rw [List.foldl_cons]
    exact ih (h.bump hempty hone _) ⟨(List.nodup_cons.mp k.nodup).2, hempties, hones⟩

theorem Normal.combine (h : u.Normal) (k : v.Normal) (sign : Int) : (u.combine v sign).Normal :=
  (h.toNamed.foldl k.toNamed sign).reduced

theorem Reduced.combine (h : u.Reduced) (v : Units) (sign : Int) : (u.combine v sign).Reduced :=
  reduced_reduced (nodup_foldl h.nodup v.factors sign)

/-- Products and quotients of units add and subtract powers. -/
theorem Reduced.exponent_combine (h : u.Reduced) (k : v.Reduced) (sign : Int) (s : String) :
    (u.combine v sign).exponent s = u.exponent s + sign * v.exponent s := by
  rw [Units.combine, exponent_reduced (nodup_foldl h.nodup v.factors sign),
    exponent_foldl k.nodup]

theorem one_reduced : one.Reduced := ⟨by simp [one, symbols], by simp [one]⟩

theorem exponent_one (s : String) : one.exponent s = 0 := rfl

/-- The only reduced unit without a power is that of a pure number. -/
theorem Reduced.eq_one (h : u.Reduced) (he : u.Agree one) : u = one := by
  have hp : u.factors.Perm one.factors := h.perm one_reduced he
  exact Units.ext hp.eq_nil

theorem Reduced.combine_comm (h : u.Reduced) (k : v.Reduced) :
    (u.combine v 1).Agree (v.combine u 1) := by
  intro s
  rw [h.exponent_combine k, k.exponent_combine h]
  ring

theorem Reduced.combine_assoc (h : u.Reduced) (k : v.Reduced) (l : w.Reduced) :
    ((u.combine v 1).combine w 1).Agree (u.combine (v.combine w 1) 1) := by
  intro s
  rw [(h.combine v 1).exponent_combine l, h.exponent_combine k,
    h.exponent_combine (k.combine w 1), k.exponent_combine l]
  ring

theorem Reduced.combine_one (h : u.Reduced) : (u.combine one 1).Agree u := by
  intro s
  rw [h.exponent_combine one_reduced, exponent_one]
  ring

/-- What divides itself leaves no unit. -/
theorem Reduced.combine_self (h : u.Reduced) : u.combine u (-1) = one := by
  apply (h.combine u (-1)).eq_one
  intro s
  rw [h.exponent_combine h, exponent_one]
  ring

/-- A quotient undoes a product and the other way round. -/
theorem Reduced.combine_undo (h : u.Reduced) (k : v.Reduced) (sign : Int) :
    ((u.combine v sign).combine v (-sign)).Agree u := by
  intro s
  rw [(h.combine v sign).exponent_combine k, h.exponent_combine k]
  ring

theorem one_normal : one.Normal := by
  refine ⟨⟨?_, ?_, ?_⟩, ?_⟩ <;> simp [one, symbols]

theorem Named.read {cs : List Char} (h : Named fs) (hcs : cs ≠ []) (sign : Int) :
    Named (if cs = ['1'] then fs else Units.bump (.ofList cs) sign fs) := by
  split
  · exact h
  · rename_i hone
    refine h.bump ?_ ?_ sign
    · intro he
      exact hcs (by simpa using congrArg String.toList he)
    · intro he
      exact hone (by simpa using congrArg String.toList he)

theorem gather_named {cs : List Char} (h : Named fs) (hg : gather fs sign cs = some gs) :
    Named gs := by
  fun_induction gather fs sign cs with
  | case1 => cases hg
  | case2 fs sign cs symbol hsymbol fs' hend =>
    rw [← Option.some.inj hg]
    exact h.read hsymbol sign
  | case3 fs sign cs symbol hsymbol fs' separator rest hrest ih =>
    exact ih (h.read hsymbol sign) hg

theorem ofText?_normal {text : String} (h : ofText? text = some u) : u.Normal := by
  obtain ⟨fs, hg, rfl⟩ := Option.map_eq_some_iff.mp h
  exact (gather_named one_normal.toNamed hg).reduced

end DeskCalc.Units
