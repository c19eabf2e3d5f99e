import DeskCalc.Machine
import DeskCalc.Proofs.Units
import Mathlib.Data.List.TakeWhile
import Mathlib.Tactic.SplitIfs

namespace DeskCalc.Units

/-- What a text lists between its separators, with the signs: the first has the one given, and each
later one that of the separator before it. -/
def listed (sign : Int) (cs : List Char) : List (String × Int) :=
  ((cs.splitOnP isSeparator).map String.ofList).zip
    (sign :: (cs.filter isSeparator).map signAfter)

/-- The symbols of a list, in order, with all but the first mention of each left out. The symbol `1`
stands for nothing. -/
def mentioned (l : List (String × Int)) : List String :=
  ((l.map Prod.fst).filter (· ≠ "1")).eraseDups

/-- The sum of the signs with which a symbol is listed. -/
def total (l : List (String × Int)) (symbol : String) : Int :=
  ((l.filter (·.1 = symbol)).map Prod.snd).sum

/-- The unit of a list: its symbols in the order of first mention, each to the power of its total,
without those whose signs cancel. -/
def ofListed (l : List (String × Int)) : Units :=
  ⟨((mentioned l).map fun s => ⟨s, total l s⟩).filter (·.exponent ≠ 0)⟩

/-- The factors with one more symbol of a list taken in. -/
def withListed (fs : List Factor) (p : String × Int) : List Factor :=
  if p.1 = "1" then fs else bump p.1 p.2 fs

variable {cs rest : List Char} {sign : Int} {fs : List Factor} {l : List (String × Int)}
  {separator : Char} {s : String}

theorem isSeparator_symbolOf (cs : List Char) : ∀ c ∈ symbolOf cs, isSeparator c = false := by
  intro c hc
  have h := List.mem_takeWhile_imp hc
  simpa using h

theorem isSeparator_after (h : afterSymbol cs = separator :: rest) :
    isSeparator separator = true := by
  have hhead := List.head?_dropWhile_not (!isSeparator ·) cs
  rw [show cs.dropWhile (!isSeparator ·) = separator :: rest from h] at hhead
  simpa using hhead

theorem listed_last (h : afterSymbol cs = []) :
    listed sign cs = [(.ofList (symbolOf cs), sign)] := by
  have hcs : cs = symbolOf cs := by
    have hsplit : symbolOf cs ++ afterSymbol cs = cs := List.takeWhile_append_dropWhile
    rw [h, List.append_nil] at hsplit
    exact hsplit.symm
  have hnone := isSeparator_symbolOf cs
  rw [← hcs] at hnone ⊢
  have hfilter : cs.filter isSeparator = [] := by simpa using hnone
  rw [listed, List.splitOnP_eq_singleton hnone, hfilter]
  rfl

theorem listed_more (h : afterSymbol cs = separator :: rest) :
    listed sign cs = (.ofList (symbolOf cs), sign) :: listed (signAfter separator) rest := by
  have hcs : cs = symbolOf cs ++ separator :: rest := by
    rw [← h]
    exact List.takeWhile_append_dropWhile.symm
  have hnone := isSeparator_symbolOf cs
  have hsep := isSeparator_after h
  have hsplit : cs.splitOnP isSeparator = symbolOf cs :: rest.splitOnP isSeparator := by
    conv_lhs => rw [hcs]
    exact List.splitOnP_append_cons_of_forall_mem hnone separator hsep rest
  have hfilter : cs.filter isSeparator = separator :: rest.filter isSeparator := by
    conv_lhs => rw [hcs]
    have hsymbol : (symbolOf cs).filter isSeparator = [] := by simpa using hnone
    rw [List.filter_append, hsymbol, List.nil_append, List.filter_cons_of_pos hsep]
  rw [listed, hsplit, hfilter]
  rfl

theorem ofList_eq_empty {cs : List Char} : String.ofList cs = "" ↔ cs = [] := by
  constructor
  · intro h
    simpa using congrArg String.toList h
  · rintro rfl
    rfl

theorem withListed_ofList (fs : List Factor) (symbol : List Char) (sign : Int) :
    withListed fs (.ofList symbol, sign) =
      if symbol = ['1'] then fs else bump (.ofList symbol) sign fs := by
  have hone : String.ofList symbol = "1" ↔ symbol = ['1'] := by
    rw [← String.toList_inj, String.toList_ofList]
    rfl
  rw [withListed]
  exact if_congr hone rfl rfl

/-- By the reader's own cases: no symbol, the last one, and one with more behind it. -/
theorem gather_eq (fs : List Factor) (sign : Int) (cs : List Char) :
    gather fs sign cs =
      if "" ∈ (listed sign cs).map Prod.fst then none
      else some ((listed sign cs).foldl withListed fs) := by
  fun_induction gather fs sign cs with
  | case1 fs sign cs symbol hsymbol =>
    have hempty : String.ofList (symbolOf cs) = "" := ofList_eq_empty.mpr hsymbol
    have hmem : "" ∈ (listed sign cs).map Prod.fst := by
      cases hend : afterSymbol cs with
      | nil => simp [listed_last hend, hempty]
      | cons separator rest => simp [listed_more hend, hempty]
    rw [if_pos hmem]
  | case2 fs sign cs symbol hsymbol fs' hend =>
    have hne : String.ofList (symbolOf cs) ≠ "" := fun h => hsymbol (ofList_eq_empty.mp h)
    have hmem : ¬ "" ∈ (listed sign cs).map Prod.fst := by
      rw [listed_last hend]
      simpa using hne.symm
    rw [if_neg hmem, listed_last hend, List.foldl_cons, List.foldl_nil, withListed_ofList]
    rfl
  | case3 fs sign cs symbol hsymbol fs' separator rest hrest ih =>
    have hne : String.ofList (symbolOf cs) ≠ "" := fun h => hsymbol (ofList_eq_empty.mp h)
    have hfs : withListed fs (.ofList (symbolOf cs), sign) = fs' := withListed_ofList ..
    have hmem : "" ∈ (listed sign cs).map Prod.fst ↔
        "" ∈ (listed (signAfter separator) rest).map Prod.fst := by
      rw [listed_more hrest, List.map_cons, List.mem_cons, or_iff_right hne.symm]
    rw [ih, listed_more hrest, List.foldl_cons, hfs, ← listed_more hrest]
    exact if_congr hmem.symm rfl rfl

/-- Listing adds up the signs of each symbol. -/
theorem exponent_gathered (l : List (String × Int)) (fs : List Factor) (hs : s ≠ "1") :
    (mk (l.foldl withListed fs)).exponent s = (mk fs).exponent s + total l s := by
  induction l generalizing fs with
  | nil => simp [total]
  | cons p l ih =>
    rw [List.foldl_cons, ih, withListed]
    have htotal : total (p :: l) s = (if p.1 = s then p.2 else 0) + total l s := by
      by_cases hp : p.1 = s <;> simp [total, hp]
    rw [htotal]
    split
    · rename_i hone
      have hp : p.1 ≠ s := fun hp => hs (hp.symm.trans hone)
      rw [if_neg hp, zero_add]
    · rw [exponent_bump, add_assoc]

/-- New symbols come behind the old ones, in the order in which they are first listed. -/
theorem symbols_gathered (l : List (String × Int)) (fs : List Factor) :
    symbols (l.foldl withListed fs) =
      symbols fs ++ (((l.map Prod.fst).filter (· ≠ "1")).removeAll (symbols fs)).eraseDups := by
  induction l generalizing fs with
  | nil => simp
  | cons p l ih =>
    rw [List.foldl_cons, ih, withListed]
    by_cases hone : p.1 = "1"
    · simp [hone]
    · rw [if_neg hone, symbols_bump, List.map_cons, List.filter_cons_of_pos (by simpa using hone),
        List.cons_removeAll]
      by_cases hp : p.1 ∈ symbols fs
      · simp [hp]
      · have hcontains : (symbols fs).contains p.1 = false := by simpa using hp
        have hlater (xs : List String) : xs.removeAll (symbols fs ++ [p.1]) =
            (xs.removeAll (symbols fs)).filter fun s => !s == p.1 := by
          simp only [List.removeAll, List.filter_filter]
          congr 1
          funext x
          by_cases hx : x = p.1 <;> simp [hx]
        rw [if_neg hp, if_pos hcontains, List.eraseDups_cons, hlater, List.append_assoc]
        rfl

/-- Factors are what their symbols and the powers of these are. -/
theorem factors_eq (hn : (symbols fs).Nodup) :
    fs = (symbols fs).map fun s => ⟨s, (mk fs).exponent s⟩ := by
  rw [symbols, List.map_map]
  have hself : ∀ f ∈ fs, Factor.mk f.symbol ((mk fs).exponent f.symbol) = f := by
    intro f hf
    rw [exponent_mem hn hf]
  exact (List.map_id fs).symm.trans (List.map_congr_left fun f hf => (hself f hf).symm)

theorem nodup_gathered (hn : (symbols fs).Nodup) (l : List (String × Int)) :
    (symbols (l.foldl withListed fs)).Nodup := by
  induction l generalizing fs with
  | nil => exact hn
  | cons p l ih =>
    rw [List.foldl_cons]
    apply ih
    rw [withListed]
    split
    · exact hn
    · exact nodup_bump hn _ _

theorem mem_mentioned : s ∈ mentioned l ↔ s ∈ l.map Prod.fst ∧ s ≠ "1" := by
  rw [mentioned, List.mem_eraseDups, List.mem_filter]
  simp

theorem reduced_gathered (l : List (String × Int)) :
    reduced (l.foldl withListed []) = ofListed l := by
  have hn : (symbols (l.foldl withListed [])).Nodup := nodup_gathered (by simp [symbols]) l
  have hsymbols : symbols (l.foldl withListed []) = mentioned l := by
    rw [symbols_gathered]
    simp [symbols, mentioned]
  have hfactors : l.foldl withListed [] = (mentioned l).map fun s => ⟨s, total l s⟩ := by
    rw [factors_eq hn, hsymbols]
    apply List.map_congr_left
    intro s hs
    rw [exponent_gathered l [] (mem_mentioned.mp hs).2]
    simp [exponent]
  rw [reduced, hfactors, ofListed]

/-- Reading symbol by symbol comes to listing them all, and then adding up their signs. -/
theorem ofText?_eq (text : String) :
    ofText? text =
      if "" ∈ (listed 1 text.toList).map Prod.fst then none
      else some (ofListed (listed 1 text.toList)) := by
  rw [ofText?, gather_eq]
  split
  · rfl
  · rw [Option.map_some, reduced_gathered]

theorem ofText?_eq_some_iff {text : String} {u : Units} :
    ofText? text = some u ↔
      "" ∉ (listed 1 text.toList).map Prod.fst ∧ u = ofListed (listed 1 text.toList) := by
  rw [ofText?_eq]
  split
  · rename_i hempty
    simp [hempty]
  · rename_i hempty
    simp [hempty, eq_comm]

theorem exponent_ofListed (l : List (String × Int)) (s : String) :
    (ofListed l).exponent s = if s = "1" then 0 else total l s := by
  have hn : (symbols (l.foldl withListed [])).Nodup := nodup_gathered (by simp [symbols]) l
  rw [← reduced_gathered, exponent_reduced hn]
  split
  · rename_i hone
    have habsent : s ∉ symbols (l.foldl withListed []) := by
      rw [symbols_gathered]
      simp [symbols, hone]
    exact exponent_absent habsent
  · rename_i hone
    rw [exponent_gathered l [] hone]
    simp [exponent]

theorem length_splitOnP {α : Type} (p : α → Bool) (xs : List α) :
    (xs.splitOnP p).length = (xs.filter p).length + 1 := by
  induction xs with
  | nil => rfl
  | cons x xs ih =>
    rw [List.splitOnP_cons_eq_if_modifyHead]
    by_cases hx : p x = true <;> simp [hx, ih]

/-- A product sign has what follows it listed anew, with a sign of its own. -/
theorem listed_product (sign : Int) (a b : List Char) :
    listed sign (a ++ '*' :: b) = listed sign a ++ listed 1 b := by
  have hlength : ((a.splitOnP isSeparator).map String.ofList).length =
      (sign :: (a.filter isSeparator).map signAfter).length := by
    simp [length_splitOnP]
  have hfilter : (a ++ '*' :: b).filter isSeparator =
      a.filter isSeparator ++ '*' :: b.filter isSeparator := by
    simp [isSeparator]
  rw [listed, List.splitOnP_append_cons a b (by decide), hfilter, List.map_append, List.map_append,
    ← List.cons_append, List.zip_append hlength]
  rfl

theorem total_append (l k : List (String × Int)) (s : String) :
    total (l ++ k) s = total l s + total k s := by
  simp [total]

theorem ofText?_product {a b : String} {u v : Units} (hu : ofText? a = some u)
    (hv : ofText? b = some v) :
    ∃ w, ofText? (a ++ "*" ++ b) = some w ∧ w.Agree (u.combine v 1) := by
  have hlisted : listed 1 (a ++ "*" ++ b).toList = listed 1 a.toList ++ listed 1 b.toList := by
    have htext : (a ++ "*" ++ b).toList = a.toList ++ '*' :: b.toList := by simp
    rw [htext, listed_product]
  have hcombine := (ofText?_normal hu).isReduced.exponent_combine (ofText?_normal hv).isReduced 1
  obtain ⟨ha, rfl⟩ := ofText?_eq_some_iff.mp hu
  obtain ⟨hb, rfl⟩ := ofText?_eq_some_iff.mp hv
  have hab : "" ∉ (listed 1 (a ++ "*" ++ b).toList).map Prod.fst := by
    rw [hlisted, List.map_append, List.mem_append]
    exact not_or.mpr ⟨ha, hb⟩
  refine ⟨_, ofText?_eq_some_iff.mpr ⟨hab, rfl⟩, ?_⟩
  intro s
  rw [hcombine, exponent_ofListed, exponent_ofListed, exponent_ofListed, hlisted, total_append]
  split
  · rfl
  · ring

/-- On a value, the text of a unit fails as one exactly if no unit is read from it. -/
theorem annotate_invalid_iff {m : Machine} {q : Quantity} {rest : List Quantity} {text : String}
    (hs : m.stack = q :: rest) :
    (m.annotate text).error = some (.invalidUnit text) ↔ ofText? text = none := by
  have hmismatch (u : Units) : MachineError.mismatch u ≠ .invalidUnit text := by
    unfold MachineError.mismatch
    split <;> simp
  unfold Machine.annotate
  simp only [hs]
  cases ofText? text with
  | none => simp [Outcome.failed]
  | some u =>
    simp only [reduceCtorEq, iff_false]
    split_ifs
    · simp [Outcome.done]
    · simp [Outcome.done]
    · simp [Outcome.done]
    · simp [Outcome.failed, hmismatch]

/-- The unit that a text writes is that of the factors it lists, there is none exactly if one of
them is empty, which is told in words with the text, and a product of texts writes the product of
units. -/
theorem unit_as_listed (text : String) :
    (ofText? text =
      if "" ∈ (listed 1 text.toList).map Prod.fst then none
      else some (ofListed (listed 1 text.toList))) ∧
    (∀ (m : Machine) (q : Quantity) (rest : List Quantity), m.stack = q :: rest →
      ((m.step (.unit text)).error = some (.invalidUnit text) ↔
        "" ∈ (listed 1 text.toList).map Prod.fst)) ∧
    (MachineError.invalidUnit text).fault =
      ⟨.engine, some ("Invalid unit: (" ++ text ++ ")")⟩ ∧
    ∀ (other : String) (u v : Units), ofText? text = some u → ofText? other = some v →
      ∃ w, ofText? (text ++ "*" ++ other) = some w ∧ w.Agree (u.combine v 1) := by
  refine ⟨ofText?_eq text, ?_, rfl, fun other u v => ofText?_product⟩
  intro m q rest hs
  have hstep : m.step (.unit text) = m.annotate text := rfl
  rw [hstep, annotate_invalid_iff hs, ofText?_eq]
  simp

/-- A symbol that cancels in a text comes back in its product with another one, and a text that
ends in a separator is refused by a machine that holds a value. -/
theorem units_as_listed :
    (Machine.empty.withStack [.pure 5]).stack = [.pure 5] ∧
    ((Machine.empty.withStack [.pure 5]).step (.unit "m/")).error = some (.invalidUnit "m/") ∧
    ofText? "m*s/m*1" = some ⟨[⟨"s", 1⟩]⟩ ∧ ofText? "m/s" = some ⟨[⟨"m", 1⟩, ⟨"s", -1⟩]⟩ ∧
    ∃ w, ofText? "m*s/m*1*m/s" = some w ∧
      w.Agree (Units.combine ⟨[⟨"s", 1⟩]⟩ ⟨[⟨"m", 1⟩, ⟨"s", -1⟩]⟩ 1) := by
  have hopen : "" ∈ (listed 1 "m/".toList).map Prod.fst := by decide
  have hrefused := ((unit_as_listed "m/").2.1 (Machine.empty.withStack [.pure 5]) _ _ rfl).mpr hopen
  have hu : ofText? "m*s/m*1" = some ⟨[⟨"s", 1⟩]⟩ := by
    rw [(unit_as_listed _).1]
    decide
  have hv : ofText? "m/s" = some ⟨[⟨"m", 1⟩, ⟨"s", -1⟩]⟩ := by
    rw [(unit_as_listed _).1]
    decide
  exact ⟨rfl, hrefused, hu, hv, (unit_as_listed _).2.2.2 _ _ _ hu hv⟩

end DeskCalc.Units
