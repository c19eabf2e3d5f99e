import DeskCalc.Proofs.Machine.Run
import DeskCalc.Proofs.Report
import Mathlib.Data.List.Forall2

namespace DeskCalc

/-- A result shows a quantity: as it is written, as a double, and with the factors of its unit in
the order in which they are kept. -/
structure Result.Shows (r : Result) (q : Quantity) : Prop where
  display : q.display = .ok (r.value, r.display)
  unit : r.unit = q.unit.factors

theorem Quantity.shows_of_result {q : Quantity} {r : Result} (h : q.result = .ok r) :
    r.Shows q := by
  unfold result at h
  cases hd : q.display with
  | error e => simp [hd, Except.map] at h
  | ok shown =>
    rw [hd] at h
    rw [← Except.ok.inj h]
    exact ⟨hd, rfl⟩

namespace Operator

def prints : Operator → Bool
  | print | take | list => true
  | _ => false

/-- The results that a printing operator shows of a stack, which has its top first. -/
def Shows (op : Operator) (stack : List Quantity) (rs : List Result) : Prop :=
  match op with
  | print | take => ∃ q r, stack.head? = some q ∧ rs = [r] ∧ r.Shows q
  | list => List.Forall₂ Result.Shows rs stack.reverse
  | _ => False

end Operator

/-- Lines that list a stack from its top, each with the number of the entry and its written form. -/
def Quantity.Listed (stack : List Quantity) (lines : List String) : Prop :=
  lines.length = stack.length ∧
    ∀ (k : Nat) (q : Quantity), stack[k]? = some q → ∃ value shown,
      q.display = .ok (value, shown) ∧ lines[k]? = some ("[" ++ toString k ++ "]: " ++ shown)

/-- The results stand from the bottom of the stack to its top, and their lines the other way. -/
theorem Operator.Shows.listed {stack : List Quantity} {rs : List Result}
    (h : Operator.list.Shows stack rs) : Quantity.Listed stack (Result.lines rs) := by
  have hrev : List.Forall₂ Result.Shows rs.reverse stack := by
    rw [← List.forall₂_reverse_iff, List.reverse_reverse]
    exact h
  refine ⟨?_, ?_⟩
  · rw [Result.lines, List.length_mapIdx, hrev.length_eq]
  · intro k q hq
    obtain ⟨hk, rfl⟩ := List.getElem?_eq_some_iff.mp hq
    have hk' : k < rs.reverse.length := by rwa [hrev.length_eq]
    have hshows : rs.reverse[k].Shows stack[k] := hrev.get hk' hk
    refine ⟨_, _, hshows.display, ?_⟩
    rw [Result.lines, List.getElem?_mapIdx, List.getElem?_eq_getElem hk']
    rfl

namespace Lexeme

def printing? : Lexeme → Option Operator
  | operator op => if op.prints then some op else none
  | _ => none

/-- The printing operators among some tokens, each with the number of tokens before it. -/
def printings (ts : List Lexeme) : List (Operator × Nat) :=
  ts.zipIdx.filterMap fun x => x.1.printing?.map (·, x.2)

theorem printings_cons (t : Lexeme) (ts : List Lexeme) :
    printings (t :: ts) =
      (t.printing?.map (·, 0)).toList ++ (printings ts).map (Prod.map id (· + 1)) := by
  have hshift : (ts.zipIdx 1).filterMap (fun x => x.1.printing?.map (·, x.2)) =
      (printings ts).map (Prod.map id (· + 1)) := by
    rw [List.zipIdx_succ, List.filterMap_map, printings, List.map_filterMap]
    congr 1
    funext x
    simp [Function.comp_def]
  rw [printings, List.zipIdx_cons, List.filterMap_cons, hshift]
  cases t.printing? <;> simp

end Lexeme

def Printout.results : Printout → List Result
  | one r => [r]
  | all rs => rs

/-- What an outcome keeps of a machine and prints of it: it is heard as the machine is, and if
nothing fails it prints what the operator, where there is one, shows of the stack. -/
structure Outcome.Prints (o : Outcome) (m : Machine) (op : Option Operator) : Prop where
  listening : o.machine.listening = m.listening
  shown : m.listening = true → o.error = none →
    List.Forall₂ (fun op p => op.Shows m.stack p.results) op.toList o.printed

namespace Machine

open Outcome

variable {m : Machine} {o : Outcome}

theorem prints_nothing (hl : o.machine.listening = m.listening) (hp : o.printed = []) :
    o.Prints m none := by
  refine ⟨hl, fun _ _ => ?_⟩
  rw [hp]
  exact .nil

theorem prints_failed {after : Machine} (hl : after.listening = m.listening) (e : MachineError)
    (op : Option Operator) : (failed after e).Prints m op := by
  refine ⟨hl, ?_⟩
  intro _ he
  cases he

theorem prints_annotate (m : Machine) (text : String) : (m.annotate text).Prints m none := by
  unfold annotate
  split
  · exact prints_nothing rfl rfl
  · split
    · exact prints_nothing rfl rfl
    · split_ifs <;> exact prints_nothing rfl rfl

theorem prints_combineTop (m : Machine) (f : Quantity → Quantity → Except MachineError Quantity) :
    (m.combineTop f).Prints m none := by
  unfold combineTop
  split
  · split <;> exact prints_nothing rfl rfl
  · exact prints_nothing rfl rfl

/-- The top of the stack is printed, whatever is kept of it. -/
theorem prints_printTop {op : Operator} {q : Quantity} {rest : List Quantity} {after : Machine}
    (hop : op = .print ∨ op = .take) (hs : m.stack = q :: rest)
    (hl : after.listening = m.listening) : (printTop q after).Prints m (some op) := by
  unfold printTop
  split
  · rename_i r hr
    refine ⟨hl, ?_⟩
    intro hlistening _
    have hheard : after.heard (.one r) = [.one r] := by rw [heard, hl, if_pos hlistening]
    have hshows : op.Shows m.stack [r] := by
      rcases hop with rfl | rfl <;> exact ⟨q, r, by rw [hs]; rfl, rfl, Quantity.shows_of_result hr⟩
    rw [hheard]
    exact .cons hshows .nil
  · exact prints_failed hl _ _

/-- The whole stack is printed, from its bottom, unless a value of it cannot be shown. -/
theorem prints_list (m : Machine) : (m.carryOut .list).Prints m (some .list) := by
  simp only [carryOut]
  split
  · rename_i rs hrs
    refine ⟨rfl, ?_⟩
    intro hlistening _
    have hheard : m.heard (.all rs) = [.all rs] := by rw [heard, if_pos hlistening]
    have hshows : List.Forall₂ Result.Shows rs m.stack.reverse :=
      ((forall₂_of_mapM hrs).imp fun _ _ => Quantity.shows_of_result).flip
    rw [hheard]
    exact .cons hshows .nil
  · exact prints_failed rfl _ _

theorem prints_carryOut (m : Machine) (op : Operator) :
    (m.carryOut op).Prints m (Lexeme.operator op).printing? := by
  cases op with
  | add | subtract | divide => exact m.prints_combineTop _
  | multiply => exact m.prints_combineTop fun x y => .ok (x.times y)
  | print =>
    simp only [carryOut]
    split
    · exact prints_failed rfl _ _
    · rename_i hs
      exact prints_printTop (.inl rfl) hs rfl
  | take =>
    simp only [carryOut]
    split
    · exact prints_failed rfl _ _
    · rename_i hs
      exact prints_printTop (.inr rfl) hs rfl
  | list => exact prints_list m
  | clear => exact prints_nothing rfl rfl
  | duplicate | swap =>
    simp only [carryOut]
    split <;> exact prints_nothing rfl rfl
  | reservedS | reservedU | reservedV => exact prints_nothing rfl rfl

/-- A token prints if it is a printing operator, and nothing else does. -/
theorem prints_step (m : Machine) (t : Lexeme) : (m.step t).Prints m t.printing? := by
  cases t with
  | number | store | load =>
    simp only [step]
    split <;> exact prints_nothing rfl rfl
  | unit text => exact prints_annotate m text
  | operator op => exact prints_carryOut m op

theorem listening_runTokens (m : Machine) (ts : List Lexeme) :
    (m.runTokens ts).machine.listening = m.listening := by
  induction ts generalizing m with
  | nil => rfl
  | cons t ts ih =>
    have ht := (m.prints_step t).listening
    cases he : (m.step t).error with
    | some e => rw [runTokens, andThen_stopped he, ht]
    | none =>
      rw [runTokens, andThen_going he]
      exact (ih _).trans ht

theorem listening_run (m : Machine) (text : String) :
    (m.run text).machine.listening = m.listening := by
  have ht := m.listening_runTokens (lexemes text)
  cases he : (m.runTokens (lexemes text)).error with
  | some e => rw [run_stopped he, ht]
  | none => rw [run_going he, ht]

/-- The stack that a token finds, the one behind the first `k` of some tokens. -/
def stackAt (m : Machine) (ts : List Lexeme) (k : Nat) : List Quantity :=
  (m.runTokens (ts.take k)).machine.stack

theorem stackAt_succ {t : Lexeme} (ht : (m.step t).error = none) (ts : List Lexeme) (k : Nat) :
    m.stackAt (t :: ts) (k + 1) = (m.step t).machine.stackAt ts k := by
  rw [stackAt, List.take_succ_cons, runTokens, andThen_going ht, stackAt]

/-- What some tokens print if none of them fails. -/
theorem runTokens_printed {ts : List Lexeme} (hl : m.listening = true)
    (h : (m.runTokens ts).error = none) :
    List.Forall₂ (fun x p => x.1.Shows (m.stackAt ts x.2) p.results) (Lexeme.printings ts)
      (m.runTokens ts).printed := by
  induction ts generalizing m with
  | nil => exact .nil
  | cons t ts ih =>
    have ht := m.prints_step t
    cases he : (m.step t).error with
    | some e => simp [runTokens, andThen_stopped he, he] at h
    | none =>
      rw [runTokens, andThen_going he] at h ⊢
      have hfirst : List.Forall₂ (fun x p => x.1.Shows (m.stackAt (t :: ts) x.2) p.results)
          (t.printing?.map (·, 0)).toList (m.step t).printed := by
        rw [Option.toList_map, List.forall₂_map_left_iff]
        exact ht.shown hl he
      have hrest := ih (ht.listening.trans hl) h
      rw [Lexeme.printings_cons]
      refine List.rel_append hfirst ?_
      rw [List.forall₂_map_left_iff]
      refine hrest.imp ?_
      intro x p hx
      rw [Prod.map_snd, stackAt_succ he]
      exact hx

end Machine

end DeskCalc
