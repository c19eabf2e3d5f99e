import DeskCalc.Proofs.Machine.Printing
import DeskCalc.Proofs.Token.Spelling

namespace DeskCalc

/-- The same machine, but with nobody who listens. -/
def Machine.unheard (m : Machine) : Machine := { m with listening := false }

/-- What an outcome is where nobody listens. -/
def Outcome.unheard (o : Outcome) : Outcome := ⟨o.machine.unheard, [], o.error⟩

namespace Machine

open Outcome

variable {m : Machine} {t : Lexeme} {ts : List Lexeme} {removed : Nat → Bool}

theorem printTop_unheard (q : Quantity) (after : Machine) :
    printTop q after.unheard = (printTop q after).unheard := by
  unfold printTop
  split <;> rfl

theorem combineTop_unheard (m : Machine)
    (f : Quantity → Quantity → Except MachineError Quantity) :
    m.unheard.combineTop f = (m.combineTop f).unheard := by
  have hs : m.unheard.stack = m.stack := rfl
  unfold combineTop
  rw [hs]
  split
  · split <;> rfl
  · rfl

theorem annotate_unheard (m : Machine) (text : String) :
    m.unheard.annotate text = (m.annotate text).unheard := by
  have hs : m.unheard.stack = m.stack := rfl
  unfold annotate
  rw [hs]
  split
  · rfl
  · split
    · rfl
    · split_ifs <;> rfl

theorem carryOut_unheard (m : Machine) (op : Operator) :
    m.unheard.carryOut op = (m.carryOut op).unheard := by
  have hs : m.unheard.stack = m.stack := rfl
  cases op with
  | add | subtract | divide => exact m.combineTop_unheard _
  | multiply => exact m.combineTop_unheard fun x y => .ok (x.times y)
  | print =>
    simp only [carryOut, hs]
    split
    · rfl
    · exact printTop_unheard _ m
  | take =>
    simp only [carryOut, hs]
    split
    · rfl
    · exact printTop_unheard _ (m.withStack _)
  | list | duplicate | swap =>
    simp only [carryOut, hs]
    split <;> rfl
  | clear => rfl
  | reservedS | reservedU | reservedV => rfl

/-- Each token does the same without a listener, and fails in the same way. -/
theorem step_unheard (m : Machine) (t : Lexeme) : m.unheard.step t = (m.step t).unheard := by
  have hs : m.unheard.stack = m.stack := rfl
  have hm : m.unheard.memory = m.memory := rfl
  cases t with
  | number | store | load =>
    simp only [step, hs, hm]
    split <;> rfl
  | unit text => exact m.annotate_unheard text
  | operator op => exact m.carryOut_unheard op

theorem andThen_unheard (o : Outcome) {next : Machine → Outcome}
    (h : ∀ m : Machine, next m.unheard = (next m).unheard) :
    o.unheard.andThen next = (o.andThen next).unheard := by
  cases he : o.error with
  | some e =>
    have hu : o.unheard.error = some e := he
    rw [andThen_stopped he, andThen_stopped hu]
  | none =>
    have hu : o.unheard.error = none := he
    rw [andThen_going he, andThen_going hu]
    have hnext : next o.unheard.machine = (next o.machine).unheard := h o.machine
    rw [hnext]
    rfl

theorem runTokens_unheard (m : Machine) (ts : List Lexeme) :
    m.unheard.runTokens ts = (m.runTokens ts).unheard := by
  induction ts generalizing m with
  | nil => rfl
  | cons t ts ih =>
    rw [runTokens, runTokens, step_unheard]
    exact andThen_unheard _ ih

theorem run_unheard (m : Machine) (text : String) : m.unheard.run text = (m.run text).unheard := by
  rw [run_eq, run_eq, runTokens_unheard]
  apply andThen_unheard
  intro m
  cases (lex text).error <;> rfl

end Machine

/-- Whether an operator prints and does nothing else. -/
def Operator.onlyPrints : Operator → Bool
  | print | list => true
  | _ => false

def Lexeme.onlyPrints : Lexeme → Bool
  | operator op => op.onlyPrints
  | _ => false

/-- Some tokens without those that only print and whose number is among the removed ones. -/
def Lexeme.thinned (removed : Nat → Bool) (ts : List Lexeme) : List Lexeme :=
  (ts.zipIdx.filter fun x => !(x.1.onlyPrints && removed x.2)).map Prod.fst

/-- What the tokens print that are left of some of them, if `printed` is what all of them print. -/
def Printout.thinned (removed : Nat → Bool) (ts : List Lexeme) (printed : List Printout) :
    List Printout :=
  (((Lexeme.printings ts).zip printed).filter
    fun x => !(x.1.1.onlyPrints && removed x.1.2)).map Prod.snd

variable {m : Machine} {t : Lexeme} {ts : List Lexeme} {removed : Nat → Bool}

theorem Lexeme.thinned_cons (removed : Nat → Bool) (t : Lexeme) (ts : List Lexeme) :
    thinned removed (t :: ts) =
      (if t.onlyPrints && removed 0 then [] else [t]) ++ thinned (fun k => removed (k + 1)) ts := by
  have hrest : (ts.zipIdx 1).filter (fun x => !(x.1.onlyPrints && removed x.2)) =
      (ts.zipIdx.filter fun x => !(x.1.onlyPrints && removed (x.2 + 1))).map
        (Prod.map id (· + 1)) := by
    rw [List.zipIdx_succ, List.filter_map]
    rfl
  rw [thinned, List.zipIdx_cons, List.filter_cons, hrest, thinned]
  cases t.onlyPrints && removed 0 <;> simp [Function.comp_def]

theorem Lexeme.operator_of_printing? {op : Operator} (h : t.printing? = some op) :
    t = .operator op := by
  cases t with
  | operator op' =>
    simp only [printing?, Option.ite_none_right_eq_some, Option.some.injEq] at h
    rw [h.2]
  | number | unit | store | load => cases h

theorem Printout.thinned_nil (removed : Nat → Bool) (ts : List Lexeme) :
    thinned removed ts [] = [] := by
  simp [thinned]

/-- The first token takes its own part of what is printed. -/
theorem Printout.thinned_cons (removed : Nat → Bool) (ts : List Lexeme) {own : List Printout}
    (h : own.length = t.printing?.toList.length) (rest : List Printout) :
    thinned removed (t :: ts) (own ++ rest) =
      (if t.onlyPrints && removed 0 then [] else own) ++
        thinned (fun k => removed (k + 1)) ts rest := by
  have hrest : ((((Lexeme.printings ts).map (Prod.map id (· + 1))).zip rest).filter
      fun x => !(x.1.1.onlyPrints && removed x.1.2)).map Prod.snd =
        thinned (fun k => removed (k + 1)) ts rest := by
    rw [List.zip_map_left, List.filter_map, List.map_map]
    rfl
  cases hp : t.printing? with
  | none =>
    rw [hp] at h
    obtain rfl : own = [] := List.eq_nil_of_length_eq_zero h
    rw [thinned, Lexeme.printings_cons, hp, ← hrest]
    simp
  | some op =>
    rw [hp] at h
    obtain ⟨p, rfl⟩ := List.length_eq_one_iff.mp h
    obtain rfl := Lexeme.operator_of_printing? hp
    change _ = (if op.onlyPrints && removed 0 then [] else [p]) ++ _
    rw [thinned, Lexeme.printings_cons, hp, ← hrest]
    simp only [Option.map_some, Option.toList_some, List.singleton_append, List.zip_cons_cons,
      List.filter_cons]
    by_cases hr : (op.onlyPrints && removed 0) = true
    · rw [if_pos hr, if_neg (by rw [hr]; decide), List.nil_append]
    · rw [if_neg hr, if_pos (by rw [Bool.eq_false_iff.mpr hr]; rfl)]
      rfl

namespace Machine

open Outcome

/-- A token that only prints leaves the machine as it is, also if it fails. -/
theorem step_onlyPrints (ht : t.onlyPrints = true) : (m.step t).machine = m := by
  cases t with
  | operator op =>
    cases op with
    | print =>
      simp only [step, carryOut]
      split
      · rfl
      · simp only [printTop]
        split <;> rfl
    | list =>
      simp only [step, carryOut]
      split <;> rfl
    | _ => cases ht
  | number | unit | store | load => cases ht

/-- Where someone listens, each token takes its own part of what is printed with it. -/
theorem runTokens_thinned_heard (hl : m.listening = true) (h : (m.runTokens ts).error = none)
    (removed : Nat → Bool) :
    m.runTokens (Lexeme.thinned removed ts) =
      ⟨(m.runTokens ts).machine, Printout.thinned removed ts (m.runTokens ts).printed, none⟩ := by
  induction ts generalizing m removed with
  | nil => rfl
  | cons t ts ih =>
    have ht := m.prints_step t
    cases he : (m.step t).error with
    | some e => simp [runTokens, andThen_stopped he, he] at h
    | none =>
      have hlength : (m.step t).printed.length = t.printing?.toList.length :=
        (ht.shown hl he).length_eq.symm
      have hcut : m.runTokens (t :: ts) =
          ⟨((m.step t).machine.runTokens ts).machine,
            (m.step t).printed ++ ((m.step t).machine.runTokens ts).printed,
            ((m.step t).machine.runTokens ts).error⟩ := by
        rw [runTokens, andThen_going he]
      rw [hcut] at h ⊢
      rw [Printout.thinned_cons removed ts hlength, Lexeme.thinned_cons]
      have hrest := ih (ht.listening.trans hl) h fun k => removed (k + 1)
      by_cases hr : (t.onlyPrints && removed 0) = true
      · have hsame : (m.step t).machine = m := step_onlyPrints (Bool.and_eq_true _ _ ▸ hr).1
        rw [if_pos hr, if_pos hr, List.nil_append, List.nil_append, ← hrest, hsame]
      · rw [if_neg hr, if_neg hr, List.singleton_append, runTokens, andThen_going he, hrest]

/-- Tokens that are carried out are so, with the same result, without those left out of them. -/
theorem runTokens_thinned (h : (m.runTokens ts).error = none) (removed : Nat → Bool) :
    m.runTokens (Lexeme.thinned removed ts) =
      ⟨(m.runTokens ts).machine, Printout.thinned removed ts (m.runTokens ts).printed, none⟩ := by
  cases hl : m.listening with
  | true => exact runTokens_thinned_heard hl h removed
  | false =>
    -- The machine is one that is listened to, without its listener; so nothing is printed.
    have hm : (⟨m.stack, m.memory, true⟩ : Machine).unheard = m := by
      ext1
      · rfl
      · rfl
      · exact hl.symm
    have hrun (ts : List Lexeme) :
        m.runTokens ts = ((⟨m.stack, m.memory, true⟩ : Machine).runTokens ts).unheard := by
      rw [← runTokens_unheard, hm]
    rw [hrun ts] at h ⊢
    rw [hrun, runTokens_thinned_heard rfl h]
    change _ = (⟨_, Printout.thinned removed ts [], none⟩ : Outcome)
    rw [Printout.thinned_nil]
    rfl

theorem run_spelled (m : Machine) (h : ∀ t ∈ ts, t.WellFormed) :
    m.run (.ofList (Lexeme.spelled ts)) = m.runTokens ts := by
  have hread : Lexer.ReadsAs (String.ofList (Lexeme.spelled ts)).toList ts := by
    rw [String.toList_ofList]
    exact Lexer.readsAs_spelled h
  obtain ⟨hlex, htokens⟩ := hread.lex
  have hts : lexemes (.ofList (Lexeme.spelled ts)) = ts := htokens
  cases he : (m.runTokens ts).error with
  | some e => rw [run_stopped (by rw [hts, he]), hts]
  | none =>
    rw [run_going (by rw [hts, he]), hts, hlex, Option.map_none, ← he]

/-- The tokens that are left are tokens of the text, so they can be written out. -/
theorem wellFormed_thinned (text : String) (removed : Nat → Bool) :
    ∀ t ∈ Lexeme.thinned removed (lexemes text), t.WellFormed := by
  intro t ht
  obtain ⟨⟨u, k⟩, hu, rfl⟩ := List.mem_map.mp ht
  have hmem : u ∈ lexemes text := List.fst_mem_of_mem_zipIdx (List.mem_filter.mp hu).1
  exact (Lexer.reads_scan .start text.toList).wellFormed u hmem

/-- A machine ends in the same state and with the same error, whatever the text, whether or not
someone listens to it; a machine that nobody listens to prints nothing. If a text is carried out,
each of its printing operators prints what it shows of the stack that it finds; and the tokens of
the text, without any of its operators that only print, are carried out as a text of their own, end
in the same state, and print what the printing operators that are left have printed before. -/
theorem printing_without_influence (m : Machine) (text : String) :
    (∀ listening : Bool,
      let o := ({ m with listening := listening } : Machine).run text
      o.machine.stack = (m.run text).machine.stack ∧
        o.machine.memory = (m.run text).machine.memory ∧ o.error = (m.run text).error ∧
        (listening = false → o.printed = [])) ∧
    ((m.run text).error = none →
      (m.listening = true →
        List.Forall₂ (fun x p => x.1.Shows (m.stackAt (lexemes text) x.2) p.results)
          (Lexeme.printings (lexemes text)) (m.run text).printed) ∧
      ∀ removed : Nat → Bool,
        let o := m.run (.ofList (Lexeme.spelled (Lexeme.thinned removed (lexemes text))))
        o.error = none ∧ o.machine = (m.run text).machine ∧
          o.printed = Printout.thinned removed (lexemes text) (m.run text).printed) := by
  constructor
  · intro listening o
    have hm : ({ m with listening := listening } : Machine).unheard = m.unheard := rfl
    have ho : o.unheard = (m.run text).unheard := by rw [← run_unheard, hm, run_unheard]
    refine ⟨?_, ?_, ?_, ?_⟩
    · exact congrArg (·.machine.stack) ho
    · exact congrArg (·.machine.memory) ho
    · exact congrArg (·.error) ho
    · rintro rfl
      have hu : o = (m.run text).unheard := run_unheard m text
      rw [hu]
      rfl
  · intro h
    obtain ⟨-, hrun, heq⟩ := run_completed h
    refine ⟨?_, ?_⟩
    · intro hl
      rw [heq]
      exact runTokens_printed hl hrun
    · intro removed o
      have ho : o = m.runTokens (Lexeme.thinned removed (lexemes text)) :=
        run_spelled m (wellFormed_thinned text removed)
      rw [ho, runTokens_thinned hrun, heq]
      exact ⟨rfl, rfl, rfl⟩

/-- A sum that is shown on the way, listed and printed; without its first two prints, it is only
shown at the end. -/
theorem sum_without_first_prints :
    let m : Machine := ⟨[], [], true⟩
    let removed (k : Nat) : Bool := k < 5
    let o := m.run "1 2 + p n"
    (m.run "1 p 2 f + p n # f").error = none ∧
    String.ofList (Lexeme.spelled (Lexeme.thinned removed (lexemes "1 p 2 f + p n # f"))) =
      "1 2 + p n" ∧
    o.error = none ∧ o.machine = (m.run "1 p 2 f + p n # f").machine ∧
    (m.run "1 p 2 f + p n # f").printed.length = 4 ∧
    o.printed = (m.run "1 p 2 f + p n # f").printed.drop 2 := by
  intro m removed o
  have h : (m.run "1 p 2 f + p n # f").error = none := by decide +kernel
  have hs : String.ofList (Lexeme.spelled (Lexeme.thinned removed (lexemes "1 p 2 f + p n # f"))) =
      "1 2 + p n" := by decide +kernel
  obtain ⟨hshown, hthinned⟩ := (printing_without_influence m _).2 h
  have hlength : (m.run "1 p 2 f + p n # f").printed.length = 4 := by
    rw [← (hshown rfl).length_eq]
    decide +kernel
  have hlast : Printout.thinned removed (lexemes "1 p 2 f + p n # f")
      (m.run "1 p 2 f + p n # f").printed = (m.run "1 p 2 f + p n # f").printed.drop 2 := by
    decide +kernel
  obtain ⟨herror, hmachine, hprinted⟩ := hthinned removed
  rw [hs] at herror hmachine hprinted
  exact ⟨h, hs, herror, hmachine, hlength, hprinted.trans hlast⟩

end Machine

end DeskCalc
