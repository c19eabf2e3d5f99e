import DeskCalc.Machine
import DeskCalc.Proofs.Token.Grammar
import Mathlib.Algebra.Field.Rat
import Mathlib.Data.List.Induction
import Mathlib.Data.Nat.Digits.Defs
import Mathlib.Tactic.FieldSimp
import Mathlib.Tactic.Ring

namespace DeskCalc

open Text Lexer

namespace Numeral

/-- An optional sign, and whether it is a minus. -/
inductive Sign : Bool → List Char → Prop
  | absent : Sign false []
  | plus : Sign false ['+']
  | minus : Sign true ['-']

def Digits (ds : List Char) : Prop := ∀ d ∈ ds, isDigit d = true

/-- An optional point, and the digits after it, if any. -/
inductive Fraction : List Char → List Char → Prop
  | absent : Fraction [] []
  | present {ds} : Digits ds → Fraction ds ('.' :: ds)

/-- An optional exponent: its sign and its digits, at least one. -/
inductive Exponent : Bool → List Char → List Char → Prop
  | absent : Exponent false [] []
  | present {negative mark sign ds} : mark = 'e' ∨ mark = 'E' → Sign negative sign → ds ≠ [] →
      Digits ds → Exponent negative ds (mark :: (sign ++ ds))

/-- How a numeral is spelled. A decimal has a digit before its point or after it. -/
inductive Spells : Numeral → List Char → Prop
  | ratio {negative sign numerator denominator} : Sign negative sign →
      numerator ≠ [] → Digits numerator → denominator ≠ [] → Digits denominator →
      Spells (.ratio negative numerator denominator) (sign ++ (numerator ++ '/' :: denominator))
  | decimal {negative sign whole fraction point exponentNegative exponent power} :
      Sign negative sign → Digits whole → Fraction fraction point → whole ≠ [] ∨ fraction ≠ [] →
      Exponent exponentNegative exponent power →
      Spells (.decimal negative whole fraction exponentNegative exponent)
        (sign ++ (whole ++ (point ++ power)))

/-- The number that a run of digits writes in base ten. -/
def runValue (ds : List Char) : Nat :=
  Nat.ofDigits 10 (ds.map fun c => (digitValue? c).getD 0).reverse

/-- No run of digits is too long, and no denominator is zero. -/
def Within : Numeral → Prop
  | ratio _ numerator denominator =>
    numerator.length ≤ 4300 ∧ denominator.length ≤ 4300 ∧ runValue denominator ≠ 0
  | decimal _ whole fraction _ exponent =>
    whole.length ≤ 4300 ∧ fraction.length ≤ 4300 ∧ exponent.length ≤ 4300

def amount : Numeral → ℚ
  | ratio negative numerator denominator =>
    (if negative then -1 else 1) * (runValue numerator / runValue denominator)
  | decimal negative whole fraction exponentNegative exponent =>
    (if negative then -1 else 1) * (runValue whole + runValue fraction / 10 ^ fraction.length) *
      10 ^ (if exponentNegative then -(runValue exponent : ℤ) else runValue exponent)

variable {negative : Bool} {sign body ds cs : List Char} {n : Numeral} {q : ℚ}

def isSign (c : Char) : Bool := c = '+' || c = '-'

theorem takeSign_signed (h : Sign negative sign) (hb : Stops isSign body) :
    takeSign (sign ++ body) = (negative, body) := by
  cases h with
  | plus | minus => rfl
  | absent =>
    cases body with
    | nil => rfl
    | cons c body =>
      have hc : ¬ c = '+' ∧ ¬ c = '-' := by simpa [isSign] using stops_cons.mp hb
      rw [List.nil_append, takeSign]
      · intro rest h
        exact hc.2 (List.cons.inj h).1
      · intro rest h
        exact hc.1 (List.cons.inj h).1

theorem signed_of_takeSign (h : takeSign cs = (negative, body)) :
    ∃ sign, Sign negative sign ∧ cs = sign ++ body := by
  unfold takeSign at h
  split at h
  · obtain ⟨rfl, rfl⟩ := Prod.mk.inj h
    exact ⟨['-'], .minus, rfl⟩
  · obtain ⟨rfl, rfl⟩ := Prod.mk.inj h
    exact ⟨['+'], .plus, rfl⟩
  · obtain ⟨rfl, rfl⟩ := Prod.mk.inj h
    exact ⟨[], .absent, rfl⟩

theorem ne_of_isDigit {c d : Char} (h : isDigit c = true) (hd : isDigit d = false) : c ≠ d := by
  rintro rfl
  rw [hd] at h
  cases h

theorem isSign_digit {c : Char} (h : isDigit c = true) : isSign c = false := by
  have hplus : c ≠ '+' := ne_of_isDigit h (by decide)
  have hminus : c ≠ '-' := ne_of_isDigit h (by decide)
  simp [isSign, hplus, hminus]

theorem digits_all : ds.all isDigit = true ↔ Digits ds := List.all_eq_true

theorem stops_digits {p : Char → Bool} (hne : ds ≠ []) (hd : Digits ds)
    (hp : ∀ c, isDigit c = true → p c = false) (rest : List Char) : Stops p (ds ++ rest) := by
  cases ds with
  | nil => exact absurd rfl hne
  | cons d ds => exact stops_cons.mpr (hp d (hd d List.mem_cons_self))

theorem digits_takeWhile (cs : List Char) : Digits (cs.takeWhile isDigit) :=
  fun _ => List.mem_takeWhile_imp

theorem exponent?_eq_some_iff : exponent? cs = some (negative, ds) ↔ Exponent negative ds cs := by
  constructor
  · intro h
    cases cs with
    | nil =>
      obtain ⟨rfl, rfl⟩ := Prod.mk.inj (Option.some.inj h)
      exact .absent
    | cons mark rest =>
      cases htake : takeSign rest with
      | mk negative' digits =>
        simp only [exponent?, htake] at h
        split at h
        · rename_i hc
          obtain ⟨hmark, hne, hd⟩ := hc
          obtain ⟨rfl, rfl⟩ := Prod.mk.inj (Option.some.inj h)
          obtain ⟨sign, hsign, rfl⟩ := signed_of_takeSign htake
          exact .present hmark hsign hne (digits_all.mp hd)
        · cases h
  · intro h
    cases h with
    | absent => rfl
    | present hmark hsign hne hd =>
      have hs : Stops isSign ds := by
        simpa using stops_digits hne hd (fun c => isSign_digit) []
      simp only [exponent?, takeSign_signed hsign hs]
      rw [if_pos ⟨hmark, hne, digits_all.mpr hd⟩]

theorem stops_exponent {p : Char → Bool} (h : Exponent negative ds cs)
    (hp : p 'e' = false ∧ p 'E' = false) : Stops p cs := by
  cases h with
  | absent => exact stops_nil p
  | present hmark =>
    apply stops_cons.mpr
    rcases hmark with rfl | rfl
    · exact hp.1
    · exact hp.2

theorem takeFraction_pointed {fraction point power : List Char} (h : Fraction fraction point)
    (he : Exponent negative ds power) : takeFraction (point ++ power) = (fraction, power) := by
  cases h with
  | absent =>
    have hs : Stops (· = '.') power := stops_exponent he (by decide)
    cases power with
    | nil => rfl
    | cons c power =>
      have hc : ¬ c = '.' := by simpa using stops_cons.mp hs
      rw [List.nil_append, takeFraction]
      intro rest h
      exact hc (List.cons.inj h).1
  | present hd =>
    have hs : Stops isDigit power := stops_exponent he (by decide)
    rw [List.cons_append, takeFraction, takeWhile_run hd hs, dropWhile_run hd hs]

theorem pointed_of_takeFraction {fraction rest : List Char}
    (h : takeFraction cs = (fraction, rest)) :
    ∃ point, Fraction fraction point ∧ cs = point ++ rest := by
  unfold takeFraction at h
  split at h
  · rename_i more
    obtain ⟨rfl, rfl⟩ := Prod.mk.inj h
    refine ⟨'.' :: more.takeWhile isDigit, .present (digits_takeWhile more), ?_⟩
    rw [List.cons_append, List.takeWhile_append_dropWhile]
  · obtain ⟨rfl, rfl⟩ := Prod.mk.inj h
    exact ⟨[], .absent, rfl⟩

/-- The part of a decimal behind its whole digits does not go on with one. -/
theorem stops_point {fraction point power : List Char} (h : Fraction fraction point)
    (he : Exponent negative ds power) : Stops isDigit (point ++ power) := by
  cases h with
  | absent => exact stops_exponent he (by decide)
  | present => exact stops_cons.mpr (by decide)

/-- What is read as a decimal is spelled as one: whole digits, a fraction and an exponent, of which
the first two are not both missing. -/
theorem decimal?_eq_some_iff :
    decimal? negative cs = some n ↔ ∃ whole fraction point exponentNegative exponent power,
      n = .decimal negative whole fraction exponentNegative exponent ∧
      cs = whole ++ (point ++ power) ∧ Digits whole ∧ Fraction fraction point ∧
      (whole ≠ [] ∨ fraction ≠ []) ∧ Exponent exponentNegative exponent power := by
  constructor
  · intro h
    cases htake : takeFraction (cs.dropWhile isDigit) with
    | mk fraction power =>
      simp only [decimal?, htake] at h
      split at h
      · cases h
      · rename_i hsome
        obtain ⟨⟨exponentNegative, exponent⟩, he, rfl⟩ := Option.map_eq_some_iff.mp h
        obtain ⟨point, hpoint, hrest⟩ := pointed_of_takeFraction htake
        refine ⟨_, _, point, _, _, power, rfl, ?_, digits_takeWhile cs, hpoint, ?_,
          exponent?_eq_some_iff.mp he⟩
        · rw [← hrest, List.takeWhile_append_dropWhile]
        · exact not_and_or.mp hsome
  · rintro ⟨whole, fraction, point, exponentNegative, exponent, power, rfl, rfl, hd, hpoint, hsome,
      he⟩
    have hs := stops_point hpoint he
    have hsome' : ¬ (whole = [] ∧ fraction = []) := not_and_or.mpr hsome
    simp only [decimal?, takeWhile_run hd hs, dropWhile_run hd hs,
      takeFraction_pointed hpoint he, if_neg hsome',
      exponent?_eq_some_iff.mpr he, Option.map_some]

/-- What is read as a ratio has digits on both sides of its stroke. -/
theorem ratio?_eq_some_iff :
    ratio? negative cs = some n ↔ ∃ numerator denominator,
      n = .ratio negative numerator denominator ∧ cs = numerator ++ '/' :: denominator ∧
      numerator ≠ [] ∧ Digits numerator ∧ denominator ≠ [] ∧ Digits denominator := by
  constructor
  · intro h
    simp only [ratio?] at h
    split at h
    · rename_i denominator hrest
      split at h
      · rename_i hc
        obtain ⟨hn, hdne, hd⟩ := hc
        refine ⟨_, denominator, (Option.some.inj h).symm, ?_, hn, digits_takeWhile cs, hdne,
          digits_all.mp hd⟩
        rw [← hrest, List.takeWhile_append_dropWhile]
      · cases h
    · cases h
  · rintro ⟨numerator, denominator, rfl, rfl, hn, hnd, hdne, hd⟩
    have hs : Stops isDigit ('/' :: denominator) := stops_cons.mpr (by decide)
    simp only [ratio?, takeWhile_run hnd hs, dropWhile_run hnd hs]
    rw [if_pos ⟨hn, hdne, digits_all.mpr hd⟩]

/-- No decimal has a slash behind its whole digits. -/
theorem ratio?_decimal {whole fraction point power : List Char} {exponentNegative : Bool}
    (hd : Digits whole) (hpoint : Fraction fraction point)
    (he : Exponent exponentNegative ds power) (negative : Bool) :
    ratio? negative (whole ++ (point ++ power)) = none := by
  simp only [ratio?, takeWhile_run hd (stops_point hpoint he),
    dropWhile_run hd (stops_point hpoint he)]
  cases hpoint with
  | present => rfl
  | absent =>
    cases he with
    | absent => rfl
    | present hmark => rcases hmark with rfl | rfl <;> rfl

theorem stops_decimal {whole fraction point : List Char} (hd : Digits whole)
    (hpoint : Fraction fraction point) (hsome : whole ≠ [] ∨ fraction ≠ []) (power : List Char) :
    Stops isSign (whole ++ (point ++ power)) := by
  by_cases hwhole : whole = []
  · cases hpoint with
    | absent => simp [hwhole] at hsome
    | present =>
      rw [hwhole]
      exact stops_cons.mpr (by decide)
  · exact stops_digits hwhole hd (fun c => isSign_digit) _

/-- The reader reads the numerals that the grammar spells, and nothing else. -/
theorem ofText?_eq_some_iff : ofText? cs = some n ↔ Spells n cs := by
  constructor
  · intro h
    cases htake : takeSign cs with
    | mk negative body =>
      obtain ⟨sign, hsign, rfl⟩ := signed_of_takeSign htake
      simp only [ofText?, htake] at h
      rcases Option.or_eq_some_iff.mp h with h | ⟨-, h⟩
      · obtain ⟨numerator, denominator, rfl, rfl, hn, hnd, hdne, hd⟩ := ratio?_eq_some_iff.mp h
        exact .ratio hsign hn hnd hdne hd
      · obtain ⟨whole, fraction, point, exponentNegative, exponent, power, rfl, rfl, hd, hpoint,
          hsome, he⟩ := decimal?_eq_some_iff.mp h
        exact .decimal hsign hd hpoint hsome he
  · intro h
    cases h with
    | @ratio _ _ _ denominator hsign hn hnd hdne hd =>
      have hs := stops_digits hn hnd (fun c => isSign_digit) ('/' :: denominator)
      simp only [ofText?, takeSign_signed hsign hs]
      exact Option.or_eq_some_iff.mpr
        (.inl (ratio?_eq_some_iff.mpr ⟨_, _, rfl, rfl, hn, hnd, hdne, hd⟩))
    | @decimal _ _ _ _ _ _ _ power hsign hd hpoint hsome he =>
      have hs := stops_decimal hd hpoint hsome power
      simp only [ofText?, takeSign_signed hsign hs]
      exact Option.or_eq_some_iff.mpr (.inr ⟨ratio?_decimal hd hpoint he _,
        decimal?_eq_some_iff.mpr ⟨_, _, _, _, _, _, rfl, rfl, hd, hpoint, hsome, he⟩⟩)

theorem runValue_append (ds es : List Char) :
    runValue (ds ++ es) = runValue ds * 10 ^ es.length + runValue es := by
  rw [runValue, List.map_append, List.reverse_append, Nat.ofDigits_append, List.length_reverse,
    List.length_map, runValue, runValue]
  ring

/-- Reading digits from the left gives the sum of their values by place. -/
theorem digitsValue_eq (ds : List Char) : digitsValue ds = runValue ds := by
  induction ds using List.reverseRecOn with
  | nil => rfl
  | append_singleton ds d ih =>
    have hlast : digitsValue (ds ++ [d]) = 10 * digitsValue ds + (digitValue? d).getD 0 := by
      simp [digitsValue]
    have hone : runValue [d] = (digitValue? d).getD 0 := by simp [runValue]
    rw [hlast, runValue_append, hone, ih, List.length_singleton]
    ring

theorem shifted_eq (x : ℚ) (negative : Bool) (k : Nat) :
    shifted x negative k = x * 10 ^ (if negative then -(k : ℤ) else k) := by
  cases negative with
  | false => simp [shifted]
  | true => simp [shifted, div_eq_mul_inv]

theorem signed_eq (negative : Bool) (x : ℚ) :
    signed negative x = (if negative then -1 else 1) * x := by
  cases negative <;> simp [signed]

/-- A numeral has its exact value, if none of its runs is too long and it does not divide by
zero. -/
theorem value?_eq_some_iff : n.value? = some q ↔ n.Within ∧ q = n.amount := by
  cases n with
  | ratio negative numerator denominator =>
    simp only [value?, digitsValue_eq, Within, digitLimit]
    split
    · rename_i h
      have hvalue : signed negative (mkRat (runValue numerator) (runValue denominator)) =
          (ratio negative numerator denominator).amount := by
        rw [signed_eq, Rat.mkRat_eq_div, amount]
        push_cast
        rfl
      rw [hvalue]
      simp [h, eq_comm]
    · rename_i h
      simp [h]
  | decimal negative whole fraction exponentNegative exponent =>
    simp only [value?, digitsValue_eq, Within, digitLimit]
    split
    · rename_i h
      have hmantissa : mkRat (runValue (whole ++ fraction)) (Nat.pow 10 fraction.length) =
          runValue whole + runValue fraction / 10 ^ fraction.length := by
        rw [Rat.mkRat_eq_div, runValue_append, Nat.pow_eq]
        push_cast
        field_simp
      have hvalue : signed negative (shifted (mkRat (runValue (whole ++ fraction))
          (Nat.pow 10 fraction.length)) exponentNegative (runValue exponent)) =
          (decimal negative whole fraction exponentNegative exponent).amount := by
        rw [signed_eq, shifted_eq, hmantissa, amount, mul_assoc]
      rw [hvalue]
      simp [h, eq_comm]
    · rename_i h
      simp [h]

theorem exists_padding (p : Char → Bool) (cs : List Char) :
    ∃ before after, cs = before ++ trimmed p cs ++ after ∧ (∀ c ∈ before, p c = true) ∧
      ∀ c ∈ after, p c = true := by
  refine ⟨cs.takeWhile p, ((cs.dropWhile p).reverse.takeWhile p).reverse, ?_, ?_, ?_⟩
  · have hback : trimmed p cs ++ ((cs.dropWhile p).reverse.takeWhile p).reverse =
        cs.dropWhile p := by
      rw [trimmed, ← List.reverse_append, List.takeWhile_append_dropWhile, List.reverse_reverse]
    rw [List.append_assoc, hback, List.takeWhile_append_dropWhile]
  · exact fun c => List.mem_takeWhile_imp
  · intro c hc
    exact List.mem_takeWhile_imp (List.mem_reverse.mp hc)

/-- Trimming takes away the blanks at both ends, and nothing else where the text holds none. -/
theorem trimmed_padded {p : Char → Bool} {before after : List Char}
    (hbefore : ∀ c ∈ before, p c = true) (hafter : ∀ c ∈ after, p c = true)
    (hbody : ∀ c ∈ body, p c = false) : trimmed p (before ++ body ++ after) = body := by
  have hstops : Stops p body := fun c hc => hbody c (List.mem_of_mem_head? hc)
  have hstops' : Stops p body.reverse := by
    intro c hc
    exact hbody c (List.mem_reverse.mp (List.mem_of_mem_head? hc))
  have hfront : (before ++ body ++ after).dropWhile p = (body ++ after).dropWhile p := by
    rw [List.append_assoc, List.dropWhile_append_of_pos hbefore]
  cases body with
  | nil =>
    have hall : after.dropWhile p = [] := by
      simpa using hafter
    rw [trimmed, hfront, List.nil_append, hall]
    rfl
  | cons c body =>
    have hkept : (c :: body ++ after).dropWhile p = c :: body ++ after := by
      simp [stops_cons.mp hstops]
    have hafter' : ∀ c ∈ after.reverse, p c = true := by
      intro c hc
      exact hafter c (List.mem_reverse.mp hc)
    rw [trimmed, hfront, hkept, List.reverse_append, dropWhile_run hafter' hstops',
      List.reverse_reverse]

/-- A blank is no decimal digit of any script. -/
theorem isBlank_digit {c : Char} (h : isDigit c = true) : isBlank c = false := by
  have apart : ∀ first ∈ zeroCodes, ∀ blank ∈ blankCodes,
      ¬ (first ≤ blank ∧ blank < first + 10) := by
    decide
  obtain ⟨value, hvalue⟩ := Option.isSome_iff_exists.mp h
  obtain ⟨first, hfirst, -⟩ := Option.map_eq_some_iff.mp hvalue
  have hrange : first ≤ c.toNat ∧ c.toNat < first + 10 := by
    simpa using List.find?_some hfirst
  by_contra hblank
  have hmem : c.toNat ∈ blankCodes := by simpa [isBlank] using hblank
  exact apart first (List.mem_of_find?_eq_some hfirst) _ hmem hrange

theorem isBlank_digits (h : Digits ds) : ∀ c ∈ ds, isBlank c = false :=
  fun c hc => isBlank_digit (h c hc)

theorem isBlank_sign (h : Sign negative sign) : ∀ c ∈ sign, isBlank c = false := by
  have visible : isBlank '+' = false ∧ isBlank '-' = false := by decide
  cases h with
  | absent => simp
  | plus => simpa using visible.1
  | minus => simpa using visible.2

theorem isBlank_fraction {fraction point : List Char} (h : Fraction fraction point) :
    ∀ c ∈ point, isBlank c = false := by
  cases h with
  | absent => simp
  | present hd => exact List.forall_mem_cons.mpr ⟨by decide, isBlank_digits hd⟩

theorem isBlank_exponent {power : List Char} (h : Exponent negative ds power) :
    ∀ c ∈ power, isBlank c = false := by
  cases h with
  | absent => simp
  | present hmark hsign _ hd =>
    refine List.forall_mem_cons.mpr ⟨?_, ?_⟩
    · rcases hmark with rfl | rfl <;> decide
    · exact List.forall_mem_append.mpr ⟨isBlank_sign hsign, isBlank_digits hd⟩

/-- No blank stands within a numeral, so those around it can be told from it. -/
theorem isBlank_spells (h : Spells n body) : ∀ c ∈ body, isBlank c = false := by
  cases h with
  | @ratio _ _ _ denominator hsign _ hnd _ hd =>
    have hslash : ∀ c ∈ '/' :: denominator, isBlank c = false :=
      List.forall_mem_cons.mpr ⟨by decide, isBlank_digits hd⟩
    exact List.forall_mem_append.mpr ⟨isBlank_sign hsign,
      List.forall_mem_append.mpr ⟨isBlank_digits hnd, hslash⟩⟩
  | decimal hsign hd hpoint _ he =>
    have hback := List.forall_mem_append.mpr ⟨isBlank_fraction hpoint, isBlank_exponent he⟩
    exact List.forall_mem_append.mpr ⟨isBlank_sign hsign,
      List.forall_mem_append.mpr ⟨isBlank_digits hd, hback⟩⟩

/-- A text in which a numeral stands between blanks, and the number that it stands for. -/
def Denotes (w : List Char) (q : ℚ) : Prop :=
  ∃ (before body after : List Char) (n : Numeral), w = before ++ body ++ after ∧
    (∀ c ∈ before, isBlank c = true) ∧ (∀ c ∈ after, isBlank c = true) ∧
    n.Spells body ∧ n.Within ∧ q = n.amount

end Numeral

open Numeral

/-- A text is a number exactly if it is spelled as one, and of the value that its digits write. -/
theorem number?_eq_some_iff {text : String} {q : ℚ} :
    number? text = some q ↔ Denotes (text.toList.filter (· ≠ '_')) q := by
  rw [number?, Option.bind_eq_some_iff]
  constructor
  · rintro ⟨n, hn, hq⟩
    obtain ⟨before, after, hw, hbefore, hafter⟩ :=
      exists_padding isBlank (text.toList.filter (· ≠ '_'))
    obtain ⟨hwithin, hamount⟩ := value?_eq_some_iff.mp hq
    exact ⟨before, _, after, n, hw, hbefore, hafter, ofText?_eq_some_iff.mp hn, hwithin, hamount⟩
  · rintro ⟨before, body, after, n, hw, hbefore, hafter, hn, hwithin, hamount⟩
    rw [hw, trimmed_padded hbefore hafter (isBlank_spells hn)]
    exact ⟨n, ofText?_eq_some_iff.mpr hn, value?_eq_some_iff.mpr ⟨hwithin, hamount⟩⟩

/-- A text is read as a number exactly if the grammar gives it one, and then as that number, which
the machine puts on its stack; any other text fails and is told as it was written. -/
theorem number_read_exactly (text : String) (m : Machine) :
    let w := text.toList.filter (· ≠ '_')
    (∀ q, number? text = some q ↔ Denotes w q) ∧
    (∀ q, Denotes w q → m.step (.number text) = .done (m.withStack (.pure q :: m.stack))) ∧
    ((¬ ∃ q, Denotes w q) → m.step (.number text) = .failed m (.invalidNumber text)) ∧
    (MachineError.invalidNumber text).fault = ⟨.engine, some ("Invalid number: " ++ text)⟩ := by
  refine ⟨fun q => number?_eq_some_iff, ?_, ?_, rfl⟩
  · intro q hq
    simp only [Machine.step, number?_eq_some_iff.mpr hq]
  · intro hnone
    have hread : number? text = none := by
      rw [Option.eq_none_iff_forall_ne_some]
      intro q hq
      exact hnone ⟨q, number?_eq_some_iff.mp hq⟩
    simp only [Machine.step, hread]

/-- A decimal with a separator, a bare point and a negative exponent, and a ratio without value. -/
theorem numbers_read_exactly :
    Denotes ("1_0.e-3".toList.filter (· ≠ '_')) (1 / 100) ∧
    Machine.empty.step (.number "1_0.e-3") = .done (Machine.empty.withStack [.pure (1 / 100)]) ∧
    (¬ ∃ q, Denotes ("1/0".toList.filter (· ≠ '_')) q) ∧
    Machine.empty.step (.number "1/0") = .failed Machine.empty (.invalidNumber "1/0") := by
  obtain ⟨hread, hdone, -⟩ := number_read_exactly "1_0.e-3" Machine.empty
  have hq : Denotes ("1_0.e-3".toList.filter (· ≠ '_')) (1 / 100) :=
    (hread _).mp (by decide +kernel)
  obtain ⟨hread', -, hfailed, -⟩ := number_read_exactly "1/0" Machine.empty
  have hnone : ¬ ∃ q, Denotes ("1/0".toList.filter (· ≠ '_')) q := by
    rintro ⟨q, hq'⟩
    have hvalue : number? "1/0" = none := by decide +kernel
    rw [(hread' q).mpr hq'] at hvalue
    cases hvalue
  exact ⟨hq, hdone _ hq, hnone, hfailed hnone⟩

end DeskCalc
