import DeskCalc.Proofs.Editor.Effect
import DeskCalc.Proofs.Transcript
import Mathlib.Data.List.DropRight

namespace DeskCalc

/-- What one key adds to a text: a token, a unit with its modifier, or a blank. -/
inductive Entry
  | token (text : String) (cls : TokenClass)
  | blank (c : Char)
  deriving DecidableEq

namespace Stroke

def select (selected : Option Modifier) : Stroke → Option Modifier
  | modifier m => if selected = some m then none else some m
  | token _ _ => none
  | action _ => selected

/-- What a stroke adds, if it adds something. -/
def enters? (selected : Option Modifier) : Stroke → Option Entry
  | token text .unit => some (.token ((selected.map Modifier.symbol).getD "" ++ text) .unit)
  | token text cls => some (.token text cls)
  | action .space => some (.blank ' ')
  | action .newline => some (.blank '\n')
  | _ => none

/-- Whether a stroke writes or selects, or clears what is written: it neither takes back a single
character nor submits. -/
def writes : Stroke → Bool
  | action .backspace | action .submit => false
  | _ => true

end Stroke

namespace Entry

def ofStrokes (selected : Option Modifier) : List Stroke → List Entry
  | [] => []
  | k :: ks => (k.enters? selected).toList ++ ofStrokes (k.select selected) ks

/-- What the strokes since the last clearing add. -/
def sinceClear (ks : List Stroke) : List Entry :=
  ofStrokes ((ks.rdropWhile (· ≠ .action .clear)).foldl Stroke.select none)
    (ks.rtakeWhile (· ≠ .action .clear))

theorem ofStrokes_snoc (selected : Option Modifier) (ks : List Stroke) (k : Stroke) :
    ofStrokes selected (ks ++ [k]) =
      ofStrokes selected ks ++ (k.enters? (ks.foldl Stroke.select selected)).toList := by
  induction ks generalizing selected with
  | nil => simp [ofStrokes]
  | cons j ks ih => simp [ofStrokes, ih, List.append_assoc]

theorem sinceClear_clear (ks : List Stroke) : sinceClear (ks ++ [.action .clear]) = [] := by
  simp [sinceClear, ofStrokes]

/-- A key other than the one that clears adds its entry, with the modifier selected at its press. -/
theorem sinceClear_snoc (ks : List Stroke) {k : Stroke} (hk : k ≠ .action .clear) :
    sinceClear (ks ++ [k]) =
      sinceClear ks ++ (k.enters? (ks.foldl Stroke.select none)).toList := by
  have hall : ks.rdropWhile (· ≠ .action .clear) ++ ks.rtakeWhile (· ≠ .action .clear) = ks :=
    List.rdropWhile_append_rtakeWhile ..
  have hp : decide (k ≠ .action .clear) = true := decide_eq_true hk
  rw [sinceClear, List.rdropWhile_concat_pos (fun k => decide (k ≠ .action .clear)) ks k hp,
    List.rtakeWhile_concat_pos (fun k => decide (k ≠ .action .clear)) ks k hp, ofStrokes_snoc,
    ← List.foldl_append, hall, sinceClear]

/-- The characters of an entry; a unit stands in parentheses. -/
def chars : Entry → List Char
  | token text .unit => '(' :: text.toList ++ [')']
  | token text _ => text.toList
  | blank c => [c]

/-- The class of the last token, once an entry is added. -/
def lastClass (last : Option TokenClass) : Entry → Option TokenClass
  | token _ cls => some cls
  | blank _ => last

/-- Tokens of different classes are set apart. -/
def separator (last : Option TokenClass) : Entry → List Char
  | token _ cls => if last.any (· ≠ cls) then [' '] else []
  | blank _ => []

/-- The text of some entries that follow a token of class `last`. -/
def composed (last : Option TokenClass) : List Entry → List Char
  | [] => []
  | x :: xs => x.separator last ++ (x.chars ++ composed (x.lastClass last) xs)

/-- What entries write depends on those before them by the class of the last token alone. -/
theorem composed_append (last : Option TokenClass) (xs ys : List Entry) :
    composed last (xs ++ ys) = composed last xs ++ composed (xs.foldl lastClass last) ys := by
  induction xs generalizing last with
  | nil => rfl
  | cons x xs ih => simp [composed, ih]

end Entry

namespace Editor

/-- Presses some keys one after the other, with no one to take a submission. -/
def typed (e : Editor) : List Key → Except EditError Editor
  | [] => .ok e
  | k :: ks => (e.press k.label).bind fun effect => (effect.resolve none).bind fun e => e.typed ks

theorem typed_snoc (e : Editor) (ks : List Key) (k : Key) :
    e.typed (ks ++ [k]) = (e.typed ks).bind fun e => (e.press k.label).bind (·.resolve none) := by
  induction ks generalizing e with
  | nil =>
    cases h : e.press k.label with
    | error x => simp [typed, h, Except.bind]
    | ok effect => cases hr : effect.resolve none <;> simp [typed, h, hr, Except.bind]
  | cons j ks ih =>
    cases h : e.press j.label with
    | error x => simp [typed, h, Except.bind]
    | ok effect => cases hr : effect.resolve none <;> simp [typed, h, hr, ih, Except.bind]

/-- An editor at work on a text: the class that its composer remembers is that of a token of the
active cell. -/
structure Composing (e : Editor) (text : String) (last : Option TokenClass)
    (selected : Option Modifier) : Prop where
  active : e.transcript.active? = some text
  generation : e.composer.generation = e.transcript.generation
  last : e.composer.lastInserted = last
  selected : e.composer.modifier = selected

variable {e : Editor} {text : String} {last : Option TokenClass} {selected : Option Modifier}

theorem attach_composing {t : Transcript} (h : t.active? = some text) :
    (attach t).Composing text none none :=
  ⟨h, rfl, rfl, rfl⟩

theorem Composing.setText (h : e.Composing text last selected) (new : String) :
    ∃ e', e.setText new = .ok e' ∧ e'.Composing new last selected := by
  obtain ⟨u, hu, hactive, hgen⟩ := Transcript.update?_active h.active new
  refine ⟨{ e with transcript := u }, ?_, hactive, ?_, h.last, h.selected⟩
  · rw [Editor.setText, hu]
  · rw [h.generation, hgen]

theorem Composing.insert (h : e.Composing text last selected) (token : String) (cls : TokenClass) :
    ∃ e', e.insert token cls =
        .ok (text ++ e.separator cls ++ e.written token cls, e') ∧
      e'.Composing (text ++ e.separator cls ++ e.written token cls) (some cls) none := by
  obtain ⟨u, hu, hactive, -⟩ := Transcript.update?_active h.active
    (text ++ e.separator cls ++ e.written token cls)
  refine ⟨⟨u, ⟨none, some cls, u.generation⟩⟩, ?_, hactive, rfl, rfl, rfl⟩
  simp only [Editor.insert, h.active, hu]

theorem Composing.written_eq (h : e.Composing text last selected) {token : String}
    {cls : TokenClass} {x : Entry} (hx : (Stroke.token token cls).enters? selected = some x) :
    (e.separator cls ++ e.written token cls).toList = Entry.composed last [x] ∧
      x.lastClass last = some cls := by
  have hlast : e.lastClass = last := by rw [lastClass, if_pos h.generation, h.last]
  have hsep : ∀ word, (e.separator cls).toList = (Entry.token word cls).separator last := by
    intro word
    cases last with
    | none => simp [separator, hlast, Entry.separator]
    | some c => by_cases hc : c = cls <;> simp [separator, hlast, Entry.separator, hc]
  cases cls with
  | operator | number =>
    rw [← Option.some.inj hx]
    simp [hsep token, written, Entry.composed, Entry.chars, Entry.lastClass]
  | unit =>
    rw [← Option.some.inj hx]
    simp [hsep token, written, modifierText, h.selected, Entry.composed, Entry.chars,
      Entry.lastClass, Entry.separator]

/-- A key that writes appends its entry to the text, behind the separator that its class asks
for. -/
theorem Composing.strike (h : e.Composing text last selected) {k : Stroke}
    (hw : k.writes = true) (hk : k ≠ .action .clear) :
    ∃ e', e.strike k = .ok (.edited e') ∧ e'.Composing
      (text ++ .ofList (Entry.composed last (k.enters? selected).toList))
      ((k.enters? selected).toList.foldl Entry.lastClass last) (k.select selected) := by
  cases k with
  | token token cls =>
    obtain ⟨e', hi, hc⟩ := h.insert token cls
    obtain ⟨x, hx⟩ : ∃ x, (Stroke.token token cls).enters? selected = some x := by
      cases cls <;> exact ⟨_, rfl⟩
    obtain ⟨hwritten, hclass⟩ := h.written_eq hx
    refine ⟨e', by simp [Editor.strike, hi, Except.map], ?_⟩
    have htext : text ++ e.separator cls ++ e.written token cls =
        text ++ .ofList (Entry.composed last [x]) := by
      rw [← hwritten, String.ofList_toList, String.append_assoc]
    rw [htext] at hc
    simpa [hx, hclass, Stroke.select] using hc
  | action a =>
    cases a with
    | backspace | submit => simp [Stroke.writes] at hw
    | clear => exact absurd rfl hk
    | space =>
      obtain ⟨e', hs, hc⟩ := h.setText (text ++ " ")
      exact ⟨e', by simp [Editor.strike, act, h.active, acted, hs, Except.map], hc⟩
    | newline =>
      obtain ⟨e', hs, hc⟩ := h.setText (text ++ "\n")
      exact ⟨e', by simp [Editor.strike, act, h.active, acted, hs, Except.map], hc⟩
  | modifier m =>
    refine ⟨e.toggle m, rfl, ?_, h.generation, h.last, ?_⟩
    · simpa [Editor.toggle, Stroke.enters?, Entry.composed] using h.active
    · simp [Editor.toggle, Stroke.select, h.selected]

/-- Clearing empties the text, but the composer goes on remembering the class. -/
theorem Composing.clear (h : e.Composing text last selected) :
    ∃ e', e.strike (.action .clear) = .ok (.edited e') ∧ e'.Composing "" last selected := by
  obtain ⟨e', hs, hc⟩ := h.setText ""
  exact ⟨e', by simp [Editor.strike, act, h.active, acted, hs, Except.map], hc⟩

/-- Keys that write, pressed in an empty cell. The class of a token from before the last clearing,
if there was one, is still remembered, and shows as a blank at most. -/
theorem typed_composing {t : Transcript} (ht : t.active? = some "") (ks : List Key)
    (hk : ∀ k ∈ ks, Keyboard.find? k.label = some k ∧ k.stroke.writes = true) :
    ∃ e last, (attach t).typed ks = .ok e ∧
      e.Composing (.ofList (Entry.composed last (Entry.sinceClear (ks.map Key.stroke))))
        ((Entry.sinceClear (ks.map Key.stroke)).foldl Entry.lastClass last)
        ((ks.map Key.stroke).foldl Stroke.select none) := by
  induction ks using List.reverseRecOn with
  | nil => exact ⟨attach t, none, rfl, attach_composing ht⟩
  | append_singleton ks k ih =>
    obtain ⟨e, last, htyped, hc⟩ := ih fun j hj => hk j (List.mem_append_left _ hj)
    obtain ⟨hfind, hw⟩ := hk k (by simp)
    have hnext {e' : Editor} (hs : e.strike k.stroke = .ok (.edited e')) :
        (attach t).typed (ks ++ [k]) = .ok e' := by
      simp [typed_snoc, htyped, Editor.press, hfind, hs, Except.bind, Effect.resolve]
    rw [List.map_append, List.map_singleton, List.foldl_append, List.foldl_cons, List.foldl_nil]
    by_cases hclear : k.stroke = .action .clear
    · obtain ⟨e', hs, hc'⟩ := hc.clear
      rw [← hclear] at hs
      refine ⟨e', (Entry.sinceClear (ks.map Key.stroke)).foldl Entry.lastClass last, hnext hs, ?_⟩
      rw [hclear, Entry.sinceClear_clear]
      exact hc'
    · obtain ⟨e', hs, hc'⟩ := hc.strike hw hclear
      refine ⟨e', last, hnext hs, ?_⟩
      rw [Entry.sinceClear_snoc _ hclear, List.foldl_append, Entry.composed_append,
        String.ofList_append]
      exact hc'

end Editor

end DeskCalc
