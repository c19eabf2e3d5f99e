import DeskCalc.Proofs.Session.Growth

namespace DeskCalc

namespace Keyboard

def hasKey (label : String) : Bool := (find? label).isSome

def submits (label : String) : Bool := (find? label).any (·.stroke = .action .submit)

end Keyboard

theorem Transcript.Grows.take {t u : Transcript} (h : t.Grows u) {i n : Nat}
    (ha : t.activeIndex = some i) (hi : i < t.cells.length) (hn : n ≤ i) :
    u.cells.take n = t.cells.take n := by
  apply List.ext_getElem?
  intro k
  by_cases hk : k < n
  · rw [List.getElem?_take_of_lt hk, List.getElem?_take_of_lt hk]
    refine h.kept k (by omega) ?_
    rw [ha]
    intro he
    have := Option.some.inj he
    omega
  · rw [List.getElem?_take_eq_none (by omega), List.getElem?_take_eq_none (by omega)]

namespace Editor

theorem act_ok {e : Editor} {text : String} (ha : e.transcript.active? = some text)
    (a : Action) : ∃ effect, e.act a = .ok effect := by
  unfold act
  rw [ha]
  cases hacted : acted text a with
  | none => exact ⟨.submit, by simp only [hacted]⟩
  | some new =>
    obtain ⟨u, hu, -⟩ := Transcript.update?_active ha new
    exact ⟨.edited { e with transcript := u }, by simp only [hacted, setText, hu]; rfl⟩

theorem strike_ok {e : Editor} {text : String} (ha : e.transcript.active? = some text)
    (k : Stroke) : ∃ effect, e.strike k = .ok effect := by
  cases k with
  | token token cls =>
    obtain ⟨u, hu, -⟩ :=
      Transcript.update?_active ha (text ++ e.separator cls ++ e.written token cls)
    exact ⟨.edited ⟨u, none, some cls, u.generation⟩, by simp only [strike, insert, ha, hu]; rfl⟩
  | action a => exact act_ok ha a
  | modifier m => exact ⟨.edited (e.toggle m), rfl⟩

theorem press_ok {e : Editor} {text label : String} (ha : e.transcript.active? = some text)
    (hk : Keyboard.hasKey label = true) : ∃ effect, e.press label = .ok effect := by
  obtain ⟨key, hkey⟩ := Option.isSome_iff_exists.mp hk
  rw [press, hkey]
  exact strike_ok ha key.stroke

end Editor

namespace Session

/-- From the first session, which is ready, to the second. `moved` says whether there is another
active cell. -/
structure Advances (s s' : Session) (moved : Bool) : Prop where
  coherent : s'.Coherent
  ready : s'.adapter.isReady = true
  grows : s.transcript.Grows s'.transcript
  active : ∃ i j, s.transcript.activeIndex = some i ∧ s'.transcript.activeIndex = some j ∧ i ≤ j ∧
    (i < j ↔ moved = true)

/-- A call that advances a session, or is interrupted. -/
def Proceeds {α : Type} (s : Session) (call : Except Fault α × Session) (moved : Bool) : Prop :=
  (∃ a s', call = (.ok a, s') ∧ Advances s s' moved) ∨
    ∃ f s', call = (.error f, s') ∧ f.isOrdinary = false

theorem bootstrap_ready {s s' : Session} (h : s.bootstrap = (.ok true, s')) :
    s'.adapter.isReady = true := by
  have hanswer : (s.adapter.bootstrap s.transcript).1 = .ok true := congrArg Prod.fst h
  have hs : (s.adapter.bootstrap s.transcript).2.1 = s'.adapter :=
    congrArg (fun x => x.2.adapter) h
  cases hp : s.adapter.phase with
  | idle =>
    rw [Adapter.bootstrap_idle hp] at hanswer hs
    rcases s.adapter.start_cases s.transcript with ⟨e, -, he⟩ | ⟨f, -, -, he⟩ | ⟨f, -, -, he⟩
    · rw [← hs, he]
      rfl
    · rw [he] at hanswer
      cases hanswer
    · rw [he] at hanswer
      cases hanswer
  | interrupted f | failed =>
    rw [Adapter.bootstrap, hp] at hanswer
    cases hanswer
  | ready e =>
    rw [Adapter.bootstrap, hp] at hs
    rw [← hs]
    exact Adapter.isReady_iff.mpr ⟨e, hp⟩

theorem Coherent.open_active {s : Session} (h : s.Coherent) (hr : s.adapter.isReady = true) :
    ∃ i text, s.transcript.activeIndex = some i ∧ s.transcript.active? = some text := by
  obtain ⟨text, ho⟩ := h.ready hr
  exact ⟨_, text, ho.active, ho.active?⟩

theorem Advances.trans {s t u : Session} {m n : Bool} (h : Advances s t m) (k : Advances t u n) :
    Advances s u (m || n) := by
  obtain ⟨i, j, hi, hj, hij, hm⟩ := h.active
  obtain ⟨j', l, hj', hl, hjl, hn⟩ := k.active
  obtain rfl : j = j' := Option.some.inj (hj.symm.trans hj')
  refine ⟨k.coherent, k.ready, h.grows.trans k.grows, i, l, hi, hl, by omega, ?_⟩
  rw [Bool.or_eq_true, ← hm, ← hn]
  omega

theorem Revised.activeIndex {s s' : Session} (h : Revised s s') :
    s'.transcript.activeIndex = s.transcript.activeIndex := by
  rcases h.transcript with he | ⟨text, hu⟩
  · rw [he]
  · obtain ⟨i, -, he⟩ := Transcript.update?_eq_some_iff.mp hu
    rw [he]

/-- A revision leaves the active cell where it is. -/
theorem Revised.advances {s s' : Session} (hs : Revised s s') (h : s.Coherent)
    (hr : s.adapter.isReady = true) : Advances s s' false := by
  obtain ⟨i, -, hi, -⟩ := h.open_active hr
  refine ⟨h.revised hs, by rw [hs.adapter, hr], hs.grows, i, i, hi, ?_, Nat.le_refl i, by simp⟩
  rw [hs.activeIndex, hi]

theorem Coherent.advances_submit {s : Session} (h : s.Coherent) (hr : s.adapter.isReady = true)
    {r : Submission} (hs : s.submit.1 = .ok r) : Advances s s.submit.2 true := by
  obtain ⟨i, -, hi, -⟩ := h.open_active hr
  have hc : s.submit.2.Coherent := h.submit
  have hr' : s.submit.2.adapter.isReady = true := h.isReady_after hr .submit
  obtain ⟨j, -, hj, -⟩ := hc.open_active hr'
  rcases s.submit_cases with ⟨⟨f, hf⟩, -⟩ | ⟨r', cs, text, -, -, -, hcells, ht⟩
  · rw [hf] at hs
    cases hs
  · -- Both active cells are last, and a record is not empty.
    have hlen : s.submit.2.transcript.cells.length =
        s.transcript.cells.length + r'.cells.length := by
      rw [ht, Transcript.extend_cells, List.length_append]
    rw [h.length_active hi, hc.length_active hj, hcells, List.length_append,
      List.length_singleton] at hlen
    exact ⟨hc, hr', s.grows_submit, i, j, hi, hj, by omega, by simp; omega⟩

/-- Nothing but an interrupt keeps a submission from moving the active cell on. -/
theorem Coherent.proceeds_submit {s : Session} (h : s.Coherent) (hr : s.adapter.isReady = true) :
    s.Proceeds s.submit true := by
  obtain ⟨e, hp⟩ := Adapter.isReady_iff.mp hr
  obtain ⟨i, text, hi, ht⟩ := h.open_active hr
  have recorded {r : Submission} (hs : s.submit.1 = .ok r) : s.Proceeds s.submit true :=
    .inl ⟨r, s.submit.2, by rw [← hs], h.advances_submit hr hs⟩
  cases hx : (e.submit s.adapter.calls text).escaping with
  | none => exact recorded (congrArg Prod.fst (submit_returned hp ht hi hx))
  | some f =>
    cases hf : f.isOrdinary with
    | true => exact recorded (congrArg Prod.fst (submit_failed hp ht hi hx hf))
    | false => exact .inr ⟨f, _, submit_interrupted hp ht hi hx hf, hf⟩

theorem Coherent.proceeds_submitText {s : Session} (h : s.Coherent)
    (hr : s.adapter.isReady = true) (text : String) : s.Proceeds (s.submitText text) true := by
  obtain ⟨i, old, -, ht⟩ := h.open_active hr
  obtain ⟨hedit, -⟩ := edit_active? ht text
  have ha : Advances s (s.edit text).2 false := (s.edit_revised text).advances h hr
  rw [submitText, hedit]
  rcases ha.coherent.proceeds_submit ha.ready with ⟨r, s', hs, ha'⟩ | hf
  · exact .inl ⟨r, s', hs, ha.trans ha'⟩
  · exact .inr hf

/-- What a key or an action comes to that asks for a submission if and only if `asked` holds. -/
theorem Coherent.proceeds_settle {s : Session} (h : s.Coherent) (hr : s.adapter.isReady = true)
    {r : Except EditError Effect} {asked : Bool} (hok : ∃ effect, r = .ok effect)
    (heff : ∀ effect, r = .ok effect → s.editor.Effective effect)
    (hk : r = .ok .submit ↔ asked = true ∧ s.transcript.active?.isSome = true) :
    s.Proceeds (s.settle r) asked := by
  obtain ⟨i, text, -, ht⟩ := h.open_active hr
  obtain ⟨effect, rfl⟩ := hok
  rw [ht, Option.isSome_some, and_iff_left rfl] at hk
  cases effect with
  | edited editor =>
    have hasked : asked = false := by
      rw [← Bool.not_eq_true, ← hk]
      simp
    rw [hasked]
    exact .inl ⟨(), _, rfl, (Revised.ofEditor (heff _ rfl)).advances h hr⟩
  | submit =>
    rw [hk.mp rfl]
    rcases h.proceeds_submit hr with ⟨r, s', hs, ha⟩ | ⟨f, s', hs, hf⟩
    · exact .inl ⟨(), s', by simp only [settle, hs], ha⟩
    · exact .inr ⟨f, s', by simp only [settle, hs], hf⟩

theorem Coherent.proceeds_act {s : Session} (h : s.Coherent) (hr : s.adapter.isReady = true)
    (a : Action) : s.Proceeds (s.act a) (a = .submit) := by
  obtain ⟨i, text, -, ht⟩ := h.open_active hr
  refine h.proceeds_settle hr (Editor.act_ok ht a) (fun _ => Editor.act_effective) ?_
  rw [decide_eq_true_iff]
  exact Editor.act_eq_submit_iff

theorem press_unknown {s : Session} {label : String} (hk : Keyboard.hasKey label = false) :
    s.press label = (.error (EditError.unknownKey label).fault, s) := by
  have hn : Keyboard.find? label = none := by simpa [Keyboard.hasKey] using hk
  rw [press, Editor.press, hn]
  rfl

/-- A key of the layout moves the active cell on exactly if it is one that submits. -/
theorem Coherent.proceeds_press {s : Session} (h : s.Coherent) (hr : s.adapter.isReady = true)
    {label : String} (hk : Keyboard.hasKey label = true) :
    s.Proceeds (s.press label) (Keyboard.submits label) := by
  obtain ⟨i, text, -, ht⟩ := h.open_active hr
  exact h.proceeds_settle hr (Editor.press_ok ht hk) (fun _ => Editor.press_effective)
    Editor.press_eq_submit_iff

end Session

end DeskCalc
