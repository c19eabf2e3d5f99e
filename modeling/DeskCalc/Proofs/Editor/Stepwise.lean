import DeskCalc.Proofs.Editor.Effect
import DeskCalc.Proofs.Transcript.Generation

namespace DeskCalc

theorem TokenClass.ofName?_name (cls : TokenClass) : TokenClass.ofName? cls.name = some cls := by
  cases cls <;> decide

theorem Action.ofName?_name (a : Action) : Action.ofName? a.name = some a := by
  cases a <;> decide

theorem Modifier.ofSymbol?_symbol (m : Modifier) : Modifier.ofSymbol? m.symbol = some m := by
  cases m <;> decide

namespace Editor

def withTranscript (e : Editor) (t : Transcript) : Editor := { e with transcript := t }

/-- The editor once its composer has looked at the active cell. -/
def looked (e : Editor) : Editor :=
  if e.composer.generation = e.transcript.generation then e
  else { e with composer :=
    { e.composer with lastInserted := none, generation := e.transcript.generation } }

/-- What the composer remembers is not of a cell to come. -/
def Dated (e : Editor) : Prop := e.composer.generation ≤ e.transcript.generation

/-- The second editor shows what the first one shows, however often its composer has looked. -/
structure Matches (e d : Editor) : Prop where
  transcript : d.transcript = e.transcript
  modifier : d.composer.modifier = e.composer.modifier
  lastClass : d.lastClass = e.lastClass
  dated : e.Dated
  dated' : d.Dated

variable {e d : Editor} {t : Transcript} {text token : String}

/-- What has been remembered of an earlier generation does not count. -/
theorem lastClass_of_dated (h : e.composer.generation < e.transcript.generation) :
    e.lastClass = none :=
  if_neg (Nat.ne_of_lt h)

theorem looked_transcript (e : Editor) : e.looked.transcript = e.transcript := by
  unfold looked
  split <;> rfl

theorem looked_modifier (e : Editor) : e.looked.composer.modifier = e.composer.modifier := by
  unfold looked
  split <;> rfl

theorem looked_generation (e : Editor) :
    e.looked.composer.generation = e.transcript.generation := by
  unfold looked
  split
  · assumption
  · rfl

/-- What the composer remembers once it has looked is the class for the active cell. -/
theorem looked_lastInserted (e : Editor) : e.looked.composer.lastInserted = e.lastClass := by
  unfold looked lastClass
  split <;> rfl

/-- Nobody can tell whether the composer has looked: the class that counts is the same. -/
theorem looked_lastClass (e : Editor) : e.looked.lastClass = e.lastClass := by
  have hg : e.looked.composer.generation = e.looked.transcript.generation := by
    rw [looked_generation, looked_transcript]
  rw [← looked_lastInserted e, lastClass, if_pos hg]

theorem looked_dated (e : Editor) : e.looked.Dated := by
  apply Nat.le_of_eq
  rw [looked_generation, looked_transcript]

theorem Matches.refl (h : e.Dated) : e.Matches e := ⟨rfl, rfl, rfl, h, h⟩

theorem Matches.looked (h : e.Matches d) : e.Matches d.looked := by
  refine ⟨?_, ?_, ?_, h.dated, d.looked_dated⟩
  · rw [looked_transcript, h.transcript]
  · rw [looked_modifier, h.modifier]
  · rw [looked_lastClass, h.lastClass]

/-- Both editors go on matching when the transcript goes on, for the class remembered is that of the
same cell still or is forgotten in both. -/
theorem Matches.withTranscript (h : e.Matches d) (ht : e.transcript.generation ≤ t.generation) :
    (e.withTranscript t).Matches (d.withTranscript t) := by
  have hd : d.transcript.generation = e.transcript.generation :=
    congrArg Transcript.generation h.transcript
  have he : e.composer.generation ≤ e.transcript.generation := h.dated
  have hd' : d.composer.generation ≤ d.transcript.generation := h.dated'
  refine ⟨rfl, h.modifier, ?_, Nat.le_trans he ht, Nat.le_trans (hd ▸ hd') ht⟩
  by_cases hg : t.generation = e.transcript.generation
  · have same (x : Editor) (hx : x.transcript.generation = e.transcript.generation) :
        (x.withTranscript t).lastClass = x.lastClass := by
      simp only [Editor.lastClass, Editor.withTranscript, hg, hx]
    rw [same d hd, same e rfl, h.lastClass]
  · have hlt : e.transcript.generation < t.generation := by omega
    have none_of (x : Editor) (hx : x.composer.generation ≤ e.transcript.generation) :
        (x.withTranscript t).lastClass = none :=
      lastClass_of_dated (Nat.lt_of_le_of_lt hx hlt)
    rw [none_of d (hd ▸ hd'), none_of e he]

variable {old className name label : String} {cls : TokenClass} {a : Action}

/-- A token that is inserted has gone behind the text of the active cell, and the composer remembers
its class with that cell. -/
theorem insert_made (h : e.insert token cls = .ok (text, d)) :
    ∃ old, e.transcript.active? = some old ∧
      text = old ++ e.separator cls ++ e.written token cls ∧
      e.transcript.update? text = some d.transcript ∧
      d.composer = ⟨none, some cls, d.transcript.generation⟩ := by
  unfold insert at h
  cases ha : e.transcript.active? with
  | none => simp [ha] at h
  | some old =>
    cases hu : e.transcript.update? (old ++ e.separator cls ++ e.written token cls) with
    | none => simp [ha, hu] at h
    | some u =>
      simp only [ha, hu, Except.ok.injEq, Prod.mk.injEq] at h
      obtain ⟨rfl, rfl⟩ := h
      exact ⟨old, rfl, rfl, hu, rfl⟩

theorem setText_made (h : e.setText text = .ok d) :
    ∃ u, e.transcript.update? text = some u ∧ d = e.withTranscript u := by
  unfold setText at h
  cases hu : e.transcript.update? text with
  | none => simp [hu] at h
  | some u =>
    rw [hu] at h
    exact ⟨u, rfl, (Except.ok.inj h).symm⟩

/-- An edit that an action makes writes into the active cell and leaves the composer as it is. -/
theorem act_made (h : e.act a = .ok (.edited d)) :
    ∃ text u, e.transcript.update? text = some u ∧ d = e.withTranscript u := by
  unfold act at h
  cases ha : e.transcript.active? with
  | none => simp [ha] at h
  | some old =>
    cases hx : acted old a with
    | none => simp [ha, hx] at h
    | some text =>
      cases hs : e.setText text with
      | error x => simp [ha, hx, hs, Except.map] at h
      | ok e' =>
        simp only [ha, hx, hs, Except.map, Except.ok.injEq, Effect.edited.injEq] at h
        subst h
        exact ⟨text, setText_made hs⟩

theorem insertNamed_made (h : e.insertNamed token className = .ok (text, d)) :
    ∃ cls, TokenClass.ofName? className = some cls ∧ e.insert token cls = .ok (text, d) := by
  unfold insertNamed at h
  cases hc : TokenClass.ofName? className with
  | none => simp [hc] at h
  | some cls =>
    rw [hc] at h
    exact ⟨cls, rfl, h⟩

theorem insertNamed_inactive (ha : e.transcript.active? = none) (token className : String) :
    e.insertNamed token className = .error .noActiveCell := by
  unfold insertNamed
  cases TokenClass.ofName? className with
  | none => simp only [ha, Option.isSome_none, Bool.false_eq_true, if_false]
  | some cls => simp only [insert, ha]

theorem insertNamed_unknown (ha : e.transcript.active? = some old)
    (hc : TokenClass.ofName? className = none) (token : String) :
    e.insertNamed token className = .error (.unknownClass className) := by
  unfold insertNamed
  simp only [hc, ha, Option.isSome_some, if_true]

/-- An insertion puts the token behind its separator, uses up the modifier and remembers the
class. -/
theorem insertNamed_active (ha : e.transcript.active? = some old)
    (hc : TokenClass.ofName? className = some cls) (token : String) :
    ∃ u, e.transcript.update? (old ++ e.separator cls ++ e.written token cls) = some u ∧
      e.insertNamed token className = .ok (old ++ e.separator cls ++ e.written token cls,
        ⟨u, ⟨none, some cls, u.generation⟩⟩) := by
  obtain ⟨u, hu, -⟩ :=
    Transcript.update?_active ha (old ++ e.separator cls ++ e.written token cls)
  refine ⟨u, hu, ?_⟩
  unfold insertNamed
  simp only [hc, insert, ha, hu]

theorem actNamed_inactive (ha : e.transcript.active? = none) (name : String) :
    e.actNamed name = .error .noActiveCell := by
  unfold actNamed
  cases Action.ofName? name with
  | none => simp only [ha, Option.isSome_none, Bool.false_eq_true, if_false]
  | some a => simp only [act, ha]

theorem actNamed_unknown (ha : e.transcript.active? = some old)
    (hn : Action.ofName? name = none) : e.actNamed name = .error (.unknownAction name) := by
  unfold actNamed
  simp only [hn, ha, Option.isSome_some, if_true]

theorem actNamed_submit (ha : e.transcript.active? = some old)
    (hn : Action.ofName? name = some a) (hx : acted old a = none) :
    e.actNamed name = .ok .submit := by
  unfold actNamed
  simp only [hn, act, ha, hx]

theorem actNamed_edit (ha : e.transcript.active? = some old)
    (hn : Action.ofName? name = some a) (hx : acted old a = some text) :
    ∃ u, e.transcript.update? text = some u ∧
      e.actNamed name = .ok (.edited (e.withTranscript u)) := by
  obtain ⟨u, hu, -⟩ := Transcript.update?_active ha text
  refine ⟨u, hu, ?_⟩
  unfold actNamed
  simp only [hn, act, ha, hx, setText, hu]
  rfl

/-- A call of the composer: it goes from editor to editor, and may be refused on its way. -/
abbrev Doing := EStateM EditError Editor

/-- The text of the active cell, which the composer looks at. -/
def activeText : Doing String := do
  match (← get).transcript.active? with
  | none => throw .noActiveCell
  | some text =>
    modify looked
    return text

def valid {α : Type} (x : Option α) (refusal : EditError) : Doing α :=
  match x with
  | some a => pure a
  | none => throw refusal

def putText (text : String) : Doing Unit := do
  match (← get).transcript.update? text with
  | none => throw .nothingToUpdate
  | some t => modify (·.withTranscript t)

def inserting (token className : String) : Doing String := do
  let text ← activeText
  let cls ← valid (TokenClass.ofName? className) (.unknownClass className)
  let word := (← get).written token cls
  modify fun d => { d with composer := { d.composer with modifier := none } }
  let space := if (← get).composer.lastInserted.any (· ≠ cls) then " " else ""
  let text := text ++ space ++ word
  modify fun d => { d with composer := { d.composer with lastInserted := some cls } }
  putText text
  return text

/-- Does an action, and says whether a submission is asked for. -/
def acting (name : String) : Doing Bool := do
  let text ← activeText
  let a ← valid (Action.ofName? name) (.unknownAction name)
  match acted text a with
  | none => return true
  | some text =>
    putText text
    return false

def toggling (symbol : String) : Doing Unit := do
  let m ← valid (Modifier.ofSymbol? symbol) (.unknownModifier symbol)
  modify (·.toggle m)

/-- Presses a key, and says whether a submission is asked for. -/
def pressing (label : String) : Doing Bool := do
  let key ← valid (Keyboard.find? label) (.unknownKey label)
  match key.stroke with
  | .modifier m =>
    toggling m.symbol
    return false
  | .action a => acting a.name
  | .token token cls =>
    let _ ← inserting token cls.name
    return false

theorem run_activeText (h : d.transcript.active? = some text) :
    activeText.run d = .ok text d.looked := by
  simp only [activeText, EStateM.run_bind, EStateM.run_get, h]
  rfl

theorem run_activeText_none (h : d.transcript.active? = none) :
    activeText.run d = .error .noActiveCell d := by
  simp only [activeText, EStateM.run_bind, EStateM.run_get, h]
  rfl

theorem run_putText (h : d.transcript.update? text = some t) :
    (putText text).run d = .ok () (d.withTranscript t) := by
  simp only [putText, EStateM.run_bind, EStateM.run_get, h]
  rfl

/-- How a call ends that is done one assignment after the other, beside the same call done at
once. -/
def Ends (e : Editor) (o : EStateM.Result EditError Editor Bool) : Except EditError Effect → Prop
  | .ok (.edited e') => ∃ d, o = .ok false d ∧ e'.Matches d
  | .ok .submit => ∃ d, o = .ok true d ∧ e.Matches d
  | .error x => ∃ d, o = .error x d ∧ e.Matches d

theorem run_valid_some {α : Type} (a : α) (refusal : EditError) :
    (valid (some a) refusal).run d = .ok a d :=
  rfl

theorem run_valid_none {α : Type} (refusal : EditError) :
    (valid (none : Option α) refusal).run d = .error refusal d :=
  rfl

theorem separator_eq (e : Editor) (cls : TokenClass) :
    e.separator cls = if e.lastClass.any (· ≠ cls) then " " else "" := by
  unfold separator
  cases e.lastClass with
  | none => rfl
  | some last => by_cases hl : last = cls <;> simp [hl]

theorem Matches.written (h : e.Matches d) (token : String) (cls : TokenClass) :
    d.written token cls = e.written token cls := by
  cases cls with
  | operator | number => rfl
  | unit => simp only [Editor.written, modifierText, h.modifier]

/-- An insertion that is made leaves the same editor; one that is refused leaves what it found. -/
theorem Matches.inserting (h : e.Matches d) (token className : String) :
    match e.insertNamed token className with
    | .ok (text, e') => (Editor.inserting token className).run d = .ok text e'
    | .error x => ∃ d', (Editor.inserting token className).run d = .error x d' ∧ e.Matches d' := by
  cases ha : e.transcript.active? with
  | none =>
    have hd : d.transcript.active? = none := by rw [h.transcript, ha]
    rw [insertNamed_inactive ha]
    exact ⟨d, by simp only [Editor.inserting, EStateM.run_bind, run_activeText_none hd], h⟩
  | some old =>
    have hd : d.transcript.active? = some old := by rw [h.transcript, ha]
    cases hc : TokenClass.ofName? className with
    | none =>
      rw [insertNamed_unknown ha hc]
      refine ⟨d.looked, ?_, h.looked⟩
      simp only [Editor.inserting, EStateM.run_bind, run_activeText hd, hc, run_valid_none]
    | some cls =>
      obtain ⟨u, hu, hinsert⟩ := insertNamed_active ha hc token
      have hword : d.looked.written token cls = e.written token cls := h.looked.written token cls
      have hspace : (if d.looked.composer.lastInserted.any (· ≠ cls) then " " else "") =
          e.separator cls := by
        rw [looked_lastInserted, h.lastClass, separator_eq]
      have ht : d.looked.transcript = e.transcript := h.looked.transcript
      have hgeneration : d.looked.composer.generation = u.generation := by
        rw [looked_generation, h.transcript, Transcript.generation_update? hu]
      have hput : ∀ k : Composer, (putText (old ++ e.separator cls ++ e.written token cls)).run
          ⟨e.transcript, k⟩ = .ok () ⟨u, k⟩ := by
        intro k
        exact run_putText hu
      rw [hinsert]
      simp only [Editor.inserting, EStateM.run_bind, run_activeText hd, hc, run_valid_some,
        EStateM.run_get, EStateM.run_modify, hword, hspace, ht, hgeneration, hput]
      rfl

/-- The composer has looked, and then it writes the text that an action makes. -/
theorem Matches.acting (h : e.Matches d) (name : String) :
    e.Ends ((Editor.acting name).run d) (e.actNamed name) := by
  cases ha : e.transcript.active? with
  | none =>
    have hd : d.transcript.active? = none := by rw [h.transcript, ha]
    rw [actNamed_inactive ha]
    exact ⟨d, by simp only [Editor.acting, EStateM.run_bind, run_activeText_none hd], h⟩
  | some old =>
    have hd : d.transcript.active? = some old := by rw [h.transcript, ha]
    have hl : e.Matches d.looked := h.looked
    cases hn : Action.ofName? name with
    | none =>
      rw [actNamed_unknown ha hn]
      refine ⟨d.looked, ?_, hl⟩
      simp only [Editor.acting, EStateM.run_bind, run_activeText hd, hn, run_valid_none]
    | some a =>
      cases hx : acted old a with
      | none =>
        rw [actNamed_submit ha hn hx]
        refine ⟨d.looked, ?_, hl⟩
        simp only [Editor.acting, EStateM.run_bind, run_activeText hd, hn, run_valid_some, hx]
        rfl
      | some text =>
        obtain ⟨u, hu, hact⟩ := actNamed_edit ha hn hx
        have hgeneration : e.transcript.generation ≤ u.generation :=
          Nat.le_of_eq (Transcript.generation_update? hu).symm
        have hput : d.looked.transcript.update? text = some u := by rw [hl.transcript, hu]
        rw [hact]
        refine ⟨d.looked.withTranscript u, ?_, hl.withTranscript hgeneration⟩
        simp only [Editor.acting, EStateM.run_bind, run_activeText hd, hn, run_valid_some, hx]
        rw [run_putText hput]
        rfl

theorem Matches.toggle (h : e.Matches d) (m : Modifier) : (e.toggle m).Matches (d.toggle m) := by
  refine ⟨h.transcript, ?_, h.lastClass, h.dated, h.dated'⟩
  simp only [Editor.toggle, h.modifier]

theorem Matches.toggling (h : e.Matches d) (symbol : String) :
    match e.toggleNamed symbol with
    | .ok e' => ∃ d', (Editor.toggling symbol).run d = .ok () d' ∧ e'.Matches d'
    | .error x => (Editor.toggling symbol).run d = .error x d := by
  unfold toggleNamed
  cases hm : Modifier.ofSymbol? symbol with
  | none => simp only [Editor.toggling, EStateM.run_bind, hm, run_valid_none]
  | some m =>
    refine ⟨d.toggle m, ?_, h.toggle m⟩
    simp only [Editor.toggling, EStateM.run_bind, hm, run_valid_some, EStateM.run_modify]

theorem Matches.putText (h : e.Matches d) (text : String) :
    match e.setText text with
    | .ok e' => ∃ d', (Editor.putText text).run d = .ok () d' ∧ e'.Matches d'
    | .error x => (Editor.putText text).run d = .error x d := by
  unfold setText
  cases hu : e.transcript.update? text with
  | none =>
    have hd : d.transcript.update? text = none := by rw [h.transcript, hu]
    simp only [Editor.putText, EStateM.run_bind, EStateM.run_get, hd]
    rfl
  | some u =>
    have hd : d.transcript.update? text = some u := by rw [h.transcript, hu]
    have hg : e.transcript.generation ≤ u.generation :=
      Nat.le_of_eq (Transcript.generation_update? hu).symm
    exact ⟨d.withTranscript u, run_putText hd, h.withTranscript hg⟩

/-- Whatever a key does, and wherever it is refused, it comes to what the editor does at once. -/
theorem Matches.pressing (h : e.Matches d) (label : String) :
    e.Ends ((Editor.pressing label).run d) (e.press label) := by
  unfold press
  cases hk : Keyboard.find? label with
  | none =>
    refine ⟨d, ?_, h⟩
    simp only [Editor.pressing, EStateM.run_bind, hk, run_valid_none]
  | some key =>
    simp only [Editor.pressing, EStateM.run_bind, hk, run_valid_some]
    cases hs : key.stroke with
    | modifier m =>
      have ht := h.toggling m.symbol
      simp only [toggleNamed, Modifier.ofSymbol?_symbol] at ht
      obtain ⟨d', hd', hm⟩ := ht
      refine ⟨d', ?_, hm⟩
      simp only [EStateM.run_bind, hd']
      rfl
    | action a =>
      have ha := h.acting a.name
      simp only [actNamed, Action.ofName?_name] at ha
      exact ha
    | token token cls =>
      have hi := h.inserting token cls.name
      simp only [insertNamed, TokenClass.ofName?_name] at hi
      cases he : e.insert token cls with
      | ok p =>
        have hdated : p.2.Dated := by
          obtain ⟨-, -, -, -, hc⟩ := insert_made he
          exact Nat.le_of_eq (congrArg Composer.generation hc)
        simp only [he] at hi
        simp only [strike, he, EStateM.run_bind, hi]
        exact ⟨p.2, rfl, .refl hdated⟩
      | error x =>
        simp only [he] at hi
        obtain ⟨d', hd', hm⟩ := hi
        simp only [strike, he, EStateM.run_bind, hd']
        exact ⟨d', rfl, hm⟩

end Editor

end DeskCalc
