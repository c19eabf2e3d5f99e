import DeskCalc.CommandLine
import DeskCalc.Proofs.Text.Nesting

namespace DeskCalc

namespace CommandLine

open Text

/-- The levels that a command is given, in the order in which they are read. -/
def givenLevels (s : Surroundings) (a : Arguments) : List String :=
  (s.lookUp "UNITDC_LOG_LEVEL").toList ++ (Settings.given a.logLevel).toList

/-- The first of them that names no level. -/
def refusedLevel? (s : Surroundings) (a : Arguments) : Option String :=
  (givenLevels s a).find? fun text => (LogLevel.ofText? text).isNone

variable {s : Surroundings} {a : Arguments} {text level : String}

theorem mem_givenLevels_iff : level ∈ givenLevels s a ↔
    s.lookUp "UNITDC_LOG_LEVEL" = some level ∨ (a.logLevel = some level ∧ level ≠ "") := by
  simp [givenLevels, Settings.given, Option.filter_eq_some_iff]

theorem exists_refusedLevel (hg : level ∈ givenLevels s a) (hl : LogLevel.ofText? level = none) :
    ∃ text, refusedLevel? s a = some text := by
  rw [← Option.isSome_iff_exists, refusedLevel?, List.find?_isSome]
  exact ⟨level, hg, by rw [hl]; rfl⟩

theorem level_refused (h : LogLevel.ofText? text = none) :
    Settings.level text = .error (.invalidLevel text) := by
  rw [Settings.level, h]

/-- An environment gives settings if it has no level, or one that can be read. -/
theorem ofEnvironment_ok (h : ∀ text, s.lookUp "UNITDC_LOG_LEVEL" = some text →
    LogLevel.ofText? text ≠ none) :
    ∃ settings, Settings.ofEnvironment s.lookUp = .ok settings := by
  have hread :
      LogLevel.ofText? ((s.lookUp "UNITDC_LOG_LEVEL").getD LogLevel.warning.name) ≠ none := by
    cases he : s.lookUp "UNITDC_LOG_LEVEL" with
    | none => decide +kernel
    | some text => exact h text he
  obtain ⟨l, hl⟩ := Option.ne_none_iff_exists'.mp hread
  rw [Settings.ofEnvironment, Settings.level, hl]
  exact ⟨_, rfl⟩

/-- The settings are refused for the first level that is none, whatever else they hold. -/
theorem settings_refused (h : refusedLevel? s a = some text) :
    (Settings.ofEnvironment s.lookUp).bind (·.override a.engine a.logLevel) =
      .error (.invalidLevel text) := by
  have hl : LogLevel.ofText? text = none := by simpa using List.find?_some h
  rw [refusedLevel?, givenLevels, List.find?_append, Option.or_eq_some_iff] at h
  rcases h with henv | ⟨hnone, hoption⟩
  · have hgiven := Option.mem_toList.mp (List.mem_of_find?_eq_some henv)
    rw [Settings.ofEnvironment, hgiven, Option.getD_some, level_refused hl]
    rfl
  · have hread : ∀ text, s.lookUp "UNITDC_LOG_LEVEL" = some text → LogLevel.ofText? text ≠ none := by
      intro text ht
      simpa [ht] using hnone
    obtain ⟨settings, hs⟩ := ofEnvironment_ok hread
    have hgiven := Option.mem_toList.mp (List.mem_of_find?_eq_some hoption)
    rw [hs, Except.bind, Settings.override, hgiven]
    simp only [level_refused hl]
    rfl

/-- The words behind the level that is refused. -/
def choices : String := ". Choose: " ++ ", ".intercalate (LogLevel.all.map LogLevel.name)

theorem choices_plain : Markup.isPlain choices.toList = true ∧ choices.toList ≠ [] := by
  decide +kernel

/-- A level that can be shown in the words that refuse it, on a console wide enough for them. Where
these words are broken into lines, a style without a character is not drawn, and so cannot keep them
from being shown. -/
def Reportable (text : String) : Prop := Markup.Fits "red" "Invalid log level: " choices text

/-- The words that refuse a level are markup that can be shown exactly if the level fits into
them. -/
theorem plainText_refusal_iff (text : String) :
    (∃ shown, plainText ("[red]" ++ (SettingsError.invalidLevel text).message ++ "[/red]") =
      .ok shown) ↔ Reportable text := by
  have hframed : "[red]" ++ (SettingsError.invalidLevel text).message ++ "[/red]" =
      Markup.framed "red" "Invalid log level: " choices text := by
    have hopening : "[red]" = "[" ++ "red" ++ "]" := by decide +kernel
    have hclosing : "[/red]" = "[/" ++ "red" ++ "]" := by decide +kernel
    have hmessage : (SettingsError.invalidLevel text).message =
        "Invalid log level: " ++ text ++ choices := String.append_assoc
    rw [hopening, hclosing, hmessage, Markup.framed]
    simp only [String.append_assoc]
  have hlead : Markup.isPlain "Invalid log level: ".toList = true := by decide +kernel
  rw [hframed]
  exact plainText_framed_iff (by decide) hlead choices_plain.1 choices_plain.2 text

/-- How a command ends that refuses a level: as for bad usage if the level can be shown, and
otherwise with what keeps it from being shown. -/
theorem settings_exit (h : refusedLevel? s a = some text) :
    ∃ exit, settings s a = .error exit ∧ (Reportable text → exit = .usage) ∧
      (¬ Reportable text → ∃ f, exit = ⟨1, "", some f⟩ ∧ (f.kind = .markup ∨ f.kind = .value)) := by
  have hreport := plainText_refusal_iff text
  cases hp : plainText ("[red]" ++ (SettingsError.invalidLevel text).message ++ "[/red]") with
  | ok shown =>
    have hs : settings s a = .error .usage := by
      simp only [settings, settings_refused h, hp]
    have hr : Reportable text := hreport.mp ⟨shown, hp⟩
    exact ⟨.usage, hs, fun _ => rfl, fun hr' => absurd hr hr'⟩
  | error e =>
    have hs : settings s a = .error (.ofFault "" e.fault) := by
      simp only [settings, settings_refused h, hp]
    refine ⟨_, hs, ?_, ?_⟩
    · intro hr
      obtain ⟨shown, hshown⟩ := hreport.mpr hr
      cases hp.symm.trans hshown
    · intro _
      cases e with
      | unmatched | nothingOpen | badArguments => exact ⟨_, rfl, .inl rfl⟩
      | badStyle => exact ⟨_, rfl, .inr rfl⟩

/-- A command that is given a level that is none ends before there is a session, the same whatever
engines there are and whatever its input. It ends as for bad usage exactly if the level, which is
the first such of those given, can be shown in the words that refuse it, and a level without tags
always can; otherwise a fault of the markup gets out. Nothing is put out either way. The console is
taken to be wide enough for these words, as it is by `Markup.drawn`. -/
theorem refused_level_usage_iff (s : Surroundings) {arguments : List String} {a : Arguments}
    {level : String}
    (hc : Command.ofArguments? arguments = some (.eval a) ∨
      Command.ofArguments? arguments = some (.repl a))
    (hg : s.lookUp "UNITDC_LOG_LEVEL" = some level ∨ (a.logLevel = some level ∧ level ≠ ""))
    (hl : LogLevel.ofText? level = none) :
    ∃ text exit, refusedLevel? s a = some text ∧ settings s a = .error exit ∧
      (∀ catalog input, run ⟨catalog, s.lookUp⟩ arguments input = exit) ∧
      (exit = ⟨2, "", none⟩ ↔ Reportable text) ∧
      (Markup.tags 0 text.toList = [] → Reportable text) ∧
      (¬ Reportable text →
        ∃ f, exit = ⟨1, "", some f⟩ ∧ (f.kind = .markup ∨ f.kind = .value)) := by
  obtain ⟨text, ht⟩ := exists_refusedLevel (mem_givenLevels_iff.mpr hg) hl
  obtain ⟨exit, hs, husage, hfault⟩ := settings_exit ht
  refine ⟨text, exit, ht, hs, ?_, ⟨?_, husage⟩, Markup.fits_of_tags_eq_nil (by decide), hfault⟩
  · intro catalog input
    have hs' : settings ⟨catalog, s.lookUp⟩ a = .error exit := hs
    rcases hc with hc | hc
    · simp only [run, hc]
      unfold runCommand
      simp only [hs']
    · simp only [run, hc]
      unfold runCommand repl opening
      simp only [hs']
  · intro hexit
    by_contra hr
    obtain ⟨f, hf, -⟩ := hfault hr
    rw [hexit] at hf
    cases hf

/-- A level with tags that nest. -/
theorem emphasised_level_usage :
    let s : Surroundings := ⟨[], fun _ => none⟩
    let arguments := ["eval", "--log-level", "[b]loud[/b]", "1 p"]
    LogLevel.ofText? "[b]loud[/b]" = none ∧ Reportable "[b]loud[/b]" ∧
      run s arguments "" = ⟨2, "", none⟩ := by
  intro s arguments
  have hc : Command.ofArguments? arguments =
      some (.eval ⟨none, some "[b]loud[/b]", false, none, ["1 p"]⟩) := by
    decide +kernel
  have hl : LogLevel.ofText? "[b]loud[/b]" = none := by decide +kernel
  have hshown : plainText ("[red]" ++ (SettingsError.invalidLevel "[b]loud[/b]").message ++
      "[/red]") = .ok "Invalid log level: loud. Choose: DEBUG, INFO, WARNING, ERROR, CRITICAL" := by
    decide +kernel
  have hr : Reportable "[b]loud[/b]" := (plainText_refusal_iff _).mp ⟨_, hshown⟩
  obtain ⟨text, exit, ht, -, hrun, husage, -⟩ :=
    refused_level_usage_iff s (.inl hc) (.inr ⟨rfl, by decide⟩) hl
  obtain rfl : "[b]loud[/b]" = text := by
    have hfirst : refusedLevel? s ⟨none, some "[b]loud[/b]", false, none, ["1 p"]⟩ =
        some "[b]loud[/b]" := by
      decide +kernel
    exact Option.some.inj (hfirst.symm.trans ht)
  exact ⟨hl, hr, (hrun [] "").trans (husage.mpr hr)⟩

/-- A level that closes what is not open is refused like any other, but cannot be shown. -/
theorem closing_level_faults :
    let s : Surroundings := ⟨[], fun _ => none⟩
    LogLevel.ofText? "[/loud]" = none ∧ ¬ Reportable "[/loud]" ∧
      run s ["eval", "--log-level", "[/loud]", "1 p"] "" = ⟨1, "", some ⟨.markup,
        some "closing tag '[/loud]' at position 24 doesn't match any open tag"⟩⟩ := by
  have htags : Markup.tags 0 "[/loud]".toList = ["/loud".toList] := by decide +kernel
  have hslash : Markup.tagName "/loud".toList = '/' :: "loud".toList := by decide +kernel
  refine ⟨by decide +kernel, ?_, by decide +kernel⟩
  exact Markup.not_fits_of_closing htags hslash (by decide +kernel) (by decide +kernel)

end CommandLine

end DeskCalc
