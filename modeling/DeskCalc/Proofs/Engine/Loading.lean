import DeskCalc.Engine.Stack
import Mathlib.Data.List.TakeWhile
import Mathlib.Tactic.Common

namespace DeskCalc

namespace Text

/-- A text is cut at the first separator. -/
theorem cut?_eq_some_iff {separator : Char} {text before after : String} :
    cut? separator text = some (before, after) ↔
      text.toList = before.toList ++ separator :: after.toList ∧ separator ∉ before.toList := by
  constructor
  · intro h
    have hall := List.takeWhile_append_dropWhile (p := (· ≠ separator)) (l := text.toList)
    unfold cut? at h
    split at h
    · cases h
    · rename_i c rest hd
      have hc : c = separator := by
        have hfirst := List.head?_dropWhile_not (fun d => decide (d ≠ separator)) text.toList
        rw [hd] at hfirst
        simpa using hfirst
      simp only [Option.some.injEq, Prod.mk.injEq] at h
      obtain ⟨hbefore, hafter⟩ := h
      rw [← hbefore, ← hafter, String.toList_ofList, String.toList_ofList]
      refine ⟨?_, ?_⟩
      · rw [hd, hc] at hall
        exact hall.symm
      · intro hmem
        have hne := List.mem_takeWhile_imp hmem
        simp at hne
  · rintro ⟨htext, hbefore⟩
    have hrun : ∀ c ∈ before.toList, decide (c ≠ separator) = true := by
      intro c hc
      have hne : c ≠ separator := by
        intro he
        exact hbefore (he ▸ hc)
      exact decide_eq_true hne
    have htake : text.toList.takeWhile (· ≠ separator) = before.toList := by
      rw [htext, List.takeWhile_append_of_pos hrun]
      simp
    have hdrop : text.toList.dropWhile (· ≠ separator) = separator :: after.toList := by
      rw [htext, List.dropWhile_append_of_pos hrun]
      simp
    unfold cut?
    rw [hdrop, htake, String.ofList_toList]
    simp only [String.ofList_toList]

theorem splitAt_ne_nil (p : Char → Bool) (cs : List Char) : splitAt p cs ≠ [] := by
  cases cs with
  | nil => simp [splitAt]
  | cons c cs =>
    unfold splitAt
    split
    · simp
    · split <;> simp

theorem intercalate_splitAt (separator : Char) (cs : List Char) :
    [separator].intercalate (splitAt (· = separator) cs) = cs := by
  induction cs with
  | nil => rfl
  | cons c cs ih =>
    unfold splitAt
    cases hs : splitAt (· = separator) cs with
    | nil => exact absurd hs (splitAt_ne_nil _ cs)
    | cons piece rest =>
      rw [hs] at ih
      split
      · rename_i hc
        have hc' : c = separator := of_decide_eq_true hc
        rw [List.intercalate_cons_cons, ih, hc']
        rfl
      · -- The character joins the piece that follows, whether or not that is the last one.
        cases rest with
        | nil => simpa using ih
        | cons next rest =>
          rw [List.intercalate_cons_cons] at ih ⊢
          rw [← ih]
          rfl

/-- The pieces of a text put together again are the text. -/
theorem intercalate_pieces (separator : Char) (text : String) :
    (String.singleton separator).intercalate (pieces separator text) = text := by
  have hs : (String.singleton separator).toList = [separator] := by simp
  rw [← String.toList_inj, String.toList_intercalate, hs, pieces, List.map_map]
  have hid : String.toList ∘ String.ofList = id := by
    funext cs
    exact String.toList_ofList
  rw [hid, List.map_id, intercalate_splitAt]

end Text

/-- What using a member comes to: an engine, something that is none, or a fault. -/
def Member.made : Member → Except Fault (Option Engine)
  | engine e => .ok (some e)
  | factory made => made
  | other | nothing => .ok none

namespace Catalog

/-- Nothing that makes an engine is interrupted: where it fails, it does so with an ordinary
fault. -/
def Uninterrupted (c : Catalog) : Prop :=
  ∀ m ∈ c, ∀ p ∈ m.members, ∀ f, p.2.made = .error f → f.isOrdinary = true

/-- A path with its module and the name in it, which stand on the two sides of its first colon. -/
structure Parts (path name member : String) : Prop where
  path_eq : path.toList = name.toList ++ ':' :: member.toList
  first : ':' ∉ name.toList
  name_ne : name ≠ ""
  member_ne : member ≠ ""

/-- A path whose module name begins with a dot. -/
def IsRelative (path : String) : Prop :=
  ∃ name member, Parts path name member ∧ name.toList.head? = some '.'

/-- A path names a member of a module of the catalog. -/
def Finds (c : Catalog) (path : String) (x : Member) : Prop :=
  ∃ name member m, Parts path name member ∧ c.find? (·.name = name) = some m ∧
    m.members.lookup member = some x

variable {c : Catalog} {path name member : String} {m : Module} {e : Engine}

/-- A path is split at its first colon, where both parts say something. -/
theorem splitPath_eq_some_iff : splitPath path = some (name, member) ↔ Parts path name member := by
  rw [splitPath, Option.filter_eq_some_iff, Text.cut?_eq_some_iff]
  constructor
  · rintro ⟨⟨hpath, hfirst⟩, hne⟩
    have hne' : name ≠ "" ∧ member ≠ "" := by simpa using hne
    exact ⟨hpath, hfirst, hne'.1, hne'.2⟩
  · intro h
    exact ⟨⟨h.path_eq, h.first⟩, by simp [h.name_ne, h.member_ne]⟩

/-- A path has one module and one name in it. -/
theorem Parts.unique {name' member' : String} (h : Parts path name member)
    (h' : Parts path name' member') : name' = name ∧ member' = member := by
  have he : some (name', member') = some (name, member) := by
    rw [← splitPath_eq_some_iff.mpr h', splitPath_eq_some_iff.mpr h]
  simpa using he

/-- A module is imported exactly if it is listed under its whole name; its packages serve to say
what is missing. -/
theorem importing_eq_ok_iff {parts : List String} (hp : parts ≠ []) :
    c.importing parts = .ok m ↔
      c.find? (·.name = ".".intercalate parts.reverse) = some m := by
  cases parts with
  | nil => exact absurd rfl hp
  | cons last parents =>
    unfold importing
    cases hf : c.find? (·.name = ".".intercalate (last :: parents).reverse) with
    | some m' => simp only [hf, Except.ok.injEq, Option.some.injEq]
    | none =>
      cases parents with
      | nil => simp only [hf, reduceCtorEq]
      | cons parent rest =>
        cases hi : importing c (parent :: rest) with
        | error error => simp only [hf, hi, reduceCtorEq]
        | ok package => simp only [hf, hi, reduceCtorEq]

/-- A module is found by its whole name, package by package. -/
theorem importing_pieces (c : Catalog) (name : String) (m : Module) :
    c.importing (Text.pieces '.' name).reverse = .ok m ↔ c.find? (·.name = name) = some m := by
  have hne : (Text.pieces '.' name).reverse ≠ [] := by
    simpa [Text.pieces] using Text.splitAt_ne_nil (· = '.') name.toList
  have hname : ".".intercalate (Text.pieces '.' name) = name := Text.intercalate_pieces '.' name
  rw [importing_eq_ok_iff hne, List.reverse_reverse, hname]

theorem engineOf_eq_ok_iff {x : Option Member} :
    engineOf path name member x = .ok e ↔ ∃ y, x = some y ∧ y.made = .ok (some e) := by
  cases x with
  | none => simp [engineOf]
  | some y =>
    cases y with
    | engine e' => simp [engineOf, Member.made]
    | other | nothing => simp [engineOf, Member.made]
    | factory made =>
      cases made with
      | error f => cases hf : f.isOrdinary <;> simp [engineOf, Member.made]
      | ok answer => cases answer <;> simp [engineOf, Member.made]

/-- A member that gives no engine fails the start, or it is interrupted. -/
theorem engineOf_error {x : Option Member} {error : LoadError}
    (h : engineOf path name member x = .error error) :
    error.fault.kind = .bootstrap ∨
      ∃ y f, error = .interrupted f ∧ x = some y ∧ y.made = .error f ∧ f.isOrdinary = false := by
  cases x with
  | none =>
    rw [← Except.error.inj h]
    exact .inl rfl
  | some y =>
    cases y with
    | engine e' => cases h
    | other | nothing =>
      rw [← Except.error.inj h]
      exact .inl rfl
    | factory made =>
      cases made with
      | ok answer =>
        cases answer with
        | some e' => cases h
        | none =>
          rw [← Except.error.inj h]
          exact .inl rfl
      | error f =>
        rw [← Except.error.inj h]
        cases hf : f.isOrdinary with
        | true => exact .inl rfl
        | false => exact .inr ⟨_, f, rfl, rfl, rfl, hf⟩

/-- A relative name would need a package that it starts from, and there is none. -/
theorem load_relative (hp : Parts path name member) (hr : name.toList.head? = some '.') :
    c.load path = .error (.relative name) := by
  unfold load
  rw [splitPath_eq_some_iff.mpr hp]
  exact if_pos hr

theorem load_found (hp : Parts path name member) (hr : name.toList.head? ≠ some '.')
    (hm : c.find? (·.name = name) = some m) :
    c.load path = engineOf path name member (m.members.lookup member) := by
  have hi : c.importing (Text.pieces '.' name).reverse = .ok m := (importing_pieces c name m).mpr hm
  unfold load
  rw [splitPath_eq_some_iff.mpr hp]
  simp only [if_neg hr, hi]

theorem load_absent (hp : Parts path name member) (hr : name.toList.head? ≠ some '.')
    (hm : c.find? (·.name = name) = none) :
    ∃ error, c.load path = .error (.cannotImport name error) := by
  cases hi : c.importing (Text.pieces '.' name).reverse with
  | ok m =>
    rw [(importing_pieces c name m).mp hi] at hm
    cases hm
  | error error =>
    refine ⟨error, ?_⟩
    unfold load
    rw [splitPath_eq_some_iff.mpr hp]
    simp only [if_neg hr, hi]

theorem load_invalid (h : ∀ name member, ¬ Parts path name member) :
    c.load path = .error (.invalidPath path) := by
  have hn : splitPath path = none := by
    rw [Option.eq_none_iff_forall_ne_some]
    rintro ⟨name, member⟩ hs
    exact h name member (splitPath_eq_some_iff.mp hs)
  unfold load
  rw [hn]

/-- What comes of a path whose module name does not begin with a dot. -/
theorem load_cases (c : Catalog) (hr : ¬ IsRelative path) :
    (∃ e x, c.load path = .ok e ∧ c.Finds path x ∧ x.made = .ok (some e)) ∨
    (∃ error, c.load path = .error error ∧ error.fault.kind = .bootstrap) ∨
    ∃ x f, c.load path = .error (.interrupted f) ∧ c.Finds path x ∧ x.made = .error f ∧
      f.isOrdinary = false := by
  by_cases hparts : ∃ name member, Parts path name member
  · obtain ⟨name, member, hp⟩ := hparts
    have hdot : name.toList.head? ≠ some '.' := by
      intro hd
      exact hr ⟨name, member, hp, hd⟩
    cases hm : c.find? (·.name = name) with
    | none =>
      obtain ⟨error, hload⟩ := load_absent hp hdot hm
      exact .inr (.inl ⟨_, hload, rfl⟩)
    | some m =>
      have hload := load_found hp hdot hm
      have finds {x : Member} (hx : m.members.lookup member = some x) : c.Finds path x :=
        ⟨name, member, m, hp, hm, hx⟩
      cases hx : engineOf path name member (m.members.lookup member) with
      | ok e =>
        obtain ⟨x, hlook, hmade⟩ := engineOf_eq_ok_iff.mp hx
        exact .inl ⟨e, x, hload.trans hx, finds hlook, hmade⟩
      | error error =>
        rcases engineOf_error hx with hb | ⟨x, f, rfl, hlook, hmade, hf⟩
        · exact .inr (.inl ⟨error, hload.trans hx, hb⟩)
        · exact .inr (.inr ⟨x, f, hload.trans hx, finds hlook, hmade, hf⟩)
  · have hload : c.load path = .error (.invalidPath path) := by
      apply load_invalid
      intro name member hp
      exact hparts ⟨name, member, hp⟩
    exact .inr (.inl ⟨_, hload, rfl⟩)

theorem Uninterrupted.found {x : Member} {f : Fault} (hc : c.Uninterrupted)
    (hx : c.Finds path x) (hf : x.made = .error f) : f.isOrdinary = true := by
  obtain ⟨name, member, m, -, hm, hlook⟩ := hx
  obtain ⟨before, behind, hmembers, -⟩ := List.lookup_eq_some_iff.mp hlook
  have hmem : (member, x) ∈ m.members := by simp [hmembers]
  exact hc m (List.mem_of_find?_eq_some hm) (member, x) hmem f hf

theorem load_eq_ok_iff (hr : ¬ IsRelative path) :
    c.load path = .ok e ↔ ∃ x, c.Finds path x ∧ x.made = .ok (some e) := by
  constructor
  · intro h
    rcases load_cases c hr with ⟨e', x, hload, hx, hmade⟩ | ⟨error, hload, -⟩ | ⟨x, f, hload, -⟩
    · obtain rfl : e' = e := Except.ok.inj (hload.symm.trans h)
      exact ⟨x, hx, hmade⟩
    · cases hload.symm.trans h
    · cases hload.symm.trans h
  · rintro ⟨x, ⟨name, member, m, hp, hm, hlook⟩, hmade⟩
    have hdot : name.toList.head? ≠ some '.' := by
      intro hd
      exact hr ⟨name, member, hp, hd⟩
    rw [load_found hp hdot hm]
    exact engineOf_eq_ok_iff.mpr ⟨x, hlook, hmade⟩

/-- Whatever a catalog holds, a path leads to an engine or fails with a fault of the start, unless
its module name begins with a dot: that is refused with a fault of another kind, which nothing on
its way turns into one of the start. The engine is the one that the path names. -/
theorem loads_or_fails_iff (c : Catalog) (hc : c.Uninterrupted) (path : String) :
    (((∃ e, c.load path = .ok e) ∨
        ∃ error, c.load path = .error error ∧ error.fault.kind = .bootstrap) ↔
      ¬ IsRelative path) ∧
    (∀ name member, Parts path name member → name.toList.head? = some '.' →
      c.load path = .error (.relative name) ∧ (LoadError.relative name).fault.kind = .type) ∧
    ∀ e, c.load path = .ok e ↔
      ¬ IsRelative path ∧ ∃ x, c.Finds path x ∧ x.made = .ok (some e) := by
  refine ⟨⟨?_, ?_⟩, ?_, ?_⟩
  · rintro h ⟨name, member, hp, hdot⟩
    have hload : c.load path = .error (.relative name) := load_relative hp hdot
    rcases h with ⟨e, he⟩ | ⟨error, he, hkind⟩
    · cases hload.symm.trans he
    · rw [← Except.error.inj (hload.symm.trans he)] at hkind
      cases hkind
  · intro hr
    rcases load_cases c hr with ⟨e, -, hload, -⟩ | herror | ⟨x, f, -, hx, hmade, hf⟩
    · exact .inl ⟨e, hload⟩
    · exact .inr herror
    · rw [hc.found hx hmade] at hf
      cases hf
  · intro name member hp hdot
    exact ⟨load_relative hp hdot, rfl⟩
  · intro e
    constructor
    · intro h
      have hr : ¬ IsRelative path := by
        rintro ⟨name, member, hp, hdot⟩
        cases (load_relative hp hdot).symm.trans h
      exact ⟨hr, (load_eq_ok_iff hr).mp h⟩
    · rintro ⟨hr, hx⟩
      exact (load_eq_ok_iff hr).mpr hx

/-- A module whose members come to an engine, to nothing and to a fault. -/
def engines : Module :=
  named "tools.engines" false
    [("make", .factory (.ok (some .stack))), ("count", .factory (.ok none)),
      ("broken", .factory (.error ⟨.runtime, some "no engine"⟩))]

def toolbox : Catalog := [named "tools" true [("nothing", .nothing)], engines]

theorem toolbox_uninterrupted : toolbox.Uninterrupted := by
  intro m hm p hp f hf
  simp only [toolbox, engines, List.mem_cons, List.not_mem_nil, or_false] at hm
  rcases hm with rfl | rfl
  · simp only [named, List.cons_append, List.nil_append, List.mem_cons, List.not_mem_nil,
      or_false] at hp
    rcases hp with rfl | rfl <;> cases hf
  · simp only [named, List.cons_append, List.nil_append, List.mem_cons, List.not_mem_nil,
      or_false] at hp
    rcases hp with rfl | rfl | rfl | rfl <;> cases hf
    rfl

/-- One factory gives the engine that the path leads to, and the fault of the other one fails the
start. -/
theorem toolbox_loads_or_fails :
    toolbox.Uninterrupted ∧ toolbox.load "tools.engines:make" = .ok .stack ∧
      ∃ error, toolbox.load "tools.engines:broken" = .error error ∧
        error.fault.kind = .bootstrap := by
  have hmake : Parts "tools.engines:make" "tools.engines" "make" := splitPath_eq_some_iff.mp rfl
  have hbroken : Parts "tools.engines:broken" "tools.engines" "broken" :=
    splitPath_eq_some_iff.mp rfl
  have hdot : "tools.engines".toList.head? ≠ some '.' := by decide
  have hm : toolbox.find? (·.name = "tools.engines") = some engines := rfl
  have absolute {path member : String} (hp : Parts path "tools.engines" member) :
      ¬ IsRelative path := by
    rintro ⟨name', member', hp', hdot'⟩
    rw [(hp.unique hp').1] at hdot'
    exact hdot hdot'
  refine ⟨toolbox_uninterrupted, ?_, ?_⟩
  · obtain ⟨-, -, hok⟩ := loads_or_fails_iff toolbox toolbox_uninterrupted "tools.engines:make"
    exact (hok .stack).mpr ⟨absolute hmake, _, ⟨_, _, _, hmake, hm, rfl⟩, rfl⟩
  · obtain ⟨hends, -⟩ := loads_or_fails_iff toolbox toolbox_uninterrupted "tools.engines:broken"
    rcases hends.mpr (absolute hbroken) with ⟨e, he⟩ | herror
    · rw [load_found hbroken hdot hm] at he
      cases he
    · exact herror

/-- A dot in front is enough to get past the fault of the start, even with no such module. -/
theorem relative_path_escapes :
    ¬ ((∃ e, builtIn.load ".rel:E" = .ok e) ∨
      ∃ error, builtIn.load ".rel:E" = .error error ∧ error.fault.kind = .bootstrap) := by
  have hload : builtIn.load ".rel:E" = .error (.relative ".rel") := rfl
  rintro (⟨e, he⟩ | ⟨error, he, hkind⟩)
  · cases hload.symm.trans he
  · rw [← Except.error.inj (hload.symm.trans he)] at hkind
    cases hkind

end Catalog

end DeskCalc
