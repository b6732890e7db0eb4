import BrowserPilot.CommandLine.Parser
import BrowserPilot.Proofs.Except
import Mathlib.Tactic.Common

namespace BrowserPilot.CommandLine

/-!
# Lines of options

A command line on which every setting is followed by its value is read one option after the
other. What stands before an option matters to it only by whether it has been given already, so
for each setting the line gives what its own texts stand for, in their order, and nothing else.
-/

/-- An option on a line: the flag, or a setting with the argument that is its value. -/
inductive Item
  | headless
  | setting (s : Setting) (text : String)
  deriving DecidableEq

/-- The arguments that an option is written as. -/
def Item.words : Item → List String
  | headless => ["--headless"]
  | setting s text => ["--" ++ s.name, text]

/-- The text that an option gives for a setting. -/
def Item.textFor (s : Setting) : Item → Option String
  | headless => none
  | setting s' text => if s' = s then some text else none

/-- The texts that a line gives for a setting. -/
def texts (s : Setting) (line : List Item) : List String := line.filterMap (Item.textFor s)

theorem texts_cons (s : Setting) (i : Item) (line : List Item) :
    texts s (i :: line) = texts s [i] ++ texts s line := by
  simp only [texts, ← List.filterMap_append, List.singleton_append]

@[simp] theorem texts_headless (s : Setting) : texts s [.headless] = [] := rfl

@[simp] theorem texts_setting_self (s : Setting) (text : String) :
    texts s [.setting s text] = [text] := by
  simp [texts, Item.textFor]

theorem texts_setting_of_ne {s s' : Setting} (h : s' ≠ s) (text : String) :
    texts s' [.setting s text] = [] := by
  simp [texts, Item.textFor, h.symm]

theorem mem_texts {s : Setting} {text : String} {line : List Item}
    (h : .setting s text ∈ line) : text ∈ texts s line :=
  List.mem_filterMap.2 ⟨_, h, if_pos rfl⟩

theorem texts_map_setting (s s' : Setting) (ts : List String) :
    texts s (ts.map (.setting s')) = if s' = s then ts else [] := by
  split <;> rename_i h <;> simp [texts, Item.textFor, h, Function.comp_def]

/-! ## What has been given for a setting -/

namespace Setting

/-- What a setting is set to. -/
abbrev Value : Setting → Type
  | startUrl | chrome | browserArg => String
  | viewport => UInt32 × UInt32
  | waitMillis | maxWaitMillis | actionTimeout | maxLoops => UInt64
  | logFormat => LogFormat

/-- Reads the text of a setting. -/
def read : (s : Setting) → String → Except String s.Value
  | startUrl | chrome | browserArg => .ok
  | viewport => parseViewport
  | waitMillis | maxWaitMillis | actionTimeout | maxLoops => Given.count
  | logFormat => LogFormat.ofWord

end Setting

namespace Given

/-- What a setting has been set to so far. -/
def values (g : Given) : (s : Setting) → List s.Value
  | .startUrl => g.startUrl.toList
  | .viewport => g.viewport.toList
  | .waitMillis => g.waitMillis.toList
  | .maxWaitMillis => g.maxWaitMillis.toList
  | .actionTimeout => g.actionTimeout.toList
  | .chrome => g.chrome.toList
  | .browserArg => g.browserArgs
  | .maxLoops => g.maxLoops.toList
  | .logFormat => g.logFormat.toList

variable {g g' : Given} {s : Setting} {text : String}

theorem has_eq_false_iff : g.has s = false ↔ s = .browserArg ∨ g.values s = [] := by
  cases s <;> simp [has, values, Option.toList_eq_nil_iff]

/-- A text sets its setting once more and no other. -/
theorem exists_store {v : s.Value} (hnew : g.has s = false) (hread : s.read text = .ok v) :
    ∃ g', g.store s text = .ok g' ∧ g'.headless = g.headless ∧
      g'.values s = g.values s ++ [v] ∧ ∀ s', s' ≠ s → g'.values s' = g.values s' := by
  have hold := has_eq_false_iff.1 hnew
  cases s with
  | startUrl | chrome =>
      obtain rfl := Except.ok.inj hread
      simp only [reduceCtorEq, false_or] at hold
      refine ⟨_, rfl, rfl, by rw [hold]; rfl, fun s' hs' ↦ ?_⟩
      cases s' <;> first | rfl | exact absurd rfl hs'
  | browserArg =>
      obtain rfl := Except.ok.inj hread
      refine ⟨_, rfl, rfl, rfl, fun s' hs' ↦ ?_⟩
      cases s' <;> first | rfl | exact absurd rfl hs'
  | viewport | waitMillis | maxWaitMillis | actionTimeout | maxLoops | logFormat =>
      simp only [reduceCtorEq, false_or] at hold
      refine ⟨_, congrArg (Except.map _) hread, rfl, by rw [hold]; rfl, fun s' hs' ↦ ?_⟩
      cases s' <;> first | rfl | exact absurd rfl hs'

theorem exists_take {v : s.Value} (hnew : g.has s = false) (hread : s.read text = .ok v) :
    ∃ g', g.take s text = .ok g' ∧ g'.headless = g.headless ∧
      g'.values s = g.values s ++ [v] ∧ ∀ s', s' ≠ s → g'.values s' = g.values s' := by
  obtain ⟨g', hstore, hkept⟩ := exists_store hnew hread
  exact ⟨g', by simp [take, hnew, hstore], hkept⟩

theorem ext_values (hflag : g.headless = g'.headless) (h : ∀ s, g.values s = g'.values s) :
    g = g' := by
  have single {α : Type} {a b : Option α} (hab : a.toList = b.toList) : a = b := by
    simpa using congrArg List.head? hab
  cases g
  cases g'
  rw [Given.mk.injEq]
  exact ⟨hflag, single (h .startUrl), single (h .viewport), single (h .waitMillis),
    single (h .maxWaitMillis), single (h .actionTimeout), single (h .chrome), h .browserArg,
    single (h .maxLoops), single (h .logFormat)⟩

/-- Takes an option. -/
def takeItem (g : Given) : Item → Except UsageError Given
  | .headless => g.takeHeadless
  | .setting s text => g.take s text

end Given

/-! ## One option after the other -/

/-- Whether the argument after a setting can be told from an option. -/
def Item.Plain : Item → Prop
  | headless => True
  | setting s text => s = .browserArg ∨ text.toList.head? ≠ some '-'

namespace Progress

/-- What has been given, once the setting that is still held back is settled. -/
inductive Stands (g : Given) : Progress → Prop
  | settled : Stands g { given := g }
  | holding {before : Given} {s : Setting} {text : String} : before.take s text = .ok g →
      Stands g { given := before, pending := some (s, some text) }

variable {p : Progress} {g g' : Given} {s : Setting} {text : String} {i : Item}
  {line : List Item}

theorem Stands.settle_eq (h : Stands g p) : p.settle = .ok { given := g } := by
  cases h with
  | settled => rfl
  | holding htake => simp [settle, htake, bind, Except.bind, pure, Except.pure]

theorem Stands.take_eq (h : Stands g p) (argument : String) :
    p.take argument = match Word.ofArgument argument with
      | .ending => .ok { p with ended := true }
      | .long name v => p.takeLong name v
      | .short letters => p.takeShort letters
      | .plain text => .error (.unknownArgument text) := by
  cases h <;> rfl

theorem ofArgument_name (s : Setting) : Word.ofArgument ("--" ++ s.name) = .long s.name none := by
  cases s <;> rfl

theorem ofArgument_plain (h : text.toList.head? ≠ some '-') :
    Word.ofArgument text = .plain text := by
  unfold Word.ofArgument
  split
  all_goals first | rfl | (rename_i heq; rw [heq] at h; exact absurd rfl h)

theorem Stands.take_headless (h : Stands g p) (htake : g.takeHeadless = .ok g') :
    p.take "--headless" = .ok { given := g' } := by
  have hword : Word.ofArgument "--headless" = .long "headless" none := rfl
  simp [h.take_eq, hword, takeLong, takeFlag, h.settle_eq, htake, bind, Except.bind, pure,
    Except.pure]

theorem Stands.take_name (h : Stands g p) (s : Setting) :
    p.take ("--" ++ s.name) = .ok { given := g, pending := some (s, none) } := by
  have hname : ¬ (s.name = "headless" ∨ s.name = "help") := by cases s <;> decide
  have hnamed : Setting.named? s.name = some s := by cases s <;> decide
  simp [h.take_eq, ofArgument_name, takeLong, hname, hnamed, takeSetting, h.settle_eq, bind,
    Except.bind, pure, Except.pure]

theorem take_text (h : s = .browserArg ∨ text.toList.head? ≠ some '-') :
    take { given := g, pending := some (s, none) } text =
      .ok { given := g, pending := some (s, some text) } := by
  by_cases hdashes : s = .browserArg
  · simp [take, awaiting, Setting.takesDashes, hdashes]
  · simp [take, awaiting, Setting.takesDashes, hdashes,
      ofArgument_plain (h.resolve_left hdashes)]

theorem takeAll_append (p : Progress) (as bs : List String) :
    p.takeAll (as ++ bs) = (p.takeAll as).bind (·.takeAll bs) := by
  induction as generalizing p with
  | nil => rfl
  | cons a as ih =>
      simp only [List.cons_append, takeAll, bind, Except.bind]
      cases p.take a with
      | error e => rfl
      | ok q => exact ih q

/-- An option is taken for what it says. -/
theorem Stands.item (h : Stands g p) (hplain : i.Plain) (htake : g.takeItem i = .ok g') :
    ∃ p', p.takeAll i.words = .ok p' ∧ Stands g' p' := by
  cases i with
  | headless =>
      refine ⟨_, ?_, .settled⟩
      simp [Item.words, takeAll, h.take_headless htake, bind, Except.bind]
  | setting s text =>
      refine ⟨_, ?_, .holding htake⟩
      simp [Item.words, takeAll, h.take_name, take_text hplain, bind, Except.bind]

theorem Stands.takeAll (h : Stands g p) (hplain : ∀ i ∈ line, i.Plain)
    (htake : line.foldlM Given.takeItem g = .ok g') :
    ∃ p', p.takeAll (line.flatMap Item.words) = .ok p' ∧ Stands g' p' := by
  induction line generalizing g p with
  | nil =>
      obtain rfl := Except.ok.inj htake
      exact ⟨p, rfl, h⟩
  | cons i line ih =>
      obtain ⟨g₁, hfirst, hrest⟩ := exists_of_bind_eq_ok htake
      obtain ⟨p₁, hp₁, hstands⟩ := h.item (hplain i List.mem_cons_self) hfirst
      obtain ⟨p', hp', hdone⟩ :=
        ih hstands (fun j hj ↦ hplain j (List.mem_cons_of_mem i hj)) hrest
      refine ⟨p', ?_, hdone⟩
      rw [List.flatMap_cons, takeAll_append, hp₁]
      exact hp'

end Progress

theorem parse_line {line : List Item} {g : Given} (hplain : ∀ i ∈ line, i.Plain)
    (htake : line.foldlM Given.takeItem {} = .ok g) : parse (line.flatMap Item.words) = .ok g := by
  obtain ⟨p, hp, hstands⟩ := Progress.Stands.settled.takeAll hplain htake
  simp [parse, hp, hstands.settle_eq, bind, Except.bind, pure, Except.pure]

/-! ## A whole line -/

/-- A line that can be read after what has been given: every text can be told from an option and
says a value, and what counts once is there at most once. -/
structure Given.Admits (g : Given) (line : List Item) : Prop where
  plain : ∀ i ∈ line, i.Plain
  readable : ∀ s, ∀ text ∈ texts s line, ∃ v, s.read text = .ok v
  once : ∀ s, s ≠ .browserArg → (g.values s).length + (texts s line).length ≤ 1
  flag : g.headless.toNat + line.count .headless ≤ 1

/-- What has been given after a line: the flag if it is there, and for each setting the values of
its texts. -/
structure Given.Extends (g : Given) (line : List Item) (g' : Given) : Prop where
  flag : g'.headless = (g.headless || line.contains .headless)
  values : ∀ s, (g'.values s).map Except.ok =
    (g.values s).map Except.ok ++ (texts s line).map s.read

namespace Given

variable {g g₁ g₂ : Given} {i : Item} {line : List Item}

theorem Extends.refl (g : Given) : g.Extends [] g :=
  ⟨by simp, fun s ↦ by simp [texts]⟩

theorem Extends.cons (h : g.Extends [i] g₁) (hrest : g₁.Extends line g₂) :
    g.Extends (i :: line) g₂ := by
  constructor
  · rw [hrest.flag, h.flag]
    simp [Bool.or_assoc]
  · intro s
    rw [hrest.values, h.values, texts_cons s i line, List.map_append, List.append_assoc]

theorem Admits.exists_takeHeadless (h : g.Admits (.headless :: line)) :
    ∃ g', g.takeItem .headless = .ok g' ∧ g.Extends [.headless] g' ∧ g'.Admits line := by
  have hflag := h.flag
  rw [List.count_cons_self] at hflag
  have hoff : g.headless = false := Bool.toNat_eq_zero.1 (by omega)
  have hsame : ∀ s, ({ g with headless := true } : Given).values s = g.values s := fun s ↦ by
    cases s <;> rfl
  refine ⟨{ g with headless := true }, by simp [takeItem, takeHeadless, hoff], ⟨?_, ?_⟩, ?_⟩
  · simp
  · exact fun s ↦ by simp [hsame]
  · refine ⟨(List.forall_mem_cons.1 h.plain).2, fun s ↦ h.readable s, fun s hs ↦ ?_, ?_⟩
    · rw [hsame]
      exact h.once s hs
    · simp only [Bool.toNat_true]
      omega

theorem Admits.exists_takeSetting {s : Setting} {text : String}
    (h : g.Admits (.setting s text :: line)) :
    ∃ g', g.takeItem (.setting s text) = .ok g' ∧ g.Extends [.setting s text] g' ∧
      g'.Admits line := by
  have htexts := texts_cons s (.setting s text) line
  rw [texts_setting_self, List.singleton_append] at htexts
  obtain ⟨v, hread⟩ := h.readable s text (htexts ▸ List.mem_cons_self)
  have hnew : g.has s = false := has_eq_false_iff.2 <| by
    by_cases hs : s = .browserArg
    · exact .inl hs
    · have honce := h.once s hs
      rw [htexts, List.length_cons] at honce
      exact .inr (List.length_eq_zero_iff.1 (by omega))
  obtain ⟨g', htake, hflag, hvalues, hkept⟩ := exists_take hnew hread
  refine ⟨g', htake, ⟨by simp [hflag], fun s' ↦ ?_⟩, ?_⟩
  · by_cases hs : s' = s
    · subst hs
      simp [hvalues, hread]
    · simp [hkept s' hs, texts_setting_of_ne hs]
  · refine ⟨(List.forall_mem_cons.1 h.plain).2, fun s' text' htext ↦ ?_, fun s' hs' ↦ ?_, ?_⟩
    · exact h.readable s' text' (texts_cons s' _ line ▸ List.mem_append_right _ htext)
    · have honce := h.once s' hs'
      rw [texts_cons] at honce
      by_cases hs : s' = s
      · subst hs
        simp only [texts_setting_self, List.length_append, List.length_singleton, hvalues]
          at honce ⊢
        omega
      · rw [hkept s' hs]
        simpa [texts_setting_of_ne hs] using honce
    · simpa [hflag] using h.flag

/-- An option that can be read is, and leaves room for the rest of the line. -/
theorem Admits.exists_takeItem (h : g.Admits (i :: line)) :
    ∃ g', g.takeItem i = .ok g' ∧ g.Extends [i] g' ∧ g'.Admits line := by
  cases i with
  | headless => exact h.exists_takeHeadless
  | setting s text => exact h.exists_takeSetting

theorem Admits.exists_foldlM (h : g.Admits line) :
    ∃ g', line.foldlM takeItem g = .ok g' ∧ g.Extends line g' := by
  induction line generalizing g with
  | nil => exact ⟨g, rfl, .refl g⟩
  | cons i line ih =>
      obtain ⟨g₁, htake, hfirst, hadmits⟩ := h.exists_takeItem
      obtain ⟨g', hfold, hrest⟩ := ih hadmits
      refine ⟨g', ?_, hfirst.cons hrest⟩
      rw [List.foldlM_cons, htake]
      exact hfold

end Given

/-- A line on which nothing is wrong is read, and gives what its texts say. -/
theorem exists_parse {line : List Item} (h : Given.Admits {} line) :
    ∃ g, parse (line.flatMap Item.words) = .ok g ∧ Given.Extends {} line g := by
  obtain ⟨g, hfold, hextends⟩ := h.exists_foldlM
  exact ⟨g, parse_line h.plain hfold, hextends⟩

end BrowserPilot.CommandLine
