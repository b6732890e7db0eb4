import BrowserPilot.Program
import BrowserPilot.Proofs.CommandLine.Line
import BrowserPilot.Proofs.CommandLine.Viewport

namespace BrowserPilot.CommandLine

/-!
# What a command line can ask for

Whatever can be asked for can be written on a command line, in any order that keeps the browser's
own arguments in theirs, and is then what the program is told to do. An argument for the browser
may look like an option of the program.
-/

open Text

/-! ## Values and their texts -/

/-- A text that does not begin with a dash. -/
structure PlainText where
  text : String
  plain : text.toList.head? ≠ some '-'

/-- A size with two positive sides. -/
structure Size where
  width : UInt32
  height : UInt32
  positive : 0 < width ∧ 0 < height

/-- The words for a log format, in small letters. -/
def formatWords : LogFormat → List String
  | .text => ["text", "pretty"]
  | .json => ["json"]

/-- A word for a log format, in small letters or capitals. -/
structure FormatWord where
  word : String
  format : LogFormat
  names : lower word ∈ formatWords format

/-- A count as it is written. -/
def countText (n : UInt64) : String := toString n.toNat

namespace Size

/-- The two sides. -/
def sides (size : Size) : UInt32 × UInt32 := (size.width, size.height)

/-- A size as it is written. -/
def text (size : Size) : String := s!"{size.width.toNat}x{size.height.toNat}"

theorem toList_text (size : Size) : size.text.toList =
    (toString size.width.toNat).toList ++ 'x' :: (toString size.height.toNat).toList := by
  rw [text, String.toList_append, String.toList_append, List.append_assoc]
  rfl

end Size

@[simp] theorem parseViewport_text (size : Size) : parseViewport size.text = .ok size.sides := by
  refine parseViewport_eq_ok_iff.2 ⟨size.positive, ?_⟩
  rw [size.toList_text]
  exact isSize_of_sides (.of_numeral (isNumeral_toString _)) (.of_numeral (isNumeral_toString _))
    (.inl rfl)

@[simp] theorem count_countText (n : UInt64) : Given.count (countText n) = .ok n := by
  have hle : n.toNat ≤ UInt64.size - 1 := Nat.le_pred_of_lt n.toNat_lt
  simp only [Given.count, countText, unsigned_toString hle, UInt64.ofNat_toNat]

@[simp] theorem ofWord_word (f : FormatWord) : LogFormat.ofWord f.word = .ok f.format := by
  obtain ⟨word, format, names⟩ := f
  cases format with
  | text =>
      rcases List.mem_pair.1 names with h | h <;> simp [LogFormat.ofWord, h]
  | json => simp [LogFormat.ofWord, List.mem_singleton.1 names]

theorem head?_toString_append (n : Nat) (rest : List Char) :
    ((toString n).toList ++ rest).head? ≠ some '-' := by
  have hsome : (toString n).toList ≠ [] := by simp [Nat.toDigits_ne_nil]
  rw [List.head?_append_of_ne_nil _ hsome]
  intro hhead
  have hnumeral := (isNumeral_toString n).plus_or_digit (List.mem_of_head? hhead)
  exact absurd hnumeral (by decide)

theorem head?_countText (n : UInt64) : (countText n).toList.head? ≠ some '-' := by
  simpa [countText] using head?_toString_append n.toNat []

theorem Size.head?_text (size : Size) : size.text.toList.head? ≠ some '-' := by
  rw [size.toList_text]
  exact head?_toString_append _ _

theorem FormatWord.head?_word (f : FormatWord) : f.word.toList.head? ≠ some '-' := by
  intro hhead
  have hlower : (lower f.word).toList.head? = some '-' := by simp [hhead]; decide
  have hwords : ∀ format, ∀ word ∈ formatWords format, word.toList.head? ≠ some '-' := by
    intro format
    cases format <;> decide
  exact hwords _ _ f.names hlower

/-! ## Wishes -/

/-- What is asked for on a command line. -/
structure Wishes where
  headless : Bool := false
  startUrl : Option PlainText := none
  viewport : Option Size := none
  waitMillis : Option UInt64 := none
  maxWaitMillis : Option UInt64 := none
  actionTimeout : Option UInt64 := none
  chrome : Option PlainText := none
  browserArgs : List String := []
  maxLoops : Option UInt64 := none
  logFormat : Option FormatWord := none

namespace Wishes

/-- The texts that ask for a setting. -/
def texts (w : Wishes) : Setting → List String
  | .startUrl => w.startUrl.toList.map PlainText.text
  | .viewport => w.viewport.toList.map Size.text
  | .waitMillis => w.waitMillis.toList.map countText
  | .maxWaitMillis => w.maxWaitMillis.toList.map countText
  | .actionTimeout => w.actionTimeout.toList.map countText
  | .chrome => w.chrome.toList.map PlainText.text
  | .browserArg => w.browserArgs
  | .maxLoops => w.maxLoops.toList.map countText
  | .logFormat => w.logFormat.toList.map FormatWord.word

/-- The options that ask for all of it, in the order of the help text. -/
def items (w : Wishes) : List Item :=
  (if w.headless then [.headless] else []) ++
    Setting.all.flatMap fun s ↦ (w.texts s).map (.setting s)

/-- The values that the options say. -/
def given (w : Wishes) : Given where
  headless := w.headless
  startUrl := w.startUrl.map PlainText.text
  viewport := w.viewport.map Size.sides
  waitMillis := w.waitMillis
  maxWaitMillis := w.maxWaitMillis
  actionTimeout := w.actionTimeout
  chrome := w.chrome.map PlainText.text
  browserArgs := w.browserArgs
  maxLoops := w.maxLoops
  logFormat := w.logFormat.map FormatWord.format

variable (w : Wishes)

theorem map_read_texts (s : Setting) :
    (w.texts s).map s.read = (w.given.values s).map Except.ok := by
  cases s <;> simp [texts, given, Given.values, Setting.read, Option.toList_map]

theorem length_texts_le {s : Setting} (h : s ≠ .browserArg) : (w.texts s).length ≤ 1 := by
  cases s <;> first | exact absurd rfl h | simp [texts, Option.length_toList_le]

theorem head?_of_mem_texts {s : Setting} {text : String} (h : text ∈ w.texts s) :
    s = .browserArg ∨ text.toList.head? ≠ some '-' := by
  cases s with
  | browserArg => exact .inl rfl
  | startUrl | chrome =>
      obtain ⟨t, -, rfl⟩ := List.mem_map.1 h
      exact .inr t.plain
  | viewport =>
      obtain ⟨size, -, rfl⟩ := List.mem_map.1 h
      exact .inr size.head?_text
  | waitMillis | maxWaitMillis | actionTimeout | maxLoops =>
      obtain ⟨n, -, rfl⟩ := List.mem_map.1 h
      exact .inr (head?_countText n)
  | logFormat =>
      obtain ⟨f, -, rfl⟩ := List.mem_map.1 h
      exact .inr f.head?_word

theorem texts_items (s : Setting) : CommandLine.texts s w.items = w.texts s := by
  have hflag : CommandLine.texts s (if w.headless then [.headless] else []) = [] := by
    split <;> rfl
  have hsettings : CommandLine.texts s (Setting.all.flatMap fun s' ↦ (w.texts s').map (.setting s'))
      = Setting.all.flatMap fun s' ↦ if s' = s then w.texts s' else [] := by
    simp only [CommandLine.texts, List.filterMap_flatMap]
    exact congrArg (Setting.all.flatMap ·) (funext fun s' ↦ texts_map_setting s s' _)
  rw [items, CommandLine.texts, List.filterMap_append]
  exact (congrArg₂ (· ++ ·) hflag hsettings).trans (by cases s <;> simp [Setting.all])

theorem count_items : w.items.count .headless = w.headless.toNat := by
  have hsettings : Item.headless ∉
      Setting.all.flatMap fun s ↦ (w.texts s).map (.setting s) := by simp
  rw [items, List.count_append, List.count_eq_zero.2 hsettings]
  cases w.headless <;> rfl

variable {w} {line : List Item}

theorem texts_of_perm (hperm : line.Perm w.items)
    (hargs : CommandLine.texts .browserArg line = w.browserArgs) (s : Setting) :
    CommandLine.texts s line = w.texts s := by
  by_cases hs : s = .browserArg
  · rw [hs, hargs]
    rfl
  · have htexts : (CommandLine.texts s line).Perm (w.texts s) :=
      w.texts_items s ▸ hperm.filterMap (Item.textFor s)
    match hw : w.texts s, w.length_texts_le hs with
    | [], _ => exact (hw ▸ htexts).eq_nil
    | [text], _ => exact List.perm_singleton.1 (hw ▸ htexts)

theorem admits_of_perm (hperm : line.Perm w.items)
    (hargs : CommandLine.texts .browserArg line = w.browserArgs) : Given.Admits {} line := by
  have htexts := texts_of_perm hperm hargs
  constructor
  · intro i hi
    cases i with
    | headless => trivial
    | setting s text => exact w.head?_of_mem_texts (htexts s ▸ mem_texts hi)
  · intro s text htext
    have hread : s.read text ∈ (w.given.values s).map Except.ok := by
      rw [← map_read_texts]
      exact List.mem_map_of_mem (htexts s ▸ htext)
    obtain ⟨v, -, hv⟩ := List.mem_map.1 hread
    exact ⟨v, hv.symm⟩
  · intro s hs
    have hnone : (Given.values {} s).length = 0 := by cases s <;> rfl
    rw [hnone, Nat.zero_add, htexts]
    exact w.length_texts_le hs
  · rw [hperm.count_eq, count_items]
    cases w.headless <;> decide

/-- The options in any order say what the wishes are. -/
theorem parse_of_perm (hperm : line.Perm w.items)
    (hargs : CommandLine.texts .browserArg line = w.browserArgs) :
    parse (line.flatMap Item.words) = .ok w.given := by
  obtain ⟨g, hparse, hextends⟩ := exists_parse (admits_of_perm hperm hargs)
  have hflag : g.headless = w.given.headless := by
    have hthere : .headless ∈ line ↔ w.headless = true := by
      rw [← List.count_pos_iff, hperm.count_eq, count_items]
      cases w.headless <;> decide
    rw [hextends.flag, Bool.false_or, Bool.eq_iff_iff, List.contains_iff_mem, hthere]
    rfl
  have hvalues : ∀ s, g.values s = w.given.values s := by
    intro s
    have hnone : Given.values {} s = [] := by cases s <;> rfl
    have hsame := hextends.values s
    rw [hnone, texts_of_perm hperm hargs, map_read_texts, List.map_nil, List.nil_append] at hsame
    exact List.map_injective_iff.2 (fun _ _ ↦ Except.ok.inj) hsame
  rw [hparse, Given.ext_values hflag hvalues]

end Wishes

/-! ## The whole -/

/-- The program is told what is asked for, and the defaults where nothing is. -/
structure Wishes.MetBy (w : Wishes) (environment : Option String) (o : Program.Orders) : Prop where
  headless : o.config.headless = true ↔
    w.headless = true ∨ ∃ v, environment = some v ∧ lower (trim v) = "true"
  startUrl : o.config.startUrl = (w.startUrl.map PlainText.text).getD "https://www.google.com"
  viewport : (o.config.viewportWidth, o.config.viewportHeight) =
    (w.viewport.map Size.sides).getD (1024, 768)
  waitMillis : o.config.waitMillis = w.waitMillis.getD 1000
  maxWaitMillis : o.config.maxWaitMillis = w.maxWaitMillis.getD 30000
  actionTimeout : o.config.actionTimeoutSeconds = w.actionTimeout.getD 60
  chrome : o.config.chromeExecutable = w.chrome.map PlainText.text
  browserArgs : o.config.browserArgs = w.browserArgs
  research : o.research = { maxRounds := w.maxLoops.getD 5 }
  format : o.format = (w.logFormat.map FormatWord.format).getD .text

/-- Whatever is asked for, there are orders that meet it, and they are what every line of its
options is read as that has the browser's own arguments in their order. -/
theorem every_order_of_options_is_read_alike (w : Wishes) (environment : Option String) :
    ∃ o, w.MetBy environment o ∧ ∀ line : List Item, line.Perm w.items →
      texts .browserArg line = w.browserArgs →
        Program.Orders.read (line.flatMap Item.words) environment = .ok o := by
  refine ⟨{ config := w.given.config (.ofEnvironment environment)
            research := { maxRounds := w.given.researchLoops }
            format := w.given.format }, ?_, fun line hperm hargs ↦ ?_⟩
  · constructor
    case headless =>
      simp only [Given.config, Config.ofEnvironment, Wishes.given, Bool.or_eq_true]
      rw [or_comm]
      cases environment <;> simp [Config.headlessFrom]
    case viewport =>
      cases hsize : w.viewport <;>
        simp [Given.config, Config.ofEnvironment, Wishes.given, hsize, Size.sides]
    all_goals
      simp [Given.config, Config.ofEnvironment, Wishes.given, Given.researchLoops, Given.format]
  · simp [Program.Orders.read, Wishes.parse_of_perm hperm hargs, bind, Except.bind, pure,
      Except.pure]

theorem options_that_look_like_others_are_kept :
    ∃ o : Program.Orders, (o.config.headless = true ∧ o.config.browserArgs = ["--headless", "--"] ∧
      (o.config.viewportWidth, o.config.viewportHeight) = (800, 600) ∧ o.format = .json) ∧
        Program.Orders.read ["--log-format", "JSON", "--browser-arg", "--headless",
          "--viewport", "800x600", "--browser-arg", "--"] (some " True ") = .ok o := by
  let w : Wishes :=
    { viewport := some ⟨800, 600, by decide⟩
      browserArgs := ["--headless", "--"]
      logFormat := some ⟨"JSON", .json, by decide⟩ }
  let line : List Item := [.setting .logFormat "JSON", .setting .browserArg "--headless",
    .setting .viewport "800x600", .setting .browserArg "--"]
  obtain ⟨o, hmet, hread⟩ := every_order_of_options_is_read_alike w (some " True ")
  have hheadless : lower (trim " True ") = "true" := by decide
  exact ⟨o, ⟨hmet.headless.2 (.inr ⟨_, rfl, hheadless⟩), hmet.browserArgs, hmet.viewport,
    hmet.format⟩, hread line (by decide) (by decide)⟩

end BrowserPilot.CommandLine
