import BrowserPilot.CommandLine.Parser
import BrowserPilot.Proofs.Except
import BrowserPilot.Proofs.Text.Blank
import BrowserPilot.Proofs.Text.Numeral

namespace BrowserPilot.CommandLine

/-!
# Which texts are sizes

A size is two numerals with a cross between them and blanks around each. Every size of
positive numbers that fit is read as what it says, and nothing else is read. So whatever
command line gives a size, it is one that a session can start with.
-/

open Text

variable {cs left right : List Char} {n : Nat}

/-! ## The first cross -/

theorem isCross_iff {c : Char} : isCross c = true ↔ c = 'x' ∨ c = 'X' := by
  simp [isCross]

theorem splitCross_append {cross : Char} (hcross : isCross cross = true)
    (hleft : ∀ c ∈ left, isCross c = false) (right : List Char) :
    splitCross (left ++ cross :: right) = some (left, right) := by
  have hpass : ∀ c ∈ left, (!isCross c) = true := fun c hc ↦ by simp [hleft c hc]
  have hdrop : (left ++ cross :: right).dropWhile (!isCross ·) = cross :: right := by
    rw [List.dropWhile_append_of_pos hpass]
    exact List.dropWhile_cons_of_neg (by simp [hcross])
  have htake : (left ++ cross :: right).takeWhile (!isCross ·) = left := by
    rw [List.takeWhile_append_of_pos hpass, List.takeWhile_cons_of_neg (by simp [hcross]),
      List.append_nil]
  simp only [splitCross, hdrop, htake]

theorem exists_cross_of_splitCross (h : splitCross cs = some (left, right)) :
    ∃ cross, isCross cross = true ∧ (∀ c ∈ left, isCross c = false) ∧
      cs = left ++ cross :: right := by
  unfold splitCross at h
  split at h
  · cases h
  · rename_i cross rest hdrop
    obtain ⟨rfl, rfl⟩ := Prod.mk.inj (Option.some.inj h)
    have hstops := List.head_dropWhile_not (!isCross ·) (by rw [hdrop]; exact List.cons_ne_nil _ _)
    simp only [hdrop, List.head_cons, Bool.not_eq_false'] at hstops
    refine ⟨cross, hstops, fun c hc ↦ ?_, ?_⟩
    · simpa using List.mem_takeWhile_imp hc
    · rw [← hdrop, List.takeWhile_append_dropWhile]

/-! ## Sides -/

/-- A numeral of `n` with blanks around it. -/
inductive IsSide (n : Nat) : List Char → Prop
  | mk {before numeral after : List Char} : (∀ c ∈ before, isBlank c = true) →
      (∀ c ∈ after, isBlank c = true) → IsNumeral n numeral → IsSide n (before ++ numeral ++ after)

theorem IsSide.of_numeral (h : IsNumeral n cs) : IsSide n cs := by
  simpa using @IsSide.mk n [] cs [] (by simp) (by simp) h

theorem toNat_of_isDigit {c : Char} (h : c.isDigit = true) : 48 ≤ c.toNat ∧ c.toNat ≤ 57 := by
  simpa [Char.isDigit, UInt32.le_iff_toNat_le] using h

theorem isBlank_of_numeral {c : Char} (h : c = '+' ∨ c.isDigit = true) : isBlank c = false := by
  rcases h with rfl | h
  · decide
  · obtain ⟨hlow, hhigh⟩ := toNat_of_isDigit h
    simp [isBlank]
    omega

theorem isCross_of_numeral {c : Char} (h : c = '+' ∨ c.isDigit = true) : isCross c = false := by
  rcases h with rfl | h
  · decide
  · refine Bool.eq_false_iff.2 fun hcross ↦ ?_
    rcases isCross_iff.1 hcross with rfl | rfl <;> cases h

theorem isCross_of_isBlank {c : Char} (h : isBlank c = true) : isCross c = false := by
  refine Bool.eq_false_iff.2 fun hcross ↦ ?_
  rcases isCross_iff.1 hcross with rfl | rfl <;> cases h

theorem IsSide.isCross (h : IsSide n cs) : ∀ c ∈ cs, isCross c = false := by
  obtain ⟨hbefore, hafter, hnumeral⟩ := h
  intro c hc
  rcases List.mem_append.1 hc with hc | hc
  · rcases List.mem_append.1 hc with hc | hc
    · exact isCross_of_isBlank (hbefore c hc)
    · exact isCross_of_numeral (hnumeral.plus_or_digit hc)
  · exact isCross_of_isBlank (hafter c hc)

theorem side_eq_ok_iff {which : String} {n : UInt32} :
    side which cs = .ok n ↔ IsSide n.toNat cs := by
  constructor
  · intro h
    unfold side at h
    split at h
    · rename_i m hm
      obtain rfl := Except.ok.inj h
      obtain ⟨hnumeral, hle⟩ := unsigned_eq_ok_iff.1 hm
      obtain ⟨before, after, hbefore, hafter, hcs⟩ := exists_blanks cs
      rw [String.toList_ofList] at hnumeral
      rw [UInt32.toNat_ofNat_of_lt' (Nat.lt_of_le_pred (by decide) hle), hcs]
      exact .mk hbefore hafter hnumeral
    · cases h
  · rintro @⟨before, numeral, after, hbefore, hafter, hnumeral⟩
    have hblank : ∀ c ∈ numeral, isBlank c = false := fun c hc ↦
      isBlank_of_numeral (hnumeral.plus_or_digit hc)
    have hread : unsigned (UInt32.size - 1)
        (String.ofList (trimChars (before ++ numeral ++ after))) = .ok n.toNat := by
      refine unsigned_eq_ok_iff.2 ⟨?_, Nat.le_pred_of_lt n.toNat_lt⟩
      rw [String.toList_ofList, trimChars_surrounded hbefore hafter, trimChars_of_forall hblank]
      exact hnumeral
    simp only [side, hread, UInt32.ofNat_toNat]

/-! ## Sizes -/

/-- A text that says a size: a side of each number, and the first cross of the text between
them. -/
inductive IsSize (width height : Nat) : List Char → Prop
  | mk {left right : List Char} {cross : Char} : IsSide width left → IsSide height right →
      (cross = 'x' ∨ cross = 'X') → 'x' ∉ left → 'X' ∉ left →
        IsSize width height (left ++ cross :: right)

theorem isSize_of_sides {width height : Nat} {cross : Char} (hleft : IsSide width left)
    (hright : IsSide height right) (hcross : cross = 'x' ∨ cross = 'X') :
    IsSize width height (left ++ cross :: right) :=
  .mk hleft hright hcross (fun h ↦ absurd (hleft.isCross _ h) (by decide))
    fun h ↦ absurd (hleft.isCross _ h) (by decide)

theorem parseViewport_eq_ok_iff {text : String} {width height : UInt32} :
    parseViewport text = .ok (width, height) ↔
      (0 < width ∧ 0 < height) ∧ IsSize width.toNat height.toNat text.toList := by
  have hpositive {n : UInt32} : 0 < n ↔ n ≠ 0 := by
    rw [UInt32.lt_iff_toNat_lt, ← UInt32.toNat_inj.ne]
    exact Nat.pos_iff_ne_zero
  constructor
  · intro h
    unfold parseViewport at h
    split at h
    · cases h
    · rename_i left right hsplit
      obtain ⟨cross, hcross, -, htext⟩ := exists_cross_of_splitCross hsplit
      obtain ⟨w, hw, h⟩ := exists_of_bind_eq_ok h
      obtain ⟨v, hv, h⟩ := exists_of_bind_eq_ok h
      split at h
      · cases h
      · rename_i hzero
        obtain ⟨rfl, rfl⟩ := Prod.mk.inj (Except.ok.inj h)
        rw [not_or, ← ne_eq, ← ne_eq, ← hpositive, ← hpositive] at hzero
        refine ⟨hzero, htext ▸ ?_⟩
        exact isSize_of_sides (side_eq_ok_iff.1 hw) (side_eq_ok_iff.1 hv) (isCross_iff.1 hcross)
  · rintro ⟨⟨hwidth, hheight⟩, hsize⟩
    generalize htext : text.toList = cs at hsize
    obtain @⟨left, right, cross, hleft, hright, hcross, -, -⟩ := hsize
    have hsplit := splitCross_append (isCross_iff.2 hcross) hleft.isCross right
    simp only [parseViewport, htext, hsplit, side_eq_ok_iff.2 hleft, side_eq_ok_iff.2 hright]
    have hzero : ¬ (width = 0 ∨ height = 0) := not_or.2 ⟨hpositive.1 hwidth, hpositive.1 hheight⟩
    simp [bind, Except.bind, hzero, pure, Except.pure]

/-! ## Sizes on a command line -/

/-- The size that has been given, if any, has two positive sides. -/
def Given.Sized (g : Given) : Prop :=
  ∀ size ∈ g.viewport, 0 < size.1 ∧ 0 < size.2

theorem Given.Sized.store {g g' : Given} {s : Setting} {value : String} (hg : g.Sized)
    (h : g.store s value = .ok g') : g'.Sized := by
  cases s with
  | viewport =>
      obtain ⟨⟨width, height⟩, hsize, rfl⟩ := exists_of_map_eq_ok h
      rintro size hmem
      obtain rfl := Option.some.inj hmem
      exact (parseViewport_eq_ok_iff.1 hsize).1
  | startUrl | chrome | browserArg =>
      obtain rfl := Except.ok.inj h
      exact hg
  | waitMillis | maxWaitMillis | actionTimeout | maxLoops | logFormat =>
      obtain ⟨_, -, rfl⟩ := exists_of_map_eq_ok h
      exact hg

theorem Given.Sized.take {g g' : Given} {s : Setting} {value : String} (hg : g.Sized)
    (h : g.take s value = .ok g') : g'.Sized := by
  unfold Given.take at h
  split at h
  · cases h
  · split at h
    · rename_i hstore
      obtain rfl := Except.ok.inj h
      exact hg.store hstore
    · cases h

theorem Given.Sized.takeHeadless {g g' : Given} (hg : g.Sized) (h : g.takeHeadless = .ok g') :
    g'.Sized := by
  unfold Given.takeHeadless at h
  split at h
  · cases h
  · obtain rfl := Except.ok.inj h
    exact hg

namespace Progress

variable {p p' : Progress}

theorem sized_settle (hp : p.given.Sized) (h : p.settle = .ok p') : p'.given.Sized := by
  unfold settle at h
  split at h
  · obtain rfl := Except.ok.inj h
    exact hp
  · cases h
  · obtain ⟨g, hg, h⟩ := exists_of_bind_eq_ok h
    obtain rfl := Except.ok.inj h
    exact hp.take hg

theorem sized_takeFlag (hp : p.given.Sized) (h : p.takeFlag = .ok p') : p'.given.Sized := by
  obtain ⟨q, hq, h⟩ := exists_of_bind_eq_ok h
  obtain ⟨g, hg, h⟩ := exists_of_bind_eq_ok h
  obtain rfl := Except.ok.inj h
  exact (sized_settle hp hq).takeHeadless hg

theorem sized_takeSetting {s : Setting} {attached : Option String} (hp : p.given.Sized)
    (h : p.takeSetting s attached = .ok p') : p'.given.Sized := by
  obtain ⟨q, hq, h⟩ := exists_of_bind_eq_ok h
  have hsized := sized_settle hp hq
  cases attached with
  | none =>
      obtain rfl := Except.ok.inj h
      exact hsized
  | some value =>
      obtain ⟨g, hg, h⟩ := exists_of_bind_eq_ok h
      obtain rfl := Except.ok.inj h
      exact hsized.take hg

theorem not_askHelp (p p' : Progress) : p.askHelp ≠ .ok p' := by
  intro h
  obtain ⟨q, -, h⟩ := exists_of_bind_eq_ok h
  cases h

theorem sized_takeLong {name : String} {value : Option String} (hp : p.given.Sized)
    (h : p.takeLong name value = .ok p') : p'.given.Sized := by
  unfold takeLong at h
  split at h
  · split at h
    · cases h
    · split at h
      · exact sized_takeFlag hp h
      · exact absurd h (not_askHelp p p')
  · split at h
    · exact sized_takeSetting hp h
    · cases h

theorem sized_takeShort {letters : List Char} (hp : p.given.Sized)
    (h : p.takeShort letters = .ok p') : p'.given.Sized := by
  unfold takeShort at h
  split at h
  · exact absurd h (not_askHelp p p')
  · cases h
  · obtain rfl := Except.ok.inj h
    exact hp

/-- No argument brings in a size without a side. -/
theorem sized_take {argument : String} (hp : p.given.Sized) (h : p.take argument = .ok p') :
    p'.given.Sized := by
  unfold take at h
  split at h
  · cases h
  · split at h
    · dsimp only at h
      split at h
      · obtain rfl := Except.ok.inj h
        exact hp
      · split at h
        · obtain rfl := Except.ok.inj h
          exact hp
        · exact sized_takeLong hp h
        · exact sized_takeShort hp h
        · obtain rfl := Except.ok.inj h
          exact hp
    · split at h
      · obtain rfl := Except.ok.inj h
        exact hp
      · exact sized_takeLong hp h
      · exact sized_takeShort hp h
      · cases h

theorem sized_takeAll {arguments : List String} (hp : p.given.Sized)
    (h : p.takeAll arguments = .ok p') : p'.given.Sized := by
  induction arguments generalizing p with
  | nil =>
      obtain rfl := Except.ok.inj h
      exact hp
  | cons a arguments ih =>
      obtain ⟨q, hq, h⟩ := exists_of_bind_eq_ok h
      exact ih (sized_take hp hq) h

end Progress

/-- Whatever is given on a command line, a size has two positive sides. -/
theorem sized_of_parse {arguments : List String} {g : Given} (h : parse arguments = .ok g) :
    g.Sized := by
  obtain ⟨p, hp, h⟩ := exists_of_bind_eq_ok h
  obtain ⟨q, hq, h⟩ := exists_of_bind_eq_ok h
  obtain rfl := Except.ok.inj h
  exact Progress.sized_settle (Progress.sized_takeAll (fun size hsize ↦ by cases hsize) hp) hq

/-- What can still be wrong with settings that have a size. -/
theorem validate_of_sized {c : Config} {e : Failure} (hwidth : 0 < c.viewportWidth)
    (hheight : 0 < c.viewportHeight) (h : c.validate = .error e) :
    e = .configuration "start_url is empty" ∨
      e = .configuration "action_timeout_secs must be at least 1" := by
  have hsize : ¬ (c.viewportWidth = 0 ∨ c.viewportHeight = 0) := by
    rintro (hzero | hzero)
    · simp [hzero] at hwidth
    · simp [hzero] at hheight
  unfold Config.validate at h
  rw [if_neg hsize] at h
  split at h
  · exact .inl (Except.error.inj h).symm
  · split at h
    · exact .inr (Except.error.inj h).symm
    · cases h

/-! ## The whole -/

/-- The size in the settings is the one that was given, and there is nothing wrong with it. -/
structure Given.Fits (size : UInt32 × UInt32) (c : Config) : Prop where
  same : (c.viewportWidth, c.viewportHeight) = size
  positive : 0 < c.viewportWidth ∧ 0 < c.viewportHeight
  valid : ∀ e, c.validate = .error e → e = .configuration "start_url is empty" ∨
    e = .configuration "action_timeout_secs must be at least 1"

/-- A text is read as a size exactly if it says that size: so is what any two positive numbers are
written as, with blanks around them and either cross between them. No command line gives the
session a size that it refuses. -/
theorem sizes_are_read_exactly :
    (∀ (text : String) (width height : UInt32), parseViewport text = .ok (width, height) ↔
      (0 < width ∧ 0 < height) ∧ IsSize width.toNat height.toNat text.toList) ∧
    (∀ (width height : UInt32) (cross : Char) (a b c d : List Char), 0 < width → 0 < height →
      cross = 'x' ∨ cross = 'X' → (∀ ch ∈ a ++ b ++ c ++ d, isBlank ch = true) →
        parseViewport (String.ofList (a ++ (toString width.toNat).toList ++ b ++
          cross :: (c ++ (toString height.toNat).toList ++ d))) = .ok (width, height)) ∧
    ∀ (arguments : List String) (g : Given) (size : UInt32 × UInt32) (base : Config),
      parse arguments = .ok g → g.viewport = some size → Given.Fits size (g.config base) := by
  refine ⟨fun _ _ _ ↦ parseViewport_eq_ok_iff, ?_, ?_⟩
  · intro width height cross a b c d hwidth hheight hcross hblank
    simp only [List.mem_append, or_imp, forall_and] at hblank
    obtain ⟨⟨⟨ha, hb⟩, hc⟩, hd⟩ := hblank
    refine parseViewport_eq_ok_iff.2 ⟨⟨hwidth, hheight⟩, ?_⟩
    rw [String.toList_ofList]
    exact isSize_of_sides (.mk ha hb (isNumeral_toString _)) (.mk hc hd (isNumeral_toString _))
      hcross
  · intro arguments g size base hparse hsize
    obtain ⟨hwidth, hheight⟩ := sized_of_parse hparse size hsize
    have hw : (g.config base).viewportWidth = size.1 := by simp [Given.config, hsize]
    have hh : (g.config base).viewportHeight = size.2 := by simp [Given.config, hsize]
    exact ⟨by rw [hw, hh], ⟨hw ▸ hwidth, hh ▸ hheight⟩,
      fun e ↦ validate_of_sized (hw ▸ hwidth) (hh ▸ hheight)⟩

theorem size_of_blanks_and_zeros :
    parseViewport " 800\nX600" = .ok (800, 600) ∧
      IsSize 800 600 "+0800x600 ".toList ∧
        ∃ g, parse ["--viewport", "+0800x600 "] = .ok g ∧ Given.Fits (800, 600) (g.config {}) :=
  ⟨sizes_are_read_exactly.2.1 800 600 'X' [' '] ['\n'] [] [] (by decide) (by decide) (.inr rfl)
      (List.forall_mem_cons.2 ⟨by rfl, List.forall_mem_singleton.2 (by rfl)⟩),
    ((sizes_are_read_exactly.1 "+0800x600 " 800 600).1 (by rfl)).2,
    { viewport := some (800, 600) }, by rfl,
    sizes_are_read_exactly.2.2 ["--viewport", "+0800x600 "] _ (800, 600) {} (by rfl) rfl⟩

end BrowserPilot.CommandLine
