import BrowserPilot.Proofs.Page.Told

namespace BrowserPilot

/-!
# Pages tell what they were asked and what they sent

Whatever primitive is applied to a page and whatever the browser refuses of it, the
commands tell the browser what was asked for and sent so far, and the page goes on
remembering just that.
-/

/-- How a browser answers commands that are sent to it one after the other. -/
def Chrome.answers (chrome : Chrome) : List Command → List (Option Trouble)
  | [] => []
  | c :: cs => (chrome.send c).1 :: (chrome.send c).2.answers cs

namespace ChromePage

variable {chrome : Chrome} {h : Hands} {page : ChromePage} {asked : List Primitive}
  {log : List Sent}

/-- Some first strokes of a row have been made: at least one, and all of them unless one failed
that was to stop the rest. -/
structure Made (persist : Bool) (h : Hands) (ss made : List Stroke) (run : Run) : Prop where
  isPrefix : made <+: ss
  some : ss ≠ [] → made ≠ []
  all : run.failure = none ∨ persist = true → made = ss
  sent : run.sent.map Sent.command = Stroke.commands h made
  hands : run.hands = made.foldl Stroke.after h

theorem make_made (persist : Bool) (chrome : Chrome) (h : Hands) (ss : List Stroke) :
    ∃ made, Made persist h ss made (make persist chrome h ss) := by
  induction ss generalizing chrome h with
  | nil => exact ⟨[], List.prefix_rfl, id, fun _ ↦ rfl, rfl, rfl⟩
  | cons s ss ih =>
      rcases hsend : chrome.send (s.command (s.after h)) with ⟨_ | trouble, chrome'⟩
      · obtain ⟨made, hmade⟩ := ih chrome' (s.after h)
        have hinitial := (List.prefix_cons_inj s).2 hmade.isPrefix
        refine ⟨s :: made, hinitial, by simp, fun hall ↦ ?_, ?_, ?_⟩
        · simp only [make, hsend] at hall
          rw [hmade.all hall]
        · simp only [make, hsend, List.map_cons, Stroke.commands, hmade.sent]
        · simp only [make, hsend, hmade.hands, List.foldl_cons]
      · cases persist with
        | false =>
            refine ⟨[s], by simp, by simp, fun hall ↦ ?_, ?_, ?_⟩
            · simp [make, hsend] at hall
            · simp [make, hsend, Stroke.commands]
            · simp [make, hsend]
        | true =>
            obtain ⟨made, hmade⟩ := ih chrome' (s.after h)
            have hinitial := (List.prefix_cons_inj s).2 hmade.isPrefix
            refine ⟨s :: made, hinitial, by simp, fun _ ↦ ?_, ?_, ?_⟩
            · rw [hmade.all (.inr rfl)]
            · simp only [make, hsend, if_true, List.map_cons, Stroke.commands, hmade.sent]
            · simp only [make, hsend, if_true, hmade.hands, List.foldl_cons]

/-- Strokes that nothing stops are all made, and the first failure is kept. -/
theorem make_persistent (chrome : Chrome) (h : Hands) (ss : List Stroke) :
    (make true chrome h ss).sent = (Stroke.commands h ss).zipWith
        (fun c trouble ↦ ⟨c, trouble.isSome⟩) (chrome.answers (Stroke.commands h ss)) ∧
      (make true chrome h ss).failure = (ss.zip (chrome.answers (Stroke.commands h ss))).findSome?
        fun (s, trouble) ↦ trouble.map (failure s.complaint) := by
  induction ss generalizing chrome h with
  | nil => exact ⟨rfl, rfl⟩
  | cons s ss ih =>
      rcases hsend : chrome.send (s.command (s.after h)) with ⟨_ | trouble, chrome'⟩ <;>
        obtain ⟨hsent, hfailure⟩ := ih chrome' (s.after h) <;>
        constructor
      · simp [make, hsend, Stroke.commands, Chrome.answers, hsent]
      · simp [make, hsend, Stroke.commands, Chrome.answers, hfailure]
      · simp [make, hsend, Stroke.commands, Chrome.answers, hsent]
      · simp [make, hsend, Stroke.commands, Chrome.answers]

/-- Strokes on behalf of a primitive. -/
theorem recounts_make {persist : Bool} {p : Primitive} {ss : List Stroke}
    (hss : ∀ q, p.target? = some q →
      ∃ rest, ss = .move q.x q.y :: rest ∧ ∀ s ∈ rest, ∀ x y, s ≠ .move x y)
    (hsteady : p.target? = none → ∀ s ∈ ss, ∀ x y, s ≠ .move x y)
    (htracks : page.hands.Tracks log) (hplace : page.hands.place = Primitive.aim asked)
    (reply : p.Reply) :
    Recounts (asked ++ [p]) log (strokes persist chrome page ss p reply).events
      (strokes persist chrome page ss p reply).page.hands := by
  obtain ⟨made, hmade⟩ := make_made persist chrome page.hands ss
  have haim := Primitive.aim_append_singleton asked p
  have hrun : (make persist chrome page.hands ss).hands = made.foldl Stroke.after page.hands :=
    hmade.hands
  change Recounts _ log (make persist chrome page.hands ss).sent
    (make persist chrome page.hands ss).hands
  rw [hrun]
  cases htarget : p.target? with
  | none =>
      rw [htarget, Option.getD_none] at haim
      refine .strokes (fun x y hmem ↦ ?_) htracks (.inl (hplace.trans haim.symm)) hmade.sent
      exact absurd rfl (hsteady htarget _ (hmade.isPrefix.subset hmem) x y)
  | some q =>
      rw [htarget, Option.getD_some] at haim
      obtain ⟨rest, rfl, hrest⟩ := hss q htarget
      obtain ⟨made', rfl, hinitial⟩ : ∃ made', made = .move q.x q.y :: made' ∧ made' <+: rest := by
        cases made with
        | nil => exact absurd rfl (hmade.some (by simp))
        | cons s made' =>
            obtain ⟨rfl, hinitial⟩ := List.cons_prefix_cons.1 hmade.isPrefix
            exact ⟨made', rfl, hinitial⟩
      refine .strokes (fun x y hmem ↦ ?_) htracks (.inr ⟨made', by rw [haim]⟩) hmade.sent
      rcases List.mem_cons.1 hmem with hfirst | hmem
      · obtain ⟨rfl, rfl⟩ := Stroke.move.inj hfirst
        exact haim.symm
      · exact absurd rfl (hrest _ (hinitial.subset hmem) x y)

/-- A primitive without strokes sends nothing for pointer and keyboard. -/
structure Silent (page : ChromePage) {p : Primitive} (effect : Effect Chrome ChromePage Sent p) :
    Prop where
  hands : effect.page.hands = page.hands
  pointer : ∀ s ∈ effect.events, ∀ e, s.command ≠ .pointer e
  key : ∀ s ∈ effect.events, ∀ e, s.command ≠ .key e

theorem Silent.recounts {p : Primitive} {effect : Effect Chrome ChromePage Sent p}
    (hsilent : Silent page effect) (hp : p.target? = none) (htracks : page.hands.Tracks log)
    (hplace : page.hands.place = Primitive.aim asked) :
    Recounts (asked ++ [p]) log effect.events effect.page.hands := by
  rw [hsilent.hands]
  refine .silent htracks ?_ hsilent.pointer hsilent.key
  rw [Primitive.aim_append_singleton, hp, Option.getD_none]
  exact hplace

theorem silent_single {c : Command} (hpointer : ∀ e, c ≠ .pointer e) (hkey : ∀ e, c ≠ .key e)
    (complaint : String) (p : Primitive) (reply : p.Reply) :
    Silent page (single chrome page c complaint p reply) := by
  rcases hsend : chrome.send c with ⟨_ | trouble, chrome'⟩ <;> simp only [single, hsend] <;>
    exact ⟨rfl, by simpa using hpointer, by simpa using hkey⟩

theorem silent_goto (chrome : Chrome) (url : String) : Silent page (page.goto chrome url) := by
  rcases hsend : chrome.send (.navigate url) with ⟨_ | trouble, chrome'⟩
  · simp only [goto, hsend]
    exact ⟨rfl, by simp, by simp⟩
  · simp only [goto, hsend]
    refine ⟨?_, by simp, by simp⟩
    cases trouble <;> rfl

theorem silent_screenshot (chrome : Chrome) (full : Bool) :
    Silent page (page.screenshot chrome full) := by
  have hcapture (chrome : Chrome) (clip : Option (Nat × Nat)) :
      ∃ failed, (capture chrome clip).2.1 = [⟨.capture clip, failed⟩] := by
    rcases hsend : chrome.send (.capture clip) with ⟨_ | trouble, chrome'⟩ <;>
      simp [capture, hsend]
  cases full with
  | false =>
      obtain ⟨failed, hsent⟩ := hcapture chrome none
      simp only [screenshot, Bool.false_eq_true, if_false]
      exact ⟨rfl, by simp [hsent], by simp [hsent]⟩
  | true =>
      simp only [screenshot, if_true]
      rcases hsend : chrome.send (.setMetrics chrome.contentWidth chrome.contentHeight) with
        ⟨_ | trouble, chrome'⟩
      · obtain ⟨failed, hsent⟩ :=
          hcapture chrome' (some (chrome'.contentWidth, chrome'.contentHeight))
        exact ⟨rfl, by simp [captureAll, hsend, hsent], by simp [captureAll, hsend, hsent]⟩
      · exact ⟨rfl, by simp [captureAll, hsend], by simp [captureAll, hsend]⟩

theorem silent_close (chrome : Chrome) : Silent page (page.close chrome) := by
  unfold close
  split
  · have hsilent : Silent { page with isOpen := false } (single chrome
        { page with isOpen := false } .closeBrowser "Failed to close browser" .close ()) :=
      silent_single (by simp) (by simp) _ _ _
    obtain ⟨hhands, hpointer, hkey⟩ := hsilent
    exact ⟨hhands, hpointer, hkey⟩
  · exact ⟨rfl, by simp, by simp⟩

theorem silent_evaluate (chrome : Chrome) (script : String) (reply : Json) :
    Silent page (single chrome page (scriptCommand script) "Script execution failed"
      (.evaluate script) reply) := by
  have hscript : (∀ e, scriptCommand script ≠ .pointer e) ∧ ∀ e, scriptCommand script ≠ .key e := by
    unfold scriptCommand
    split <;> simp
  exact silent_single hscript.1 hscript.2 _ _ _

/-- A primitive makes its strokes, lets everything go or is silent. -/
theorem apply_cases (p : Primitive) (chrome : Chrome) (page : ChromePage) :
    (∃ reply, apply p chrome page = strokes false chrome page (Stroke.ofPrimitive p) p reply) ∨
      p = .releaseAll ∨
      Stroke.ofPrimitive p = [] ∧ p.target? = none ∧ Silent page (apply p chrome page) := by
  cases p with
  | releaseAll => exact .inr (.inl rfl)
  | goto url => exact .inr (.inr ⟨rfl, rfl, silent_goto chrome url⟩)
  | setViewport width height =>
      exact .inr (.inr ⟨rfl, rfl, silent_single (by simp) (by simp) _ _ _⟩)
  | screenshot full => exact .inr (.inr ⟨rfl, rfl, silent_screenshot chrome full⟩)
  | currentUrl => exact .inr (.inr ⟨rfl, rfl, rfl, by simp [apply], by simp [apply]⟩)
  | close => exact .inr (.inr ⟨rfl, rfl, silent_close chrome⟩)
  | evaluate script => exact .inr (.inr ⟨rfl, rfl, silent_evaluate chrome script _⟩)
  | _ => exact .inl ⟨(), rfl⟩

/-- Every primitive tells the browser what was asked for and sent so far. -/
theorem recounts_apply (chrome : Chrome) (p : Primitive) (htracks : page.hands.Tracks log)
    (hplace : page.hands.place = Primitive.aim asked) :
    Recounts (asked ++ [p]) log (apply p chrome page).events (apply p chrome page).page.hands := by
  rcases apply_cases p chrome page with ⟨reply, happly⟩ | rfl | ⟨-, hp, hsilent⟩
  · rw [happly]
    exact recounts_make (fun _ ↦ Stroke.ofPrimitive_of_target) Stroke.ofPrimitive_of_noTarget
      htracks hplace reply
  · refine recounts_make (p := .releaseAll) (fun q h ↦ by simp [Primitive.target?] at h)
      (fun _ s hs x y ↦ ?_) htracks hplace ()
    rintro rfl
    simp [Stroke.releases] at hs
  · exact hsilent.recounts hp htracks hplace

/-- A primitive that succeeds makes all its strokes. -/
theorem hands_apply_of_ok {p : Primitive} (hp : p ≠ .releaseAll) {reply : p.Reply}
    (hok : (apply p chrome page).result = .ok reply) :
    (apply p chrome page).page.hands = (Stroke.ofPrimitive p).foldl Stroke.after page.hands := by
  rcases apply_cases p chrome page with ⟨reply', happly⟩ | rfl | ⟨hnone, -, hsilent⟩
  · obtain ⟨made, hmade⟩ := make_made false chrome page.hands (Stroke.ofPrimitive p)
    rw [happly] at hok ⊢
    have hnone : (make false chrome page.hands (Stroke.ofPrimitive p)).failure = none := by
      cases hfailure : (make false chrome page.hands (Stroke.ofPrimitive p)).failure with
      | none => rfl
      | some e => simp [strokes, hfailure] at hok
    have hhands := hmade.hands
    rw [hmade.all (.inl hnone)] at hhands
    exact hhands
  · exact absurd rfl hp
  · rw [hnone]
    exact hsilent.hands

/-! ## Letting everything go -/

/-- One release for each bit of a mask of buttons, and then a key that comes up for each bit of a
mask of modifiers. -/
def lifts (buttons modifiers : Nat) : List Stroke :=
  ([Button.left, .right, .middle].filter fun b ↦ buttons &&& HeldButtons.bit b ≠ 0).map
      (.release · 1) ++
    ([Key.Modifier.alt, .control, .system, .shift].filter fun m ↦ modifiers &&& m.bit ≠ 0).map
      fun m ↦ .keyUp m.name

theorem lifts_masks (h : Hands) : lifts h.buttons.mask h.modifiers.mask = Stroke.releases h := by
  have hbuttons : (fun b ↦ decide (h.buttons.mask &&& HeldButtons.bit b ≠ 0)) = h.buttons.has := by
    funext b
    rw [Bool.eq_iff_iff, decide_eq_true_iff]
    exact h.buttons.mask_and_bit b
  have hmodifiers : (fun m : Key.Modifier ↦ decide (h.modifiers.mask &&& m.bit ≠ 0)) =
      h.modifiers.has := by
    funext m
    rw [Bool.eq_iff_iff, decide_eq_true_iff]
    exact h.modifiers.mask_and_bit m
  rw [lifts, hbuttons, hmodifiers]
  rfl

/-- Everything is let go whose bits the page has set: all its commands are sent, whatever the
answers, the first failure is returned, and no bit is left set. -/
structure LetsGo (chrome : Chrome) (page : ChromePage) (ss : List Stroke)
    (effect : Effect Chrome ChromePage Sent .releaseAll) : Prop where
  events : effect.events = (Stroke.commands page.hands ss).zipWith
    (fun c trouble ↦ ⟨c, trouble.isSome⟩) (chrome.answers (Stroke.commands page.hands ss))
  result : effect.result =
    match (ss.zip (chrome.answers (Stroke.commands page.hands ss))).findSome?
      fun (s, trouble) ↦ trouble.map (failure s.complaint) with
    | some e => .error e
    | none => .ok ()
  idle : ∀ x, effect.page.hands.has x = false

theorem letsGo_releaseAll (chrome : Chrome) (page : ChromePage) :
    LetsGo chrome page (lifts page.hands.buttons.mask page.hands.modifiers.mask)
      (apply .releaseAll chrome page) := by
  rw [lifts_masks]
  obtain ⟨hsent, hfailure⟩ := make_persistent chrome page.hands (Stroke.releases page.hands)
  obtain ⟨made, hmade⟩ := make_made true chrome page.hands (Stroke.releases page.hands)
  refine ⟨hsent, ?_, fun x ↦ ?_⟩
  · rw [← hfailure]
    rfl
  · have hhands : (apply .releaseAll chrome page).page.hands =
        (Stroke.releases page.hands).foldl Stroke.after page.hands := by
      rw [← hmade.all (.inr rfl)]
      exact hmade.hands
    rw [hhands, Stroke.has_foldl, Stroke.turns_releases, Bool.and_not_self]

end ChromePage

end BrowserPilot
