import BrowserPilot.Proofs.Page.Keystroke

namespace BrowserPilot

/-!
# What typing sends

A text is typed character by character, by keys that go down and come up again or as
text that is inserted. What the browser is told to type, read off the commands, is the
text itself, and the commands end with the first one that is refused.
-/

/-! ## What a command types -/

namespace Command

theorem params_of_key (e : KeyEvent) :
    (key e).params.get? "type" = some (.string e.kind.name) ∧
      (key e).params.get? "key" = some (.string e.definition.key) ∧
      (key e).params.get? "text" = e.typed?.map .string := by
  obtain ⟨kind, d, modifiers⟩ := e
  cases hnumber : d.number <;> cases hlocation : d.location <;>
    cases htext : KeyEvent.typed? ⟨kind, d, modifiers⟩ <;>
      simp [params, KeyEvent.params, hnumber, hlocation, htext, Json.ofMembers, Json.get?,
        Json.find?_insertMember_self, Json.find?_insertMember_ne, Json.find?]

/-- A text among the parameters of a command. -/
def text? (c : Command) (name : String) : Option String := (c.params.get? name).bind Json.asString?

/-- What a command types: the text of a key that goes down or of an insertion, and a tab for the
key of this name, which goes down without text. -/
def typed (c : Command) : List Char :=
  if c.method = "Input.insertText" then ((c.text? "text").getD "").toList
  else if c.method = "Input.dispatchKeyEvent" then
    if c.text? "type" = some "keyDown" then ((c.text? "text").getD "").toList
    else if c.text? "type" = some "rawKeyDown" ∧ c.text? "key" = some "Tab" then ['\t']
    else []
  else []

theorem typed_insertText (text : String) : (insertText text).typed = text.toList := by
  simp [typed, method, text?, params, Json.get?, Json.find?, Json.asString?]

theorem text?_key (e : KeyEvent) : (key e).text? "type" = some e.kind.name ∧
    (key e).text? "key" = some e.definition.key ∧ (key e).text? "text" = e.typed? := by
  obtain ⟨htype, hkey, htext⟩ := params_of_key e
  refine ⟨?_, ?_, ?_⟩
  · rw [text?, htype]
    rfl
  · rw [text?, hkey]
    rfl
  · rw [text?, htext]
    cases e.typed? <;> rfl

theorem typed_key (e : KeyEvent) : (key e).typed =
    match e.kind with
    | .down => (e.definition.text.getD "").toList
    | .rawDown => if e.definition.key = "Tab" then ['\t'] else []
    | .up => [] := by
  obtain ⟨htype, hkey, htext⟩ := text?_key e
  obtain ⟨kind, d, modifiers⟩ := e
  cases kind <;> simp [typed, method, htype, hkey, htext, KeyKind.name, KeyEvent.typed?]

end Command

/-! ## Commands up to the first that is refused -/

namespace Chrome

variable {chrome : Chrome}

/-- The browser accepts the commands `before`, which are sent to it one after the other, and then
refuses another one. -/
def RefusesAfter (chrome : Chrome) (before : List Command) (c : Command) (trouble : Trouble) :
    Prop :=
  chrome.answers (before ++ [c]) = before.map (fun _ ↦ none) ++ [some trouble]

theorem answers_untroubled (h : ∀ method nth, chrome.trouble method nth = none)
    (cs : List Command) : ∀ t ∈ chrome.answers cs, t = none := by
  induction cs generalizing chrome with
  | nil => simp [answers]
  | cons c cs ih =>
      have hrest : ∀ t ∈ (chrome.send c).2.answers cs, t = none := ih h
      exact List.forall_mem_cons.2 ⟨h _ _, hrest⟩

end Chrome

/-- What is said of a command of pointer or keyboard that fails. -/
def Command.complaint : Command → String
  | .pointer _ => "Mouse event failed"
  | .insertText _ => "Text insertion failed"
  | _ => "Key event failed"

namespace Stroke

theorem complaint_command (h : Hands) (s : Stroke) : (s.command h).complaint = s.complaint := by
  cases s <;> rfl

theorem commands_append (h : Hands) (ss ss' : List Stroke) :
    commands h (ss ++ ss') = commands h ss ++ commands (ss.foldl after h) ss' := by
  induction ss generalizing h with
  | nil => rfl
  | cons s ss ih => exact congrArg (s.command (s.after h) :: ·) (ih _)

end Stroke

namespace ChromePage

variable {chrome : Chrome} {h : Hands} {ss : List Stroke}

/-- Strokes fail with the failure that is kept while they are made, and succeed without one. -/
theorem result_strokes (persist : Bool) (chrome : Chrome) (page : ChromePage) (ss : List Stroke)
    (p : Primitive) (reply : p.Reply) :
    ((make persist chrome page.hands ss).failure = none →
      (strokes persist chrome page ss p reply).result = .ok reply) ∧
    ∀ e, (make persist chrome page.hands ss).failure = some e →
      (strokes persist chrome page ss p reply).result = .error e := by
  refine ⟨fun h ↦ ?_, fun e h ↦ ?_⟩ <;> simp only [strokes, h]

/-- Strokes whose commands are all accepted are all made. -/
theorem make_accepted (persist : Bool)
    (haccepts : ∀ t ∈ chrome.answers (Stroke.commands h ss), t = none) :
    (make persist chrome h ss).sent = (Stroke.commands h ss).map (⟨·, false⟩) ∧
      (make persist chrome h ss).failure = none := by
  induction ss generalizing chrome h with
  | nil => exact ⟨rfl, rfl⟩
  | cons s ss ih =>
      obtain ⟨hnow, hlater⟩ := List.forall_mem_cons.1 haccepts
      obtain ⟨hsent, hfailure⟩ := ih hlater
      rw [make_of_accepted hnow]
      exact ⟨congrArg (⟨s.command (s.after h), false⟩ :: ·) hsent, hfailure⟩

/-- Strokes are made up to the first whose command is refused. -/
theorem make_refused {before after : List Command} {c : Command} {trouble : Trouble}
    (hsplit : Stroke.commands h ss = before ++ c :: after)
    (hrefuses : chrome.RefusesAfter before c trouble) :
    (make false chrome h ss).sent = before.map (⟨·, false⟩) ++ [⟨c, true⟩] ∧
      (make false chrome h ss).failure = some (failure c.complaint trouble) := by
  induction ss generalizing chrome h before with
  | nil => simp [Stroke.commands] at hsplit
  | cons s ss ih =>
      cases before with
      | nil =>
          obtain ⟨rfl, -⟩ := List.cons.inj hsplit
          have hnow : (chrome.send (s.command (s.after h))).1 = some trouble :=
            (List.cons.inj hrefuses).1
          rw [make_of_refused hnow, Stroke.complaint_command]
          exact ⟨rfl, rfl⟩
      | cons b before =>
          obtain ⟨rfl, hrest⟩ := List.cons.inj hsplit
          obtain ⟨hnow, hlater⟩ := List.cons.inj hrefuses
          obtain ⟨hsent, hfailure⟩ := ih hrest hlater
          rw [make_of_accepted hnow]
          exact ⟨congrArg (⟨s.command (s.after h), false⟩ :: ·) hsent, hfailure⟩

end ChromePage

/-! ## Characters -/

namespace Stroke

variable {h : Hands} {key : String} {c : Char}

theorem withKey_of_noModifier (hkey : (Key.define key).modifier = none) (held : Bool) :
    withKey h held key = h := by
  rw [withKey, hkey]

/-- A character taps a key that is no modifier, or is inserted. -/
theorem ofChar_cases (c : Char) :
    (∃ key, ofChar c = tap key ∧ (Key.define key).modifier = none) ∨
      ∃ text, ofChar c = [insert text] := by
  unfold ofChar
  split
  · exact .inl ⟨"Enter", rfl, rfl⟩
  · split
    · exact .inl ⟨"Tab", rfl, rfl⟩
    · split
      · exact .inl ⟨c.toString, rfl, (Key.define_char c).2⟩
      · exact .inr ⟨c.toString, rfl⟩

theorem commands_tap (hkey : (Key.define key).modifier = none) :
    commands h (tap key) =
      [.key ⟨downKind h.modifiers (Key.define key), Key.define key, h.modifiers.mask⟩,
        .key ⟨.up, Key.define key, h.modifiers.mask⟩] := by
  simp [commands, tap, command, after, withKey_of_noModifier hkey]

/-- A stroke of a character changes nothing that the page remembers. -/
theorem after_of_mem_ofChars {cs : List Char} {s : Stroke} (hs : s ∈ cs.flatMap ofChar)
    (h : Hands) : s.after h = h := by
  obtain ⟨c, -, hs⟩ := List.mem_flatMap.1 hs
  rcases ofChar_cases c with ⟨key, hchar, hkey⟩ | ⟨text, hchar⟩
  · have htap : s = keyDown key ∨ s = keyUp key := by simpa [hchar, tap] using hs
    rcases htap with rfl | rfl <;> exact withKey_of_noModifier hkey _
  · rw [hchar, List.mem_singleton] at hs
    rw [hs]
    rfl

theorem foldl_of_idle {ss : List Stroke} (hss : ∀ s ∈ ss, ∀ h : Hands, s.after h = h) (h : Hands) :
    ss.foldl after h = h := by
  induction ss with
  | nil => rfl
  | cons s ss ih =>
      obtain ⟨hs, hss⟩ := List.forall_mem_cons.1 hss
      rw [List.foldl_cons, hs, ih hss]

theorem commands_ofChars (h : Hands) (cs : List Char) :
    commands h (cs.flatMap ofChar) = cs.flatMap fun c ↦ commands h (ofChar c) := by
  induction cs with
  | nil => rfl
  | cons c cs ih =>
      have hmem : c ∈ c :: cs := List.mem_cons_self
      have hstay : (ofChar c).foldl after h = h :=
        foldl_of_idle (fun s hs ↦ after_of_mem_ofChars (List.mem_flatMap_of_mem hmem hs)) h
      rw [List.flatMap_cons, commands_append, hstay, ih, List.flatMap_cons]

theorem typed_tap {text : String} (hkey : (Key.define key).modifier = none)
    (htext : (Key.define key).text = some text) (hplain : h.modifiers.isShortcut = false) :
    (commands h (tap key)).flatMap Command.typed = text.toList := by
  have hdown : downKind h.modifiers (Key.define key) = .down := by
    simp [downKind, htext, hplain]
  simp [commands_tap hkey, hdown, Command.typed_key, htext]

/-- What a character types is the character, but for the end of a line. -/
theorem typed_ofChar (hplain : h.modifiers.isShortcut = false) (c : Char) :
    (commands h (ofChar c)).flatMap Command.typed = [if c = '\n' then '\r' else c] := by
  unfold ofChar
  split
  · rename_i hline
    have henter : (commands h (tap "Enter")).flatMap Command.typed = "\r".toList :=
      typed_tap rfl rfl hplain
    rcases hline with rfl | rfl <;> exact henter
  · rename_i hline
    have hne : c ≠ '\n' := fun hc ↦ hline (.inl hc)
    rw [if_neg hne]
    split
    · rename_i htab
      have hraw : downKind h.modifiers (Key.define "Tab") = .rawDown := rfl
      have hkey : (Key.define "Tab").key = "Tab" := rfl
      have hmodifier : (Key.define "Tab").modifier = none := rfl
      simp [commands_tap hmodifier, hraw, hkey, Command.typed_key, htab]
    · split
      · obtain ⟨htext, hkey⟩ := Key.define_char c
        rw [typed_tap hkey htext hplain]
        simp
      · simp [commands, command, Command.typed_insertText]

/-- A key that goes down to type comes up next. -/
theorem up_follows_down (h : Hands) (cs : List Char) {before after : List Command} {e : KeyEvent}
    (hsplit : commands h (cs.flatMap ofChar) = before ++ .key e :: after) (he : e.kind ≠ .up) :
    ∃ e' rest, after = .key e' :: rest ∧ e'.kind = .up ∧ e'.definition = e.definition := by
  rw [commands_ofChars] at hsplit
  induction cs generalizing before with
  | nil => simp at hsplit
  | cons c cs ih =>
      rw [List.flatMap_cons] at hsplit
      rcases ofChar_cases c with ⟨key, hchar, hkey⟩ | ⟨text, hchar⟩
      · rw [hchar, commands_tap hkey] at hsplit
        -- the key event is the first or second one of this tap, or belongs to a later character
        match before with
        | [] =>
            obtain ⟨hfirst, rfl⟩ := List.cons.inj hsplit
            obtain rfl := Command.key.inj hfirst
            exact ⟨_, _, rfl, rfl, rfl⟩
        | [_] =>
            obtain ⟨-, hsecond⟩ := List.cons.inj hsplit
            obtain rfl := Command.key.inj (List.cons.inj hsecond).1
            exact absurd rfl he
        | _ :: _ :: before => exact ih (List.cons.inj (List.cons.inj hsplit).2).2
      · rw [hchar] at hsplit
        match before with
        | [] => exact absurd (List.cons.inj hsplit).1 nofun
        | _ :: before => exact ih (List.cons.inj hsplit).2

end Stroke

namespace ChromePage

theorem page_type (chrome : Chrome) (page : ChromePage) (text : String) :
    (apply (.type text) chrome page).page = page := by
  obtain ⟨made, hmade⟩ := make_made false chrome page.hands (Stroke.ofPrimitive (.type text))
  have hstay : made.foldl Stroke.after page.hands = page.hands :=
    Stroke.foldl_of_idle
      (fun s hs ↦ Stroke.after_of_mem_ofChars (hmade.isPrefix.subset hs)) page.hands
  exact congrArg ({ page with hands := · }) (hmade.hands.trans hstay)

/-- Typing a text while no shortcut is held. On a browser that accepts everything the commands
type the text, with every end of a line as the key for it has it, and each key that goes down comes
up at once. On any browser these commands are sent, up to the first that is refused, whose
failure is returned, and what the page remembers stays as it was. -/
theorem typing_is_faithful (chrome : Chrome) (page : ChromePage) (text : String)
    (hcontrol : page.hands.modifiers.has .control = false)
    (hsystem : page.hands.modifiers.has .system = false) :
    let full := (apply (.type text) {} page).events.map Sent.command
    let effect := apply (.type text) chrome page
    full.flatMap Command.typed = text.toList.map (fun c ↦ if c = '\n' then '\r' else c) ∧
    (∀ before e after, full = before ++ .key e :: after → e.kind ≠ .up →
      ∃ e' rest, after = .key e' :: rest ∧ e'.kind = .up ∧ e'.definition = e.definition) ∧
    ((∀ t ∈ chrome.answers full, t = none) →
      effect.result = .ok () ∧ effect.events = full.map (⟨·, false⟩)) ∧
    (∀ before c after trouble, full = before ++ c :: after →
      chrome.RefusesAfter before c trouble →
        effect.result = .error (failure c.complaint trouble) ∧
          effect.events = before.map (⟨·, false⟩) ++ [⟨c, true⟩]) ∧
    effect.page = page := by
  intro full effect
  have hplain : page.hands.modifiers.isShortcut = false :=
    Bool.or_eq_false_iff.2 ⟨hcontrol, hsystem⟩
  have hfull : full = Stroke.commands page.hands (text.toList.flatMap Stroke.ofChar) := by
    have hsent : (apply (.type text) {} page).events = _ :=
      (make_accepted false (Chrome.answers_untroubled (fun _ _ ↦ rfl) _)).1
    simp only [full, hsent, List.map_map]
    exact List.map_id _
  have hresult := result_strokes false chrome page (text.toList.flatMap Stroke.ofChar)
    (.type text) ()
  rw [hfull]
  refine ⟨?_, fun before e after hsplit he ↦ Stroke.up_follows_down _ _ hsplit he,
    fun haccepts ↦ ?_, fun before c after trouble hsplit hrefuses ↦ ?_, page_type chrome page text⟩
  · rw [Stroke.commands_ofChars, List.flatMap_assoc]
    simp only [Stroke.typed_ofChar hplain]
    exact List.map_eq_flatMap.symm
  · obtain ⟨hsent, hfailure⟩ := make_accepted false haccepts
    exact ⟨hresult.1 hfailure, hsent⟩
  · obtain ⟨hsent, hfailure⟩ := make_refused hsplit hrefuses
    exact ⟨hresult.2 _ hfailure, hsent⟩

/-- A page on which the left button and Shift are held. -/
def shiftedPage : ChromePage where
  hands := { buttons := { left := true }, modifiers := { shift := true } }

/-- A browser that inserts no text. -/
def literalChrome : Chrome where
  trouble := fun method _ ↦
    if method = "Input.insertText" then some (.refused (-32000) "no") else none

/-- Five keys are tapped there, and then the browser does not insert the snowman. -/
theorem shiftedPage_typing_is_faithful :
    shiftedPage.hands.modifiers.has .control = false ∧
      shiftedPage.hands.modifiers.has .system = false ∧
      ((apply (.type "/\n\tF \u2603~") {} shiftedPage).events.map Sent.command).flatMap
        Command.typed = ['/', '\r', '\t', 'F', ' ', '\u2603', '~'] ∧
      (apply (.type "/\n\tF \u2603~") literalChrome shiftedPage).result =
        .error (failure "Text insertion failed" (.refused (-32000) "no")) ∧
      (apply (.type "/\n\tF \u2603~") literalChrome shiftedPage).events.length = 11 ∧
      (apply (.type "/\n\tF \u2603~") literalChrome shiftedPage).page = shiftedPage := by
  obtain ⟨htyped, -, -, hrefused, hpage⟩ :=
    typing_is_faithful literalChrome shiftedPage "/\n\tF \u2603~" rfl rfl
  obtain ⟨hresult, hevents⟩ := hrefused
    (((apply (.type "/\n\tF \u2603~") {} shiftedPage).events.map Sent.command).take 10)
    (.insertText "\u2603") [.key ⟨.down, Key.define "~", 8⟩, .key ⟨.up, Key.define "~", 8⟩]
    (.refused (-32000) "no") rfl rfl
  refine ⟨rfl, rfl, htyped, hresult, ?_, hpage⟩
  rw [hevents]
  rfl

end ChromePage

end BrowserPilot
