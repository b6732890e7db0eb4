import BrowserPilot.Proofs.Page.Pressed

namespace BrowserPilot

/-!
# What the browser is told

Each command for pointer or keyboard tells where the pointer is and what is held. The
page says there what was asked of it and what it has sent so far, whether or not the
browser refused any of it.
-/

/-! ## Masks -/

theorem HeldButtons.mask_and_bit (h : HeldButtons) (b : Button) :
    h.mask &&& bit b ≠ 0 ↔ h.has b = true := by
  obtain ⟨left, right, middle⟩ := h
  cases left <;> cases right <;> cases middle <;> cases b <;> decide

theorem HeldButtons.mask_eq_zero {h : HeldButtons} (hidle : ∀ b, h.has b = false) : h.mask = 0 := by
  have hnone : order.filter h.has = [] := List.filter_eq_nil_iff.2 fun b _ ↦ by simp [hidle b]
  rw [mask, hnone]
  rfl

theorem HeldModifiers.mask_and_bit (h : HeldModifiers) (m : Key.Modifier) :
    h.mask &&& m.bit ≠ 0 ↔ h.has m = true := by
  obtain ⟨alt, control, system, shift⟩ := h
  cases alt <;> cases control <;> cases system <;> cases shift <;> cases m <;> decide

theorem HeldModifiers.mask_eq_zero {h : HeldModifiers} (hidle : ∀ m, h.has m = false) :
    h.mask = 0 := by
  have hnone : Key.Modifier.all.filter h.has = [] :=
    List.filter_eq_nil_iff.2 fun m _ ↦ by simp [hidle m]
  rw [mask, hnone]
  rfl

/-! ## What was sent last -/

/-- Whether the latest of the commands that press a thing or let it go presses it, if there is
one. -/
def Holdable.latest? (x : Holdable) (log : List Sent) : Option Bool :=
  (log.filterMap fun s ↦ match s.command.edge? with
    | some (y, down) => if y = x then some down else none
    | none => none).getLast?

theorem Holdable.latest?_append_singleton (x : Holdable) (log : List Sent) (s : Sent) :
    x.latest? (log ++ [s]) = match s.command.edge? with
      | some (y, down) => if y = x then some down else x.latest? log
      | none => x.latest? log := by
  rcases hedge : s.command.edge? with _ | ⟨y, down⟩
  · simp [latest?, hedge]
  · by_cases hy : y = x <;> simp [latest?, hedge, hy]

theorem Holdable.latest?_append_silent (x : Holdable) (log : List Sent) {events : List Sent}
    (h : ∀ s ∈ events, s.command.edge? = none) : x.latest? (log ++ events) = x.latest? log := by
  have hnone : events.filterMap (fun s ↦ match s.command.edge? with
      | some (y, down) => if y = x then some down else none
      | none => none) = [] := by
    rw [List.filterMap_eq_nil_iff]
    intro s hs
    simp [h s hs]
  rw [latest?, List.filterMap_append, hnone, List.append_nil, latest?]

/-- The page remembers as held what a command pressed last. -/
def Hands.Tracks (h : Hands) (log : List Sent) : Prop :=
  ∀ x, h.has x = true ↔ x.latest? log = some true

theorem Hands.has_fresh (x : Holdable) : Hands.has {} x = false := by
  rcases x with b | m
  · cases b <;> rfl
  · cases m <;> rfl

/-- A page remembers nothing as held before anything was pressed. -/
theorem Hands.tracks_fresh {log : List Sent} (hquiet : ∀ s ∈ log, s.command.edge? = none) :
    Hands.Tracks {} log := by
  intro x
  have hlatest : x.latest? log = none := x.latest?_append_silent [] hquiet
  rw [hlatest, has_fresh]
  decide

theorem Hands.Tracks.stroke {h : Hands} {log : List Sent} (htracks : h.Tracks log) (s : Stroke)
    (failed : Bool) : (s.after h).Tracks (log ++ [⟨s.command (s.after h), failed⟩]) := by
  intro x
  rw [Stroke.has_after, Holdable.latest?_append_singleton, Stroke.edge_command]
  rcases s.edge? with _ | ⟨y, down⟩
  · exact htracks x
  · by_cases hy : y = x
    · simp [Holdable.turn, hy]
    · simpa [Holdable.turn, hy] using htracks x

/-! ## Where the pointer was asked to be -/

/-- Where a primitive asks the pointer to go. -/
def Primitive.target? : Primitive → Option Point
  | .move x y | .click x y _ | .doubleClick x y => some ⟨x, y⟩
  | _ => none

/-- Where the latest of some primitives asked the pointer to go. -/
def Primitive.aim (asked : List Primitive) : Point :=
  (asked.filterMap target?).getLast?.getD ⟨0, 0⟩

theorem Primitive.aim_append_singleton (asked : List Primitive) (p : Primitive) :
    aim (asked ++ [p]) = p.target?.getD (aim asked) := by
  cases htarget : p.target? <;> simp [aim, htarget]

/-- Where the page remembers the pointer to be. -/
def Hands.place (h : Hands) : Point := ⟨h.x, h.y⟩

theorem Stroke.place_after (h : Hands) {s : Stroke} (hs : ∀ x y, s ≠ .move x y) :
    (s.after h).place = h.place := by
  have hkey (held : Bool) (key : String) : (withKey h held key).place = h.place := by
    unfold withKey
    split <;> rfl
  cases s with
  | move x y => exact absurd rfl (hs x y)
  | keyDown key => exact hkey true key
  | keyUp key => exact hkey false key
  | _ => rfl

/-- A primitive that has a target goes there first, and all its strokes stay there. -/
theorem Stroke.ofPrimitive_of_target {p : Primitive} {q : Point} (h : p.target? = some q) :
    ∃ rest, ofPrimitive p = .move q.x q.y :: rest ∧ ∀ s ∈ rest, ∀ x y, s ≠ .move x y := by
  cases p with
  | move x y | click x y b | doubleClick x y =>
      obtain rfl : (⟨x, y⟩ : Point) = q := by simpa [Primitive.target?] using h
      exact ⟨_, rfl, by simp⟩
  | _ => simp [Primitive.target?] at h

theorem Stroke.ofPrimitive_of_noTarget {p : Primitive} (h : p.target? = none) :
    ∀ s ∈ ofPrimitive p, ∀ x y, s ≠ .move x y := by
  cases p with
  | move x y | click x y b | doubleClick x y => simp [Primitive.target?] at h
  | type text =>
      intro s hs x y
      obtain ⟨c, -, hc⟩ := List.mem_flatMap.1 hs
      unfold ofChar at hc
      rintro rfl
      split at hc
      · simp [tap] at hc
      · split at hc
        · simp [tap] at hc
        · split at hc <;> simp [tap] at hc
  | _ => simp [ofPrimitive]

/-! ## What a command tells -/

/-- A parameter of a command is a mask in which the bits of those things are set that are held. -/
def Command.Masks {α : Type} (c : Command) (name : String) (bit : α → Nat) (held : α → Prop) :
    Prop :=
  ∃ mask : Nat, c.params.get? name = some (Json.ofNat mask) ∧ ∀ a, mask &&& bit a ≠ 0 ↔ held a

/-- A command tells the place of the pointer, as doubles. -/
def Command.Places (c : Command) (q : Point) : Prop :=
  c.params.get? "x" = some (.number (.double (.ofInt q.x.toInt))) ∧
    c.params.get? "y" = some (.number (.double (.ofInt q.y.toInt)))

/-- What a command has to tell that is sent on behalf of the last of the primitives `asked` and is
the last of the commands `log`. -/
def Command.Tells (asked : List Primitive) (log : List Sent) (c : Command) : Prop :=
  let held x := Holdable.latest? x log = some true
  match c with
  | .pointer _ => c.Places (Primitive.aim asked) ∧
      c.Masks "buttons" HeldButtons.bit (fun b ↦ held (.button b)) ∧
      c.Masks "modifiers" Key.Modifier.bit (fun m ↦ held (.modifier m))
  | .key _ => c.Masks "modifiers" Key.Modifier.bit (fun m ↦ held (.modifier m))
  | _ => True

theorem Command.params_pointer (e : PointerEvent) :
    (pointer e).Places ⟨e.x, e.y⟩ ∧
      (pointer e).params.get? "buttons" = some (Json.ofNat e.buttons) ∧
      (pointer e).params.get? "modifiers" = some (Json.ofNat e.modifiers) := by
  obtain ⟨kind, x, y, modifiers, buttons, _ | ⟨b, count⟩⟩ := e <;>
    simp [Places, params, PointerEvent.params, Json.ofMembers, Json.get?,
      Json.find?_insertMember_self, Json.find?_insertMember_ne]

theorem Command.params_key (e : KeyEvent) :
    (key e).params.get? "modifiers" = some (Json.ofNat e.modifiers) := by
  obtain ⟨kind, d, modifiers⟩ := e
  cases hnumber : d.number <;> cases hlocation : d.location <;>
    cases htext : KeyEvent.typed? ⟨kind, d, modifiers⟩ <;>
      simp [params, KeyEvent.params, hnumber, hlocation, htext, Json.ofMembers, Json.get?,
        Json.find?_insertMember_self, Json.find?_insertMember_ne]

theorem Stroke.tells_command {asked : List Primitive} {log : List Sent} {h : Hands} (s : Stroke)
    (hplace : h.place = Primitive.aim asked) (htracks : h.Tracks log) :
    (s.command h).Tells asked log := by
  have hbuttons (b : Button) :
      h.buttons.mask &&& HeldButtons.bit b ≠ 0 ↔ Holdable.latest? (.button b) log = some true :=
    (h.buttons.mask_and_bit b).trans (htracks (.button b))
  have hmodifiers (m : Key.Modifier) :
      h.modifiers.mask &&& m.bit ≠ 0 ↔ Holdable.latest? (.modifier m) log = some true :=
    (h.modifiers.mask_and_bit m).trans (htracks (.modifier m))
  have hpointer (kind : PointerKind) (button : Option (Button × Nat)) :
      (pointer h kind button).Tells asked log := by
    obtain ⟨hxy, hb, hm⟩ := Command.params_pointer
      ⟨kind, h.x, h.y, h.modifiers.mask, h.buttons.mask, button⟩
    exact ⟨hplace ▸ hxy, ⟨_, hb, hbuttons⟩, _, hm, hmodifiers⟩
  have hkey (kind : KeyKind) (d : Key.Definition) :
      (Command.key ⟨kind, d, h.modifiers.mask⟩).Tells asked log :=
    ⟨_, Command.params_key ⟨kind, d, h.modifiers.mask⟩, hmodifiers⟩
  cases s with
  | move x y => exact hpointer .moved none
  | press b count => exact hpointer .pressed (some (b, count))
  | release b count => exact hpointer .released (some (b, count))
  | keyDown key => exact hkey _ _
  | keyUp key => exact hkey _ _
  | insert text => trivial

/-! ## A row of strokes -/

/-- The commands of strokes that are made one after the other. -/
def Stroke.commands (h : Hands) : List Stroke → List Command
  | [] => []
  | s :: rest => s.command (s.after h) :: commands (s.after h) rest

/-- After the commands `log`, some more have been sent on behalf of the last of the primitives
`asked`, and the page remembers `h`. -/
structure Recounts (asked : List Primitive) (log events : List Sent) (h : Hands) : Prop where
  tells : ∀ pre s post, events = pre ++ s :: post → s.command.Tells asked (log ++ pre ++ [s])
  tracks : h.Tracks (log ++ events)
  place : h.place = Primitive.aim asked

theorem Recounts.nil {asked : List Primitive} {log : List Sent} {h : Hands}
    (htracks : h.Tracks log) (hplace : h.place = Primitive.aim asked) :
    Recounts asked log [] h :=
  ⟨by simp, by simpa using htracks, hplace⟩

/-- Strokes that begin at the place that was asked for, or go there first, and do not leave it. -/
theorem Recounts.strokes {asked : List Primitive} {ss : List Stroke}
    (hsteady : ∀ x y, .move x y ∈ ss → (⟨x, y⟩ : Point) = Primitive.aim asked) :
    ∀ {h : Hands} {log events : List Sent}, h.Tracks log →
      (h.place = Primitive.aim asked ∨
        ∃ rest, ss = .move (Primitive.aim asked).x (Primitive.aim asked).y :: rest) →
      events.map Sent.command = Stroke.commands h ss →
        Recounts asked log events (ss.foldl Stroke.after h) := by
  induction ss with
  | nil =>
      intro h log events htracks hplace hevents
      obtain rfl : events = [] := by simpa [Stroke.commands] using hevents
      exact .nil htracks (hplace.resolve_right (by simp))
  | cons s ss ih =>
      intro h log events htracks hplace hevents
      cases events with
      | nil => simp [Stroke.commands] at hevents
      | cons e events =>
          obtain ⟨c, failed⟩ := e
          obtain ⟨hc, hcommands⟩ := List.cons.inj hevents
          obtain rfl : c = s.command (s.after h) := hc
          have hthere : (s.after h).place = Primitive.aim asked := by
            by_cases hs : ∃ x y, s = .move x y
            · obtain ⟨x, y, rfl⟩ := hs
              exact hsteady x y List.mem_cons_self
            · have hstay : ∀ x y, s ≠ .move x y := fun x y h ↦ hs ⟨x, y, h⟩
              rw [Stroke.place_after h hstay]
              refine hplace.resolve_right ?_
              rintro ⟨rest, hrest⟩
              exact hstay _ _ (List.cons.inj hrest).1
          have htracks' := htracks.stroke s failed
          have hrest := ih (fun x y hmem ↦ hsteady x y (List.mem_cons_of_mem s hmem)) htracks'
            (.inl hthere) hcommands
          refine ⟨fun pre s' post hsplit ↦ ?_, ?_, hrest.place⟩
          · rcases List.cons_eq_append_iff.1 hsplit with ⟨rfl, hfirst⟩ | ⟨pre, rfl, hlater⟩
            · obtain ⟨rfl, -⟩ := List.cons.inj hfirst
              rw [List.append_nil]
              exact s.tells_command hthere htracks'
            · have htells := hrest.tells pre s' post hlater
              rwa [List.append_assoc log, List.singleton_append] at htells
          · have htracks'' := hrest.tracks
            rwa [List.append_assoc, List.singleton_append] at htracks''

/-- Commands that have nothing to do with pointer and keyboard. -/
theorem Recounts.silent {asked : List Primitive} {log events : List Sent} {h : Hands}
    (htracks : h.Tracks log) (hplace : h.place = Primitive.aim asked)
    (hpointer : ∀ s ∈ events, ∀ e, s.command ≠ .pointer e)
    (hkey : ∀ s ∈ events, ∀ e, s.command ≠ .key e) : Recounts asked log events h := by
  have hsilent : ∀ s ∈ events, s.command.edge? = none := by
    intro s hs
    cases hc : s.command with
    | pointer e => exact absurd hc (hpointer s hs e)
    | key e => exact absurd hc (hkey s hs e)
    | _ => rfl
  refine ⟨fun pre s post hsplit ↦ ?_, fun x ↦ ?_, hplace⟩
  · have hs : s ∈ events := by simp [hsplit]
    cases hc : s.command with
    | pointer e => exact absurd hc (hpointer s hs e)
    | key e => exact absurd hc (hkey s hs e)
    | _ => trivial
  · rw [x.latest?_append_silent log hsilent]
    exact htracks x

end BrowserPilot
