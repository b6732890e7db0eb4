import BrowserPilot.Page.Recording
import BrowserPilot.Proofs.Tool.Arguments
import BrowserPilot.Protocol.Conversation

namespace BrowserPilot

open Json

/-!
# Actions that come through to the tool

To the tool only the arguments of an action's kind matter, and any value is a button. A
client's call is read more strictly: each argument has one type, whatever the action.
So an action comes through if and only if the button, and whatever the action does not
look at, have their types too.
-/

namespace ActionArguments

variable {α : Type} {ms : Members} {name : String}

/-- The values of an argument's type. -/
def Declared (name : String) (v : Json) : Prop :=
  match name with
  | "x" | "y" | "scroll_x" | "scroll_y" => ∃ n : Int64, v = ofInt n.toInt
  | "button" | "text" => ∃ s : String, v = .string s
  | "path" => ∃ items : List Json, v = .array items
  | "keys" => ∃ keys : List String, v = ofList .string keys
  | "duration_ms" => ∃ n : UInt64, v = ofNat n.toNat
  | _ => True

/-- An argument is left out, `null`, or of its type. -/
def Fits (ms : Members) (name : String) : Prop :=
  ∀ v, find? name ms = some v → v ≠ .null → Declared name v

theorem exists_optional_iff (name : String) {decode : Decoder α} {encode : α → Json}
    (hexact : Exact decode encode) : (∃ o, optional name decode ms = .value o) ↔
      ∀ v, find? name ms = some v → v ≠ .null → ∃ a, v = encode a := by
  simp only [optional, fieldOr_eq_value_iff]
  cases hv : find? name ms with
  | none => simp
  | some v =>
      by_cases hnull : v = .null
      · subst hnull
        simp [toOptional]
      · simp only [reduceCtorEq, false_and, Option.some.injEq, exists_eq_left', false_or,
          forall_eq', toOptional_of_ne_null hnull, hnull, ne_eq, not_false_eq_true, forall_const]
        constructor
        · rintro ⟨o, hread⟩
          cases ha : decode v with
          | error e => simp [ha, Except.map] at hread
          | ok a => exact ⟨a, (hexact v a).1 ha⟩
        · rintro ⟨a, ha⟩
          exact ⟨some a, by rw [(hexact v a).2 ha]; rfl⟩

/-- All arguments are read if and only if each is. -/
theorem exists_fields_iff : (∃ a, fields ms = .value a) ↔
    (∃ kind, find? "type" ms = some (.string kind)) ∧ ∀ name ∈ names, Fits ms name := by
  have hpath : Exact (toListOf toAny) Json.array := by
    have hlist : ofList (id : Json → Json) = .array := by
      funext items
      simp [ofList]
    exact hlist ▸ toAny_exact.listOf
  have hint (name : String) := @exists_optional_iff _ ms name _ _ toInt64_exact
  have htext (name : String) := @exists_optional_iff _ ms name _ _ toText_exact
  simp only [names, List.forall_mem_cons, List.not_mem_nil, false_implies, implies_true, and_true]
  constructor
  · rintro ⟨a, ha⟩
    obtain ⟨⟨⟨kind, x, y⟩, button, ⟨path, keys⟩, ⟨scrollX, scrollY⟩, text, millis⟩, hp, rfl⟩ :=
      Reading.map_eq_value_iff.1 ha
    simp only [both_eq_value_iff] at hp
    obtain ⟨⟨hkind, hx, hy⟩, hbutton, ⟨hlist, hkeys⟩, ⟨hscrollX, hscrollY⟩, hwords, hmillis⟩ := hp
    obtain ⟨v, hv, hread⟩ := field_eq_value_iff.1 hkind
    refine ⟨⟨kind, by rw [hv, (toText_exact v _).1 hread]⟩, (hint "x").1 ⟨x, hx⟩,
      (hint "y").1 ⟨y, hy⟩, (htext "button").1 ⟨button, hbutton⟩,
      (exists_optional_iff "path" hpath).1 ⟨path, hlist⟩,
      (exists_optional_iff "keys" toText_exact.listOf).1 ⟨keys, hkeys⟩,
      (hint "scroll_x").1 ⟨scrollX, hscrollX⟩, (hint "scroll_y").1 ⟨scrollY, hscrollY⟩,
      (htext "text").1 ⟨text, hwords⟩,
      (exists_optional_iff "duration_ms" toUInt64_exact).1 ⟨millis, hmillis⟩⟩
  · rintro ⟨⟨kind, hkind⟩, hx, hy, hbutton, hlist, hkeys, hscrollX, hscrollY, hwords, hmillis⟩
    obtain ⟨x, hx⟩ := (hint "x").2 hx
    obtain ⟨y, hy⟩ := (hint "y").2 hy
    obtain ⟨button, hbutton⟩ := (htext "button").2 hbutton
    obtain ⟨path, hlist⟩ := (exists_optional_iff "path" hpath).2 hlist
    obtain ⟨keys, hkeys⟩ := (exists_optional_iff "keys" toText_exact.listOf).2 hkeys
    obtain ⟨scrollX, hscrollX⟩ := (hint "scroll_x").2 hscrollX
    obtain ⟨scrollY, hscrollY⟩ := (hint "scroll_y").2 hscrollY
    obtain ⟨text, hwords⟩ := (htext "text").2 hwords
    obtain ⟨millis, hmillis⟩ := (exists_optional_iff "duration_ms" toUInt64_exact).2 hmillis
    have hfield : field "type" toText ms = .value kind := toText_exact.inverts.field hkind
    refine ⟨_, Reading.map_eq_value_iff.2
      ⟨((kind, x, y), button, (path, keys), (scrollX, scrollY), text, millis), ?_, rfl⟩⟩
    simp only [both_eq_value_iff]
    exact ⟨⟨hfield, hx, hy⟩, hbutton, ⟨hlist, hkeys⟩, ⟨hscrollX, hscrollY⟩, hwords, hmillis⟩

/-! ## What the action itself asks for -/

theorem fits_of_field {decode : Decoder α} {a : α} (h : field name decode ms = .value a)
    (hread : ∀ v, v ≠ .null → decode v = .ok a → Declared name v) : Fits ms name := by
  intro v hv hnull
  obtain ⟨v', hv', ha⟩ := field_eq_value_iff.1 h
  obtain rfl := Option.some.inj (hv.symm.trans hv')
  exact hread v hnull ha

theorem fits_of_fieldOr {decode : Decoder α} {default a : α}
    (h : fieldOr default name decode ms = .value a)
    (hread : ∀ v, v ≠ .null → decode v = .ok a → Declared name v) : Fits ms name := by
  intro v hv hnull
  rcases fieldOr_eq_value_iff.1 h with ⟨hnone, -⟩ | ⟨v', hv', ha⟩
  · simp [hv] at hnone
  · obtain rfl := Option.some.inj (hv.symm.trans hv')
    exact hread v hnull ha

end ActionArguments

namespace Action

open ActionArguments

variable {ms : Members} {kind : String} {a : Action}

/-- The arguments that an action takes only if they have their types. -/
def strict : Action → List String
  | click .. | doubleClick .. | move .. => ["x", "y"]
  | drag _ => ["path"]
  | keypress _ => ["keys"]
  | screenshot => []
  | scroll .. => ["x", "y", "scroll_x", "scroll_y"]
  | type _ => ["text"]
  | wait _ => ["duration_ms"]

/-- The arguments that an action does not look at, and the button, for which it takes any value. -/
def loose (a : Action) : List String := ActionArguments.names.filter fun name ↦ name ∉ a.strict

theorem fits_place {p : Int64 × Int64} (h : place ms = .value p) : Fits ms "x" ∧ Fits ms "y" := by
  obtain ⟨hx, hy⟩ := both_eq_value_iff.1 h
  exact ⟨fits_of_field hx fun v _ hv ↦ ⟨_, (toInt64_exact v _).1 hv⟩,
    fits_of_field hy fun v _ hv ↦ ⟨_, (toInt64_exact v _).1 hv⟩⟩

theorem fits_strict (hkind : kind ∈ kinds) (h : fieldsOf kind ms = .value a) :
    ∀ name ∈ a.strict, Fits ms name := by
  simp only [kinds, List.mem_cons, List.not_mem_nil, or_false] at hkind
  rcases hkind with rfl | rfl | rfl | rfl | rfl | rfl | rfl | rfl | rfl
  · obtain ⟨p, hp, rfl⟩ := Reading.map_eq_value_iff.1 h
    simpa [strict] using fits_place (both_eq_value_iff.1 hp).1
  · obtain ⟨p, hp, rfl⟩ := Reading.map_eq_value_iff.1 h
    simpa [strict] using fits_place hp
  · obtain ⟨path, hp, rfl⟩ := Reading.map_eq_value_iff.1 h
    have hpath : Fits ms "path" := fits_of_fieldOr hp fun v hnull hv ↦ by
      cases v with
      | array items => exact ⟨items, rfl⟩
      | null => exact absurd rfl hnull
      | _ => simp [toDefaulted, toListOf, unfit] at hv
    simpa [strict] using hpath
  · obtain ⟨keys, hp, rfl⟩ := Reading.map_eq_value_iff.1 h
    have hkeys : Fits ms "keys" :=
      fits_of_field hp fun v _ hv ↦ ⟨_, (toText_exact.listOf v _).1 hv⟩
    simpa [strict] using hkeys
  · obtain ⟨p, hp, rfl⟩ := Reading.map_eq_value_iff.1 h
    simpa [strict] using fits_place hp
  · obtain rfl : screenshot = a := by simpa [fieldsOf] using h
    simp [strict]
  · obtain ⟨p, hp, rfl⟩ := Reading.map_eq_value_iff.1 h
    obtain ⟨hplace, hdeltas⟩ := both_eq_value_iff.1 hp
    obtain ⟨hdx, hdy⟩ := both_eq_value_iff.1 hdeltas
    have hdelta (v : Json) (n : Int64) (hnull : v ≠ .null) (hv : toDefaulted 0 toInt64 v = .ok n) :
        ∃ n : Int64, v = ofInt n.toInt := by
      rw [toDefaulted_of_ne_null hnull] at hv
      exact ⟨n, (toInt64_exact v n).1 hv⟩
    have hx : Fits ms "scroll_x" := fits_of_fieldOr hdx fun v hnull hv ↦ hdelta v _ hnull hv
    have hy : Fits ms "scroll_y" := fits_of_fieldOr hdy fun v hnull hv ↦ hdelta v _ hnull hv
    simpa [strict] using ⟨(fits_place hplace).1, (fits_place hplace).2, hx, hy⟩
  · obtain ⟨text, hp, rfl⟩ := Reading.map_eq_value_iff.1 h
    have htext : Fits ms "text" := fits_of_field hp fun v _ hv ↦ ⟨_, (toText_exact v _).1 hv⟩
    simpa [strict] using htext
  · obtain ⟨millis, hp, rfl⟩ := Reading.map_eq_value_iff.1 h
    have hmillis : Fits ms "duration_ms" := fits_of_fieldOr hp fun v hnull hv ↦ by
      have hv := toUInt64_exact.null_or hv
      cases millis with
      | none => exact absurd hv hnull
      | some n => exact ⟨n, hv⟩
    simpa [strict] using hmillis

/-- An action comes through if the arguments that it does not check have their types. -/
theorem exists_fields_iff_loose (h : ofDescriptor (.object ms) = .ok a) :
    (∃ args, ActionArguments.fields ms = .value args) ↔ ∀ name ∈ a.loose, Fits ms name := by
  obtain ⟨kind, htype, hkind, hfields⟩ :=
    ofMembers_eq_ok_iff.1 (ofDescriptor_object_eq_ok_iff.1 h)
  rw [ActionArguments.exists_fields_iff]
  constructor
  · rintro ⟨-, hfits⟩ name hname
    exact hfits name (List.mem_filter.1 hname).1
  · intro hloose
    refine ⟨⟨kind, htype⟩, fun name hname ↦ ?_⟩
    -- an argument that the action checks has its type already
    by_cases hstrict : name ∈ a.strict
    · exact fits_strict hkind hfields name hstrict
    · exact hloose name (List.mem_filter.2 ⟨hname, by simpa using hstrict⟩)

end Action

/-! ## Calls of clients -/

namespace Tool

variable {ms : Members} {a : Action}

theorem ofJson_eq_ok_iff {args : ActionArguments} :
    ActionArguments.ofJson (.object ms) = .ok args ↔ ActionArguments.fields ms = .value args :=
  Reading.result_eq_ok_iff

theorem forwarded_of_fields {args : ActionArguments} (h : ActionArguments.fields ms = .value args) :
    browser.forwarded (.object ms) = .ok (.object args.members) := by
  have hread := ofJson_eq_ok_iff.2 h
  simp only [forwarded, hread]
  rfl

theorem runBrowser_of_ofDescriptor {π : Type} {args : Json} (h : Action.ofDescriptor args = .ok a)
    (c : Config) (ctx : CallContext) : (runBrowser c ctx args : Task π (List Part)) = do
      let o ← dispatch c a ctx.cancel
      return [o.part] := by
  simp only [runBrowser, h]
  rfl

end Tool

namespace Protocol.Offer

variable {π : Type} {ms : Members} {a : Action}

/-- A client whose arguments are read calls the tool with what is forwarded of them. -/
theorem callTool_browser (o : Offer) (canSample : Bool) {w : Json}
    (h : Tool.browser.forwarded (.object ms) = .ok w) :
    (o.callTool canSample "browser" (.object ms) : Operation π CallOutcome) =
      call o.registered o.settings "browser" { id := "call", canSample := canSample } w := by
  have hname : Tool.ofName? Tool.all "browser" = some .browser := rfl
  simp only [callTool, hname, h]

theorem callTool_browser_refused (o : Offer) (canSample : Bool)
    (h : ∀ args, ActionArguments.ofJson (.object ms) ≠ .ok args) :
    ∃ why : String, (o.callTool canSample "browser" (.object ms) : Operation π CallOutcome) =
      .done (.ok (.ofError s!"failed to deserialize parameters: {why}")) := by
  have hname : Tool.ofName? Tool.all "browser" = some .browser := rfl
  cases hread : ActionArguments.ofJson (.object ms) with
  | ok args => exact absurd hread (h args)
  | error why =>
      refine ⟨why.message, ?_⟩
      simp only [callTool, hname, Tool.forwarded, hread, Except.map]
      rfl

/-- The arguments of a client, which mean an action to the tool, are read if and only if those
that the action leaves open have their types. Then the call carries out this action, and else it
fails without doing anything. -/
theorem action_comes_through (o : Offer) (canSample : Bool)
    (h : Action.ofDescriptor (.object ms) = .ok a) :
    ((∃ args, ActionArguments.ofJson (.object ms) = .ok args) ↔
      ∀ name ∈ a.loose, ActionArguments.Fits ms name) ∧
    ((∀ name ∈ a.loose, ActionArguments.Fits ms name) → ∃ w,
      Tool.browser.forwarded (.object ms) = .ok w ∧ Action.ofDescriptor w = .ok a ∧
      (o.callTool canSample "browser" (.object ms) : Operation π CallOutcome) =
        call o.registered o.settings "browser" { id := "call", canSample := canSample } w ∧
      ∀ s ctx, (Tool.browser.run s ctx w : Task π (List Part)) = do
        let obs ← dispatch s.browser a ctx.cancel
        return [obs.part]) ∧
    ((¬ ∀ name ∈ a.loose, ActionArguments.Fits ms name) → ∃ why : String,
      (o.callTool canSample "browser" (.object ms) : Operation π CallOutcome) =
        .done (.ok (.ofError s!"failed to deserialize parameters: {why}"))) := by
  have hread : (∃ args, ActionArguments.ofJson (.object ms) = .ok args) ↔
      ∀ name ∈ a.loose, ActionArguments.Fits ms name := by
    simpa only [Tool.ofJson_eq_ok_iff] using Action.exists_fields_iff_loose h
  refine ⟨hread, fun hfits ↦ ?_, fun hfits ↦ ?_⟩
  · obtain ⟨args, hargs⟩ := (Action.exists_fields_iff_loose h).2 hfits
    have hw := Tool.forwarded_of_fields hargs
    have ha := (ActionArguments.ofDescriptor_members hargs a).2 h
    exact ⟨_, hw, ha, o.callTool_browser canSample hw,
      fun s ctx ↦ Tool.runBrowser_of_ofDescriptor ha s.browser ctx⟩
  · exact o.callTool_browser_refused canSample fun args hargs ↦ hfits (hread.1 ⟨args, hargs⟩)

/-- A click whose button is named in capitals, with arguments of other kinds and of none. -/
def shoutedClick : Members := [("button", .string "RIGHT"), ("note", .bool true),
  ("path", .null), ("text", .string "unused"), ("type", .string "click"), ("x", Json.ofInt 1),
  ("y", Json.ofInt 2)]

theorem shoutedClick_comes_through :
    Action.ofDescriptor (.object shoutedClick) = .ok (.click 1 2 .right) ∧
    (∀ name ∈ (Action.click 1 2 .right).loose, ActionArguments.Fits shoutedClick name) ∧
    ∃ w, Tool.browser.forwarded (.object shoutedClick) = .ok w ∧
      Action.ofDescriptor w = .ok (.click 1 2 .right) := by
  have hclick : Action.ofDescriptor (.object shoutedClick) = .ok (.click 1 2 .right) := rfl
  have hread : ∃ args, ActionArguments.ofJson (.object shoutedClick) = .ok args := ⟨_, rfl⟩
  obtain ⟨hiff, hruns, -⟩ := action_comes_through (π := RecordingPage)
    { settings := { browser := {} } } true hclick
  obtain ⟨w, hw, ha, -⟩ := hruns (hiff.1 hread)
  exact ⟨hclick, hiff.1 hread, w, hw, ha⟩

/-- A click with a button that is a number, and a screenshot at a place that is none. -/
def numberedClick : Members := [("button", Json.ofInt 3), ("type", .string "click"),
  ("x", Json.ofInt 1), ("y", Json.ofInt 2)]

def placedScreenshot : Members := [("type", .string "screenshot"), ("x", .string "abc")]

theorem ne_ok_of_toOption {ε α : Type} {x : Except ε α} (h : x.toOption.isSome = false) :
    ∀ a, x ≠ .ok a := by
  rintro a rfl
  cases h

/-- Not every action comes through: not with any value for a button, and not with any value for
an argument that it does not look at. -/
theorem loose_actions_refused :
    (Action.ofDescriptor (.object numberedClick) = .ok (.click 1 2 .left) ∧
      ∀ args, ActionArguments.ofJson (.object numberedClick) ≠ .ok args) ∧
    Action.ofDescriptor (.object placedScreenshot) = .ok .screenshot ∧
      ∀ args, ActionArguments.ofJson (.object placedScreenshot) ≠ .ok args := by
  have hbutton : ∀ args, ActionArguments.ofJson (.object numberedClick) ≠ .ok args :=
    ne_ok_of_toOption rfl
  have hplace : ∀ args, ActionArguments.ofJson (.object placedScreenshot) ≠ .ok args :=
    ne_ok_of_toOption rfl
  exact ⟨⟨rfl, hbutton⟩, rfl, hplace⟩

end Protocol.Offer

end BrowserPilot
