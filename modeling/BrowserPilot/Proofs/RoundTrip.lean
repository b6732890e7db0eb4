import BrowserPilot.Config
import BrowserPilot.Part
import BrowserPilot.Proofs.Action.Descriptor

namespace BrowserPilot

open Json

/-!
# What is written is read back

Actions, parts of a tool's output and the settings of a session each have one JSON
form that is written and a more generous one that is read. Reading the written form
gives the same thing again, so that a second round trip changes nothing.
-/

namespace Part

theorem ofJson_inverts : Inverts Part.ofJson Part.toJson := by
  intro p
  cases p with
  | text t =>
      have hfields : (field "text" toText
          [("text", .string t), ("type", .string "text")]).map Part.text = .value (.text t) :=
        Reading.map_eq_value_iff.2 ⟨t, toText_exact.inverts.field rfl, rfl⟩
      change ((field "text" toText
        [("text", .string t), ("type", .string "text")]).map Part.text).result = .ok (.text t)
      rw [hfields]
      rfl
  | image mime bytes =>
      let ms : Members := [("data", ofList (fun x : UInt8 ↦ ofNat x.toNat) bytes),
        ("mime_type", .string mime), ("type", .string "image")]
      have hfields : both (field "mime_type" toText) (field "data" (toListOf toUInt8)) ms =
          .value (mime, bytes) :=
        both_eq_value_iff.2
          ⟨toText_exact.inverts.field rfl, toUInt8_inverts.listOf.field rfl⟩
      change ((both (field "mime_type" toText) (field "data" (toListOf toUInt8)) ms).map
        fun p ↦ Part.image p.1 p.2).result = .ok (.image mime bytes)
      rw [hfields]
      rfl

end Part

namespace Config

theorem ofJson_inverts : Inverts Config.ofJson Config.toJson := by
  intro c
  have hexecutable : Inverts (toOptional toText) (ofOption Json.string) :=
    toText_exact.inverts.optional (by simp)
  rw [toJson, ofJson, Reading.result_eq_ok_iff, ofMembers, Reading.map_eq_value_iff]
  refine ⟨(c.headless, c.viewportWidth, c.viewportHeight, c.startUrl, c.waitMillis,
    c.maxWaitMillis, c.actionTimeoutSeconds, c.chromeExecutable, c.browserArgs), ?_, rfl⟩
  simp only [both_eq_value_iff]
  exact ⟨toBoolean_inverts.field rfl, toUInt32_inverts.field rfl, toUInt32_inverts.field rfl,
    toText_exact.inverts.field rfl, toUInt64_exact.inverts.field rfl,
    toUInt64_exact.inverts.field rfl, toUInt64_exact.inverts.field rfl,
    hexecutable.fieldOr rfl, toText_exact.inverts.listOf.field rfl⟩

end Config

/-- What is written is read back; so whatever is read, writing it and reading it again changes
nothing. -/
structure RoundTrips {α ε : Type} (read : Json → Except ε α) (write : α → Json) : Prop where
  reads : ∀ a, read (write a) = .ok a
  settles : ∀ v, (read v >>= fun a ↦ read (write a)) = read v

theorem RoundTrips.of_reads {α ε : Type} {read : Json → Except ε α} {write : α → Json}
    (h : ∀ a, read (write a) = .ok a) : RoundTrips read write := by
  refine ⟨h, fun v ↦ ?_⟩
  cases hv : read v with
  | error e => rfl
  | ok a => exact h a

/-- The JSON forms of actions, parts and settings. An action is written as an object of its kind,
which is the only form in which an action is read. -/
theorem wire_forms_round_trip :
    RoundTrips Action.ofDescriptor Action.toJson ∧ RoundTrips Part.ofJson Part.toJson ∧
      RoundTrips Config.ofJson Config.toJson ∧
      ∀ a : Action, a.toJson = .object a.members ∧ find? "type" a.members = some (.string a.kind) :=
  ⟨.of_reads Action.ofDescriptor_toJson, .of_reads Part.ofJson_inverts,
    .of_reads Config.ofJson_inverts, fun a ↦ ⟨a.toJson_eq_object, a.find?_type_members⟩⟩

end BrowserPilot
