import BrowserPilot.Proofs.Json.Shape
import BrowserPilot.Research.Reply

namespace BrowserPilot.Research

open Json

/-!
# The replies that can be read

A plan and a reflection are JSON objects with their fields, each at most once. A list of the
fields in their order is read just as well.
-/

/-- The text of a planned search. -/
inductive IsPlannedSearch : List Char → PlannedSearch → Prop
  | object {text : List Char} {reason : Option String} {query : String} (members : List Member)
      (h : IsObject members text) (hreason : Tells IsString "reason" members reason)
      (hquery : Tells IsString "query" members (some query)) :
      IsPlannedSearch text ⟨reason.getD "", query⟩
  | list {inner : List Char} {reason query : String} (i j : Item)
      (hrow : Row [i.chars, j.chars] inner) (hreason : IsString i.text reason)
      (hquery : IsString j.text query) : IsPlannedSearch ('[' :: (inner ++ [']'])) ⟨reason, query⟩

/-- The text of a plan. -/
inductive IsPlan : List Char → Plan → Prop
  | object {text : List Char} {searches : List PlannedSearch} (members : List Member)
      (h : IsObject members text)
      (hsearches : Tells (IsList IsPlannedSearch) "searches" members (some searches)) :
      IsPlan text ⟨searches⟩
  | list {inner : List Char} {searches : List PlannedSearch} (i : Item) (hrow : Row [i.chars] inner)
      (hsearches : IsList IsPlannedSearch i.text searches) :
      IsPlan ('[' :: (inner ++ [']'])) ⟨searches⟩

/-- The text of a reflection. A list of it has one, two or three items. -/
inductive IsReflection : List Char → Reflection → Prop
  | object {text : List Char} {sufficient : Bool} {gap query : Option String}
      (members : List Member) (h : IsObject members text)
      (hsufficient : Tells IsBoolean "is_sufficient" members (some sufficient))
      (hgap : Tells IsString "knowledge_gap" members gap)
      (hquery : Tells IsString "follow_up_query" members query) :
      IsReflection text ⟨sufficient, gap.getD "", query.getD ""⟩
  | list {inner : List Char} {sufficient : Bool} (i : Item) (items : List Item)
      (texts : List String) (hrow : Row (i.chars :: items.map Item.chars) inner)
      (hsufficient : IsBoolean i.text sufficient)
      (htexts : List.Forall₂ (fun i s ↦ IsString i.text s) items texts) (hfew : texts.length ≤ 2) :
      IsReflection ('[' :: (inner ++ [']'])) ⟨sufficient, texts[0]?.getD "", texts[1]?.getD ""⟩

/-! ## Planned searches -/

def PlannedSearch.takes : Takes PlannedSearch.Partial := fun name p text p' ↦
  match name with
  | "reason" => ∃ s, IsString text s ∧ { p with reason := some s } = p'
  | "query" => ∃ s, IsString text s ∧ { p with query := some s } = p'
  | _ => False

theorem PlannedSearch.takes_cases {name : String} {p p' : PlannedSearch.Partial} {text : List Char}
    (h : PlannedSearch.takes name p text p') :
    (name = "reason" ∧ ∃ s, IsString text s ∧ { p with reason := some s } = p') ∨
      name = "query" ∧ ∃ s, IsString text s ∧ { p with query := some s } = p' := by
  unfold PlannedSearch.takes at h
  split at h
  · exact .inl ⟨rfl, h⟩
  · exact .inr ⟨rfl, h⟩
  · exact h.elim

theorem PlannedSearch.fieldsRead (depth : Nat) :
    FieldsRead PlannedSearch.reader PlannedSearch.takes depth := by
  intro f hf p
  simp only [PlannedSearch.reader, List.mem_cons, List.not_mem_nil, or_false] at hf
  rcases hf with rfl | rfl
  · exact (readText_reads depth).map fun s ↦ { p with reason := some s }
  · exact (readText_reads depth).map fun s ↦ { p with query := some s }

theorem PlannedSearch.reason_slot : Slot PlannedSearch.reader.fields PlannedSearch.takes "reason"
    IsString PlannedSearch.Partial.reason where
  known := ⟨_, rfl, fun _ ↦ rfl⟩
  own := by
    rintro p text _ ⟨s, hs, rfl⟩
    exact ⟨s, hs, rfl⟩
  others := by
    intro name p text p' hne h
    rcases PlannedSearch.takes_cases h with ⟨rfl, -⟩ | ⟨rfl, s, -, rfl⟩
    · exact absurd rfl hne
    · rfl

theorem PlannedSearch.query_slot : Slot PlannedSearch.reader.fields PlannedSearch.takes "query"
    IsString PlannedSearch.Partial.query where
  known := ⟨_, rfl, fun _ ↦ rfl⟩
  own := by
    rintro p text _ ⟨s, hs, rfl⟩
    exact ⟨s, hs, rfl⟩
  others := by
    intro name p text p' hne h
    rcases PlannedSearch.takes_cases h with ⟨rfl, s, -, rfl⟩ | ⟨rfl, -⟩
    · rfl
    · exact absurd rfl hne

theorem isString_unique (text : List Char) (s s' : String) (h : IsString text s)
    (h' : IsString text s') : s = s' :=
  (readText_reads 0).unique h h'

theorem PlannedSearch.isRecord_iff {text : List Char} {a : PlannedSearch} :
    IsRecord PlannedSearch.reader PlannedSearch.takes text a ↔ IsPlannedSearch text a := by
  constructor
  · intro h
    cases h with
    | @list inner got a items hrow h hwhole hbuild =>
        cases h with
        | nil _ hall => cases hall _ (List.mem_cons_of_mem _ List.mem_cons_self)
        | @cons _ _ _ _ _ i items hreason h =>
            cases h with
            | nil _ hall => cases hall _ List.mem_cons_self
            | @cons _ _ _ _ _ j items hquery h =>
                cases h with
                | nil =>
                    obtain ⟨reason, hreason, rfl⟩ := hreason
                    obtain ⟨query, hquery, rfl⟩ := hquery
                    obtain rfl := Option.some.inj hbuild
                    exact .list i j hrow hreason hquery
    | @object inner got a members hrow h hwhole hbuild =>
        have hreason := PlannedSearch.reason_slot.tells h rfl
        have hquery := PlannedSearch.query_slot.tells h rfl
        obtain ⟨query, hgot, rfl⟩ := Option.map_eq_some_iff.1 hbuild
        rw [hgot] at hquery
        exact .object members (h.isObject (fieldsRead 0) hrow) hreason hquery
  · intro h
    cases h with
    | @object text reason query members h hreason hquery =>
        obtain ⟨hrow, hnames, hvalues⟩ := h
        have hcollects : ∃ final, Collects PlannedSearch.reader.fields PlannedSearch.takes
            PlannedSearch.reader.start members final := by
          refine exists_collects _ hnames hvalues ?_ ?_ ?_
          · refine List.forall_mem_cons.2 ⟨hreason.atMostOnce fun _ s hs p ↦ ⟨_, s, hs, rfl⟩, ?_⟩
            exact List.forall_mem_singleton.2 (hquery.atMostOnce fun _ s hs p ↦ ⟨_, s, hs, rfl⟩)
          · refine List.forall_mem_cons.2 ⟨nofun, List.forall_mem_singleton.2 nofun⟩
          · refine List.forall_mem_cons.2 ⟨fun _ _ _ _ hne ↦ reason_slot.given_eq rfl hne, ?_⟩
            exact List.forall_mem_singleton.2 fun _ _ _ _ hne ↦ query_slot.given_eq rfl hne
        obtain ⟨final, hfinal⟩ := hcollects
        have hreason := PlannedSearch.reason_slot.eq_of_tells isString_unique hfinal rfl hreason
        have hquery := PlannedSearch.query_slot.eq_of_tells isString_unique hfinal rfl hquery
        refine .object members hrow hfinal ?_ ?_
        · simp [RecordReader.missing?, PlannedSearch.reader, hquery]
        · simp [PlannedSearch.reader, hreason, hquery]
    | list i j hrow hreason hquery =>
        refine .list [i, j] hrow (.cons ⟨_, hreason, rfl⟩ (.cons ⟨_, hquery, rfl⟩ (.nil _ ?_)))
          ?_ ?_
        · exact List.forall_mem_nil _
        · rfl
        · rfl

theorem PlannedSearch.read_reads {depth : Nat} (hdepth : 1 < depth) :
    Reads (PlannedSearch.reader.read depth) IsPlannedSearch :=
  (Json.read_reads hdepth (fieldsRead _)).of_iff fun _ _ ↦ isRecord_iff

/-! ## Plans -/

def Plan.takes : Takes (Option (List PlannedSearch)) := fun name _ text p' ↦
  match name with
  | "searches" => ∃ ss, IsList IsPlannedSearch text ss ∧ some ss = p'
  | _ => False

theorem searches_reads {depth : Nat} (hdepth : 2 < depth) :
    Reads (readList PlannedSearch.reader.read depth) (IsList IsPlannedSearch) :=
  readList_reads (Nat.lt_of_succ_lt hdepth) (PlannedSearch.read_reads (Nat.lt_sub_of_add_lt hdepth))

theorem Plan.fieldsRead {depth : Nat} (hdepth : 2 < depth) :
    FieldsRead Plan.reader Plan.takes depth := by
  intro f hf p
  obtain rfl := List.mem_singleton.1 hf
  exact (searches_reads hdepth).map some

theorem Plan.searches_slot :
    Slot Plan.reader.fields Plan.takes "searches" (IsList IsPlannedSearch) id where
  known := ⟨_, rfl, fun _ ↦ rfl⟩
  own := by
    rintro p text _ ⟨ss, hss, rfl⟩
    exact ⟨ss, hss, rfl⟩
  others := by
    intro name p text p' hne h
    unfold Plan.takes at h
    split at h
    · exact absurd rfl hne
    · exact h.elim

theorem Plan.isRecord_iff {text : List Char} {a : Plan} :
    IsRecord Plan.reader Plan.takes text a ↔ IsPlan text a := by
  constructor
  · intro h
    cases h with
    | list items hrow h hwhole hbuild =>
        cases h with
        | nil _ hall => cases hall _ List.mem_cons_self
        | @cons _ _ _ _ _ i items hsearches h =>
            cases h with
            | nil =>
                obtain ⟨searches, hsearches, rfl⟩ := hsearches
                obtain rfl := Option.some.inj hbuild
                exact .list i hrow hsearches
    | object members hrow h hwhole hbuild =>
        have hsearches := searches_slot.tells h rfl
        obtain ⟨searches, rfl, rfl⟩ := Option.map_eq_some_iff.1 hbuild
        exact .object members (h.isObject (fieldsRead (by decide : 2 < 3)) hrow) hsearches
  · intro h
    cases h with
    | @object text searches members h hsearches =>
        obtain ⟨hrow, hnames, hvalues⟩ := h
        have hcollects : ∃ final,
            Collects Plan.reader.fields Plan.takes Plan.reader.start members final := by
          refine exists_collects _ hnames hvalues ?_ ?_ ?_
          · exact List.forall_mem_singleton.2
              (hsearches.atMostOnce fun _ ss hss p ↦ ⟨_, ss, hss, rfl⟩)
          · exact List.forall_mem_singleton.2 nofun
          · exact List.forall_mem_singleton.2 fun _ _ _ _ hne ↦ searches_slot.given_eq rfl hne
        obtain ⟨final, hfinal⟩ := hcollects
        have hunique : ∀ text ss ss', IsList IsPlannedSearch text ss →
            IsList IsPlannedSearch text ss' → ss = ss' :=
          fun _ _ _ ↦ (searches_reads (by decide : 2 < 3)).unique
        obtain rfl := searches_slot.eq_of_tells hunique hfinal rfl hsearches
        exact .object members hrow hfinal rfl rfl
    | list i hrow hsearches =>
        exact .list [i] hrow (.cons ⟨_, hsearches, rfl⟩ (.nil _ (List.forall_mem_nil _))) rfl rfl

theorem Plan.read_reads {depth : Nat} (hdepth : 3 < depth) :
    Reads (Plan.reader.read depth) IsPlan :=
  (Json.read_reads (by omega) (fieldsRead (Nat.lt_sub_of_add_lt hdepth))).of_iff fun _ _ ↦
    isRecord_iff

/-! ## Reflections -/

def Reflection.takes : Takes Reflection.Partial := fun name p text p' ↦
  match name with
  | "is_sufficient" => ∃ b, IsBoolean text b ∧ { p with isSufficient := some b } = p'
  | "knowledge_gap" => ∃ s, IsString text s ∧ { p with knowledgeGap := some s } = p'
  | "follow_up_query" => ∃ s, IsString text s ∧ { p with followUpQuery := some s } = p'
  | _ => False

theorem Reflection.takes_cases {name : String} {p p' : Reflection.Partial} {text : List Char}
    (h : Reflection.takes name p text p') :
    (name = "is_sufficient" ∧ ∃ b, IsBoolean text b ∧ { p with isSufficient := some b } = p') ∨
      (name = "knowledge_gap" ∧ ∃ s, IsString text s ∧ { p with knowledgeGap := some s } = p') ∨
        name = "follow_up_query" ∧ ∃ s, IsString text s ∧
          { p with followUpQuery := some s } = p' := by
  unfold Reflection.takes at h
  split at h
  · exact .inl ⟨rfl, h⟩
  · exact .inr (.inl ⟨rfl, h⟩)
  · exact .inr (.inr ⟨rfl, h⟩)
  · exact h.elim

theorem Reflection.fieldsRead (depth : Nat) :
    FieldsRead Reflection.reader Reflection.takes depth := by
  intro f hf p
  simp only [Reflection.reader, List.mem_cons, List.not_mem_nil, or_false] at hf
  rcases hf with rfl | rfl | rfl
  · exact (readBoolean_reads depth).map fun b ↦ { p with isSufficient := some b }
  · exact (readText_reads depth).map fun s ↦ { p with knowledgeGap := some s }
  · exact (readText_reads depth).map fun s ↦ { p with followUpQuery := some s }

theorem Reflection.sufficient_slot : Slot Reflection.reader.fields Reflection.takes "is_sufficient"
    IsBoolean Reflection.Partial.isSufficient where
  known := ⟨_, rfl, fun _ ↦ rfl⟩
  own := by
    rintro p text _ ⟨b, hb, rfl⟩
    exact ⟨b, hb, rfl⟩
  others := by
    intro name p text p' hne h
    rcases Reflection.takes_cases h with ⟨rfl, -⟩ | ⟨rfl, s, -, rfl⟩ | ⟨rfl, s, -, rfl⟩
    · exact absurd rfl hne
    · rfl
    · rfl

theorem Reflection.gap_slot : Slot Reflection.reader.fields Reflection.takes "knowledge_gap"
    IsString Reflection.Partial.knowledgeGap where
  known := ⟨_, rfl, fun _ ↦ rfl⟩
  own := by
    rintro p text _ ⟨s, hs, rfl⟩
    exact ⟨s, hs, rfl⟩
  others := by
    intro name p text p' hne h
    rcases Reflection.takes_cases h with ⟨rfl, b, -, rfl⟩ | ⟨rfl, -⟩ | ⟨rfl, s, -, rfl⟩
    · rfl
    · exact absurd rfl hne
    · rfl

theorem Reflection.query_slot : Slot Reflection.reader.fields Reflection.takes "follow_up_query"
    IsString Reflection.Partial.followUpQuery where
  known := ⟨_, rfl, fun _ ↦ rfl⟩
  own := by
    rintro p text _ ⟨s, hs, rfl⟩
    exact ⟨s, hs, rfl⟩
  others := by
    intro name p text p' hne h
    rcases Reflection.takes_cases h with ⟨rfl, b, -, rfl⟩ | ⟨rfl, s, -, rfl⟩ | ⟨rfl, -⟩
    · rfl
    · rfl
    · exact absurd rfl hne

theorem Reflection.isReflection_list {inner : List Char} {items : List Item} {a : Reflection}
    {got : Reflection.Partial} (hrow : Row (items.map Item.chars) inner)
    (h : InOrder Reflection.takes Reflection.reader.fields Reflection.reader.start items got)
    (hbuild : Reflection.reader.build got = some a) : IsReflection ('[' :: (inner ++ [']'])) a := by
  cases h with
  | nil _ hall => cases hall _ List.mem_cons_self
  | @cons _ _ _ _ _ i items hsufficient h =>
      obtain ⟨sufficient, hsufficient, rfl⟩ := hsufficient
      cases h with
      | nil =>
          obtain rfl := Option.some.inj hbuild
          exact .list i [] [] hrow hsufficient .nil (by decide)
      | @cons _ _ _ _ _ j items hgap h =>
          obtain ⟨gap, hgap, rfl⟩ := hgap
          cases h with
          | nil =>
              obtain rfl := Option.some.inj hbuild
              exact .list i [j] [gap] hrow hsufficient (.cons hgap .nil) (by simp)
          | @cons _ _ _ _ _ k items hquery h =>
              obtain ⟨query, hquery, rfl⟩ := hquery
              cases h with
              | nil =>
                  obtain rfl := Option.some.inj hbuild
                  exact .list i [j, k] [gap, query] hrow hsufficient
                    (.cons hgap (.cons hquery .nil)) (by simp)

theorem Reflection.exists_inOrder {i : Item} {items : List Item} {sufficient : Bool}
    {texts : List String} (hsufficient : IsBoolean i.text sufficient)
    (htexts : List.Forall₂ (fun i s ↦ IsString i.text s) items texts) (hfew : texts.length ≤ 2) :
    InOrder Reflection.takes Reflection.reader.fields Reflection.reader.start (i :: items)
      ⟨some sufficient, texts[0]?, texts[1]?⟩ := by
  refine .cons ⟨_, hsufficient, rfl⟩ ?_
  cases htexts with
  | nil => exact .nil _ (by decide)
  | cons hgap htexts =>
      refine .cons ⟨_, hgap, rfl⟩ ?_
      cases htexts with
      | nil => exact .nil _ (by decide)
      | cons hquery htexts =>
          refine .cons ⟨_, hquery, rfl⟩ ?_
          cases htexts with
          | nil => exact .nil _ (List.forall_mem_nil _)
          | cons => simp at hfew

theorem Reflection.isRecord_iff {text : List Char} {a : Reflection} :
    IsRecord Reflection.reader Reflection.takes text a ↔ IsReflection text a := by
  constructor
  · intro h
    cases h with
    | list items hrow h hwhole hbuild => exact isReflection_list hrow h hbuild
    | object members hrow h hwhole hbuild =>
        have hsufficient := sufficient_slot.tells h rfl
        obtain ⟨sufficient, hgot, rfl⟩ := Option.map_eq_some_iff.1 hbuild
        rw [hgot] at hsufficient
        exact .object members (h.isObject (fieldsRead 0) hrow) hsufficient (gap_slot.tells h rfl)
          (query_slot.tells h rfl)
  · intro h
    cases h with
    | @object text sufficient gap query members h hsufficient hgap hquery =>
        obtain ⟨hrow, hnames, hvalues⟩ := h
        have hcollects : ∃ final, Collects Reflection.reader.fields Reflection.takes
            Reflection.reader.start members final := by
          refine exists_collects _ hnames hvalues ?_ ?_ ?_
          · refine List.forall_mem_cons.2
              ⟨hsufficient.atMostOnce fun _ b hb p ↦ ⟨_, b, hb, rfl⟩, ?_⟩
            refine List.forall_mem_cons.2 ⟨hgap.atMostOnce fun _ s hs p ↦ ⟨_, s, hs, rfl⟩, ?_⟩
            exact List.forall_mem_singleton.2 (hquery.atMostOnce fun _ s hs p ↦ ⟨_, s, hs, rfl⟩)
          · exact List.forall_mem_cons.2
              ⟨nofun, List.forall_mem_cons.2 ⟨nofun, List.forall_mem_singleton.2 nofun⟩⟩
          · refine List.forall_mem_cons.2 ⟨fun _ _ _ _ hne ↦ sufficient_slot.given_eq rfl hne, ?_⟩
            refine List.forall_mem_cons.2 ⟨fun _ _ _ _ hne ↦ gap_slot.given_eq rfl hne, ?_⟩
            exact List.forall_mem_singleton.2 fun _ _ _ _ hne ↦ query_slot.given_eq rfl hne
        obtain ⟨final, hfinal⟩ := hcollects
        have hunique : ∀ text b b', IsBoolean text b → IsBoolean text b' → b = b' :=
          fun _ _ _ ↦ (readBoolean_reads 0).unique
        have hsufficient := sufficient_slot.eq_of_tells hunique hfinal rfl hsufficient
        have hgap := gap_slot.eq_of_tells isString_unique hfinal rfl hgap
        have hquery := query_slot.eq_of_tells isString_unique hfinal rfl hquery
        refine .object members hrow hfinal ?_ ?_
        · simp [RecordReader.missing?, Reflection.reader, hsufficient]
        · simp [Reflection.reader, hsufficient, hgap, hquery]
    | list i items texts hrow hsufficient htexts hfew =>
        exact .list (i :: items) hrow (exists_inOrder hsufficient htexts hfew) rfl rfl

theorem Reflection.read_reads {depth : Nat} (hdepth : 1 < depth) :
    Reads (Reflection.reader.read depth) IsReflection :=
  (Json.read_reads hdepth (fieldsRead _)).of_iff fun _ _ ↦ isRecord_iff

end BrowserPilot.Research
