import BrowserPilot.Proofs.Json.Row
import BrowserPilot.Proofs.Json.Quoted
import BrowserPilot.Research.Run
import BrowserPilot.Text.Pieces

namespace BrowserPilot

/-!
# Results in a prompt

The results stand on a line of their own, as a JSON list of strings. A string is written without
a line break whatever is in it, so that no question and no result can pass for that line.
-/

/-! ## What the printer writes on one line -/

namespace Json

theorem newline_notMem_escapeChar (c : Char) : '\n' ∉ escapeChar c := by
  unfold escapeChar
  split
  iterate 7 decide
  split
  · rename_i hcontrol
    have hdigit : ∀ n < 32, '\n' ∉ [hexDigit (n / 16), hexDigit (n % 16)] := by decide
    simpa using hdigit c.toNat hcontrol
  · rename_i hcontrol
    intro hmem
    obtain rfl := List.mem_singleton.1 hmem
    exact hcontrol (by decide)

theorem newline_notMem_quote (s : String) : '\n' ∉ quote s := by
  simp [quote, escape, newline_notMem_escapeChar]

theorem mem_joinComma {c : Char} {parts : List (List Char)} (h : c ∈ joinComma parts) :
    c = ',' ∨ ∃ part ∈ parts, c ∈ part := by
  cases parts with
  | nil => cases h
  | cons part parts =>
      rw [joinComma_cons, further] at h
      simp only [List.mem_append, List.mem_flatMap, List.mem_cons] at h
      rcases h with h | ⟨part', hpart', rfl | h⟩
      · exact .inr ⟨part, List.mem_cons_self, h⟩
      · exact .inl rfl
      · exact .inr ⟨part', List.mem_cons_of_mem _ hpart', h⟩

theorem renderItems_strings (ss : List String) : renderItems (ss.map .string) = ss.map quote := by
  induction ss with
  | nil => rfl
  | cons s ss ih => rw [List.map_cons, renderItems, ih, List.map_cons, renderChars]

theorem toList_render_strings (ss : List String) : (ofList .string ss).render.toList =
    '[' :: (joinComma (ss.map quote) ++ [']']) := by
  rw [render, String.toList_ofList, ofList, renderChars, renderItems_strings]
  rfl

theorem newline_notMem_strings (ss : List String) : '\n' ∉ (ofList .string ss).render.toList := by
  rw [toList_render_strings]
  intro hmem
  simp only [List.mem_cons, List.mem_append, List.not_mem_nil, or_false] at hmem
  rcases hmem with h | h | h
  · cases h
  · rcases mem_joinComma h with h | ⟨part, hpart, h⟩
    · cases h
    · obtain ⟨s, -, rfl⟩ := List.mem_map.1 hpart
      exact newline_notMem_quote s h
  · cases h

theorem render_strings_isList (ss : List String) :
    IsList IsString (ofList .string ss).render.toList ss := by
  rw [toList_render_strings]
  let items : List Item := ss.map fun s ↦ ⟨[], quote s, [], .nil, .nil⟩
  have hchars : items.map Item.chars = ss.map quote := by simp [items, Item.chars]
  refine .mk items ?_ ?_
  · rw [hchars]
    cases ss with
    | nil => exact .none .nil
    | cons s ss => exact .some _ _
  · rw [List.forall₂_map_left_iff]
    exact List.forall₂_same.2 fun s _ ↦ quote_isString s

/-- What was written as a list of strings is read as such. -/
theorem run_readList_render (ss : List String) :
    Scan.run (readList readText depthLimit) (ofList .string ss).render = .ok ss :=
  (readList_reads (by decide) (readText_reads _)).run_eq_ok (render_strings_isList ss)

end Json

namespace Research

/-! ## The last line -/

/-- The last line that is not empty. -/
def lastLine? (s : String) : Option (List Char) :=
  ((Text.pieces (· == '\n') s.toList).filter fun line ↦ !line.isEmpty).getLast?

/-- The list of strings after a label on the last line that is not empty. -/
def listed? (label : String) (prompt : String) : Option (List String) := do
  let line ← lastLine? prompt
  let list ← label.toList.isPrefixOf? line
  (Json.Scan.run (Json.readList Json.readText Json.depthLimit) (String.ofList list)).toOption

theorem filter_pieces_newlines (n : Nat) :
    (Text.pieces (· == '\n') (List.replicate n '\n')).filter (fun line ↦ !line.isEmpty) = [] := by
  induction n with
  | zero => rfl
  | succ n ih => simpa [List.replicate_succ, Text.pieces] using ih

theorem lastLine?_append {s : String} {before line : List Char} {n : Nat} (hline : '\n' ∉ line)
    (hne : line ≠ [])
    (hs : s.toList = before ++ '\n' :: (line ++ '\n' :: List.replicate n '\n')) :
    lastLine? s = some line := by
  have hwhole : Text.pieces (· == '\n') line = [line] :=
    Text.pieces_of_forall fun c hc ↦ beq_eq_false_iff_ne.2 fun h ↦ hline (h ▸ hc)
  rw [lastLine?, hs, Text.pieces_append rfl, Text.pieces_append rfl, hwhole, List.filter_append,
    List.filter_append, filter_pieces_newlines, List.append_nil]
  simp [hne]

theorem listed?_append {label prompt : String} {before : List Char} {results : List String}
    {n : Nat}
    (hlabel : '\n' ∉ label.toList) (hprompt : prompt.toList = before ++ '\n' ::
      (label.toList ++ (listing results).toList ++ '\n' :: List.replicate n '\n')) :
    listed? label prompt = some results := by
  have hline : '\n' ∉ label.toList ++ (listing results).toList := by
    rw [List.mem_append]
    exact not_or_intro hlabel (Json.newline_notMem_strings results)
  have hne : label.toList ++ (listing results).toList ≠ [] := by
    rw [listing, Json.toList_render_strings]
    simp
  have hlist : label.toList.isPrefixOf? (label.toList ++ (listing results).toList) =
      some (listing results).toList :=
    List.isPrefixOf?_eq_some_iff_append_eq.2 rfl
  rw [listed?, lastLine?_append hline hne hprompt]
  simp only [Option.bind_eq_bind, Option.bind_some, hlist, String.ofList_toList]
  rw [listing, Json.run_readList_render]
  rfl

theorem toList_reflectPrompt (question : String) (results : List String) :
    (reflectPrompt question results).toList = "Original user query: ".toList ++ question.toList ++
      '\n' :: ("Search results: ".toList ++ (listing results).toList ++ ['\n']) := by
  have hprompt : reflectPrompt question results =
      s!"Original user query: {question}\nSearch results: {listing results}\n" := rfl
  have hlabel : "\nSearch results: ".toList = '\n' :: "Search results: ".toList := rfl
  have hend : "\n".toList = ['\n'] := rfl
  simp only [hprompt, String.toList_append, toString, hlabel, hend, List.append_assoc,
    List.cons_append]

theorem toList_writePrompt (now : CivilTime) (question : String) (results : List String) :
    (writePrompt now question results).toList = "Current date and time: ".toList ++
      now.timestamp.toList ++ "\nOriginal query: ".toList ++ question.toList ++
        '\n' ::
          ("Summarized search results: ".toList ++ (listing results).toList ++ ['\n', '\n']) := by
  have hprompt : writePrompt now question results =
      s!"Current date and time: {now.timestamp}\nOriginal query: {question}\n" ++
        s!"Summarized search results: {listing results}\n\n" := rfl
  have hbreak : "\n".toList = ['\n'] := rfl
  have hend : "\n\n".toList = ['\n', '\n'] := rfl
  simp only [hprompt, String.toList_append, toString, hbreak, hend, List.append_assoc,
    List.cons_append, List.nil_append]

theorem listed?_reflectPrompt (question : String) (results : List String) :
    listed? "Search results: " (reflectPrompt question results) = some results :=
  listed?_append (n := 0) (by decide) (toList_reflectPrompt question results)

theorem listed?_writePrompt (now : CivilTime) (question : String) (results : List String) :
    listed? "Summarized search results: " (writePrompt now question results) = some results :=
  listed?_append (n := 1) (by decide) (toList_writePrompt now question results)

theorem reflectPrompt_injective {question question' : String} {results results' : List String}
    (h : reflectPrompt question results = reflectPrompt question' results') :
    question = question' ∧ results = results' := by
  have hlisted := listed?_reflectPrompt question results
  rw [h, listed?_reflectPrompt] at hlisted
  obtain rfl := Option.some.inj hlisted
  have hchars := congrArg String.toList h
  simp only [toList_reflectPrompt, List.append_cancel_right_eq, List.append_cancel_left_eq]
    at hchars
  exact ⟨String.toList_injective hchars, rfl⟩

theorem writePrompt_injective {now now' : CivilTime} {question question' : String}
    {results results' : List String} (hnow : now.timestamp = now'.timestamp)
    (h : writePrompt now question results = writePrompt now' question' results') :
    question = question' ∧ results = results' := by
  have hlisted := listed?_writePrompt now question results
  rw [h, listed?_writePrompt] at hlisted
  obtain rfl := Option.some.inj hlisted
  have hchars := congrArg String.toList h
  simp only [toList_writePrompt, hnow, List.append_cancel_right_eq, List.append_cancel_left_eq]
    at hchars
  exact ⟨String.toList_injective hchars, rfl⟩

/-- The prompts keep the question and the results apart and whole. -/
theorem prompts_carry_results (now now' : CivilTime) (question question' : String)
    (results results' : List String) :
    (reflectPrompt question results = reflectPrompt question' results' ↔
      question = question' ∧ results = results') ∧
    (now.timestamp = now'.timestamp ∧
        writePrompt now question results = writePrompt now' question' results' ↔
      now.timestamp = now'.timestamp ∧ question = question' ∧ results = results') ∧
    listed? "Search results: " (reflectPrompt question results) = some results ∧
    listed? "Summarized search results: " (writePrompt now question results) = some results := by
  refine ⟨⟨reflectPrompt_injective, ?_⟩, ⟨fun h ↦ ⟨h.1, writePrompt_injective h.1 h.2⟩, ?_⟩,
    listed?_reflectPrompt question results, listed?_writePrompt now question results⟩
  · rintro ⟨rfl, rfl⟩
    rfl
  · rintro ⟨hnow, rfl, rfl⟩
    refine ⟨hnow, String.toList_injective ?_⟩
    rw [toList_writePrompt, toList_writePrompt, hnow]

end Research

end BrowserPilot
